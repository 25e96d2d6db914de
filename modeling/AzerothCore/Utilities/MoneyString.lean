import AzerothCore.Common.Define
import Mathlib.Data.List.Forall2

/-!
# `MoneyStringToMoney`

A sum of money is written as amounts of gold, silver and copper with spaces between
them. The amounts are read as `uint32`, but nothing checks what they come to.
-/

namespace AzerothCore.MoneyString
open List Option

/-- What `Acore::Tokenize` finds from a position on, when `token` has been read since
`start`. -/
def tokenizeFrom (sep : Char) (keepEmpty : Bool) (token : List Char) : List Char → List (List Char)
  | [] => if keepEmpty = true ∨ token ≠ [] then [token] else []
  | next :: str =>
    if next = sep then
      if keepEmpty = true ∨ token ≠ [] then token :: tokenizeFrom sep keepEmpty [] str
      else tokenizeFrom sep keepEmpty [] str
    else tokenizeFrom sep keepEmpty (token ++ [next]) str

def Tokenize (str : List Char) (sep : Char) (keepEmpty : Bool) : List (List Char) :=
  tokenizeFrom sep keepEmpty [] str

def decimalValue (digits : List Char) : ℕ :=
  digits.foldl (fun value digit => 10 * value + (digit.toNat - '0'.toNat)) 0

/-- `StringTo<uint32>`. -/
def StringTo (str : List Char) : Option ℕ :=
  if str ≠ [] ∧ str.all Char.isDigit = true ∧ decimalValue str < 2 ^ 32 then
    some (decimalValue str)
  else none

structure Purse where
  money : ℤ
  hadG : Bool
  hadS : Bool
  hadC : Bool

/-- The switch on the last character: the unit, and the flag set. -/
def Purse.unit (purse : Purse) : Char → Option (ℕ × Purse)
  | 'g' => if purse.hadG then none else some (100 * 100, { purse with hadG := true })
  | 's' => if purse.hadS then none else some (100, { purse with hadS := true })
  | 'c' => if purse.hadC then none else some (1, { purse with hadC := true })
  | _ => none

/-- `money += (unit * *amount)`: a product and a sum in `uint32`. -/
def Purse.add (purse : Purse) (unit amount : ℕ) : Purse :=
  { purse with money := int32 (uint32 (toUint32 purse.money + uint32 (unit * amount))) }

/-- The loop over the tokens. -/
def Purse.read (purse : Purse) : List (List Char) → Option ℤ
  | [] => some purse.money
  | token :: tokens =>
    match token.getLast?.bind purse.unit with
    | none => none
    | some (unit, marked) =>
      match StringTo token.dropLast with
      | none => none
      | some amount => (marked.add unit amount).read tokens

variable (moneyString : List Char)

def MoneyStringToMoney : Option ℤ :=
  (Purse.mk 0 false false false).read (Tokenize moneyString ' ' false)

inductive Coin where
  | gold
  | silver
  | copper
  deriving DecidableEq

def Coin.letter : Coin → Char
  | gold => 'g'
  | silver => 's'
  | copper => 'c'

def Coin.worth : Coin → ℕ
  | gold => 100 * 100
  | silver => 100
  | copper => 1

def Spells (token : List Char) (amount : ℕ × Coin) : Prop :=
  ∃ digits, token = digits ++ [amount.2.letter] ∧ digits ≠ [] ∧
    (∀ digit ∈ digits, digit.isDigit = true) ∧ decimalValue digits = amount.1 ∧
    amount.1 < 2 ^ 32

def SpellsMoney (amounts : List (ℕ × Coin)) : Prop :=
  List.Forall₂ Spells ((moneyString.splitOn ' ').filter (· ≠ [])) amounts ∧
    (amounts.map Prod.snd).Nodup

def total (amounts : List (ℕ × Coin)) : ℕ :=
  (amounts.map fun amount => amount.2.worth * amount.1).sum

variable {str token digits : List Char} {sep : Char} {tokens : List (List Char)}
  {amount : ℕ × Coin} {amounts : List (ℕ × Coin)} {purse : Purse} {coin : Coin} {money exact : ℤ}

theorem modifyHead_nil_append (pieces : List (List Char)) :
    pieces.modifyHead ([] ++ ·) = pieces := by
  cases pieces <;> rfl

theorem tokenizeFrom_eq : tokenizeFrom sep false token str =
      ((str.splitOn sep).modifyHead (token ++ ·)).filter (· ≠ []) := by
  induction str generalizing token with
  | nil =>
    rw [splitOn_nil, tokenizeFrom, List.modifyHead, append_nil]
    by_cases htoken : token = [] <;> simp [htoken]
  | cons next str ih =>
    rw [tokenizeFrom, List.splitOn, splitOnP_cons_eq_if_modifyHead]
    by_cases hsep : next = sep
    · rw [if_pos hsep, if_pos (beq_iff_eq.mpr hsep), ih, modifyHead_nil_append]
      by_cases htoken : token = [] <;> simp [htoken, List.splitOn]
    · rw [if_neg hsep, if_neg (mt beq_iff_eq.mp hsep), ih, modifyHead_modifyHead]
      simp [List.splitOn, Function.comp_def]

theorem Tokenize_eq : Tokenize str sep false = (str.splitOn sep).filter (· ≠ []) := by
  rw [Tokenize, tokenizeFrom_eq, modifyHead_nil_append]

theorem tokenizeFrom_true {sep : Char} {token str : List Char} :
    tokenizeFrom sep true token str = (str.splitOn sep).modifyHead (token ++ ·) := by
  induction str generalizing token with
  | nil => simp [tokenizeFrom]
  | cons next str ih =>
    rw [tokenizeFrom, List.splitOn, splitOnP_cons_eq_if_modifyHead]
    by_cases hsep : next = sep
    · simp only [hsep, ih, modifyHead_nil_append]
      simp [List.splitOn]
    · simp [hsep, ih, List.splitOn, Function.comp_def]

/-- `Tokenize` undoes joining and joining undoes it, as long as empty tokens are kept. -/
theorem Tokenize_joins (sep : Char) :
    (∀ str, [sep].intercalate (Tokenize str sep true) = str ∧
      Tokenize str sep false = (Tokenize str sep true).filter (· ≠ [])) ∧
    ∀ tokens, tokens ≠ [] → (∀ token ∈ tokens, sep ∉ token) →
      Tokenize ([sep].intercalate tokens) sep true = tokens := by
  have heq : ∀ str, Tokenize str sep true = str.splitOn sep := fun str => by
    rw [Tokenize, tokenizeFrom_true, modifyHead_nil_append]
  simp only [heq]
  exact ⟨fun str => ⟨intercalate_splitOn sep, Tokenize_eq⟩,
    fun tokens hne hfree => splitOn_intercalate sep hfree hne⟩

def Purse.had (purse : Purse) : Coin → Bool
  | .gold => purse.hadG
  | .silver => purse.hadS
  | .copper => purse.hadC

def Purse.mark (purse : Purse) : Coin → Purse
  | .gold => { purse with hadG := true }
  | .silver => { purse with hadS := true }
  | .copper => { purse with hadC := true }

theorem had_mark {other : Coin} :
    (purse.mark coin).had other = (decide (other = coin) || purse.had other) := by
  cases coin <;> cases other <;> rfl

theorem money_mark : (purse.mark coin).money = purse.money := by
  cases coin <;> rfl

theorem had_money : { purse with money := money }.had coin = purse.had coin := by
  cases coin <;> rfl

theorem had_add {unit value : ℕ} : (purse.add unit value).had coin = purse.had coin := had_money

theorem unit_letter : purse.unit coin.letter =
      if purse.had coin then none else some (coin.worth, purse.mark coin) := by
  cases coin <;> rfl

theorem exists_letter {last : Char} (hunit : purse.unit last ≠ none) :
    ∃ coin : Coin, last = coin.letter := by
  unfold Purse.unit at hunit
  split at hunit
  · exact ⟨.gold, rfl⟩
  · exact ⟨.silver, rfl⟩
  · exact ⟨.copper, rfl⟩
  · exact absurd rfl hunit

theorem letter_injective : Function.Injective Coin.letter := by
  intro a b heq
  cases a <;> cases b <;> first | rfl | exact absurd heq (by decide)

theorem spells_iff : Spells token amount ↔
      token.getLast? = some amount.2.letter ∧ StringTo token.dropLast = some amount.1 := by
  unfold Spells StringTo
  constructor
  · rintro ⟨digits, rfl, hne, hdigits, hvalue, hlt⟩
    rw [dropLast_concat, List.getLast?_concat, hvalue, if_pos ⟨hne, all_eq_true.mpr hdigits, hlt⟩]
    exact ⟨rfl, rfl⟩
  · rintro ⟨hlast, hvalue⟩
    split at hvalue
    · rename_i hdigits
      rw [Option.some.injEq] at hvalue
      refine ⟨token.dropLast, ?_, hdigits.1, all_eq_true.mp hdigits.2.1, hvalue,
        hvalue ▸ hdigits.2.2⟩
      exact (dropLast_append_getLast? _ hlast).symm
    · cases hvalue

theorem money_add {unit value : ℕ} (hmoney : purse.money = int32 exact) :
    (purse.add unit value).money = int32 (exact + (unit * value : ℕ)) := by
  have hmod : (uint32 (toUint32 purse.money + uint32 (unit * value)) : ℤ) % (2 ^ 32 : ℕ) =
      (exact + (unit * value : ℕ)) % (2 ^ 32 : ℕ) := by
    have hexact : (toUint32 purse.money : ℤ) = exact % (2 ^ 32 : ℕ) := by
      rw [hmoney, toUint32, int32, Int.toNat_of_nonneg (Int.emod_nonneg _ (by decide))]
      exact Int.bmod_emod
    rw [uint32, uint32, Nat.add_mod_mod, Int.natCast_mod, Int.emod_emod, Int.natCast_add, hexact,
      Int.emod_add_emod]
  rw [Purse.add]
  dsimp only
  rw [int32, int32, ← Int.emod_bmod, hmod, Int.emod_bmod]

theorem read_cons_eq_some_iff :
    purse.read (token :: tokens) = some money ↔ ∃ amount, Spells token amount ∧
      purse.had amount.2 = false ∧
      ((purse.mark amount.2).add amount.2.worth amount.1).read tokens = some money := by
  rw [Purse.read]
  constructor
  · intro hread
    rcases hunit : token.getLast?.bind purse.unit with _ | marked
    · simp [hunit] at hread
    obtain ⟨last, hlast, hletter⟩ := bind_eq_some_iff.mp hunit
    obtain ⟨coin, rfl⟩ := exists_letter (ne_of_eq_of_ne hletter (some_ne_none _))
    cases hhad : purse.had coin with
    | true => simp [unit_letter, hhad] at hletter
    | false =>
      rcases hvalue : StringTo token.dropLast with _ | value
      · simp [hunit, hvalue] at hread
      rw [unit_letter, hhad] at hletter
      rw [hunit, ← hletter, hvalue] at hread
      exact ⟨(value, coin), spells_iff.mpr ⟨hlast, hvalue⟩, hhad, hread⟩
  · rintro ⟨amount, hspells, hhad, hread⟩
    obtain ⟨hlast, hvalue⟩ := spells_iff.mp hspells
    rw [hlast, bind_some, unit_letter, hhad, hvalue]
    exact hread

theorem read_eq_some_iff (hmoney : purse.money = int32 exact) :
    purse.read tokens = some money ↔ ∃ amounts, List.Forall₂ Spells tokens amounts ∧
      (amounts.map Prod.snd).Nodup ∧ (∀ amount ∈ amounts, purse.had amount.2 = false) ∧
      money = int32 (exact + total amounts) := by
  induction tokens generalizing purse exact with
  | nil =>
    rw [Purse.read, hmoney, Option.some.injEq]
    constructor
    · rintro rfl
      exact ⟨[], List.Forall₂.nil, nodup_nil, by simp, by rw [total]; simp⟩
    · rintro ⟨amounts, hspells, -, -, rfl⟩
      cases hspells
      rw [total, map_nil, sum_nil, Int.natCast_zero, add_zero]
  | cons token tokens ih =>
    have hstep (amount : ℕ × Coin) : ((purse.mark amount.2).add amount.2.worth amount.1).money =
          int32 (exact + (amount.2.worth * amount.1 : ℕ)) :=
      money_add (money_mark.trans hmoney)
    have hcons (amount : ℕ × Coin) (amounts : List (ℕ × Coin)) :
        exact + (total (amount :: amounts) : ℤ) =
          exact + (amount.2.worth * amount.1 : ℕ) + total amounts := by
      rw [total, map_cons, sum_cons, Int.natCast_add, ← add_assoc]
      rfl
    rw [read_cons_eq_some_iff]
    constructor
    · rintro ⟨amount, hspell, hhad, hread⟩
      obtain ⟨amounts, hspells, hnodup, hothers, rfl⟩ := (ih (hstep amount)).mp hread
      have hmarked : ∀ other ∈ amounts, other.2 ≠ amount.2 ∧ purse.had other.2 = false := by
        intro other hother
        have h := hothers other hother
        rwa [had_add, had_mark, Bool.or_eq_false_iff, decide_eq_false_iff_not] at h
      refine ⟨amount :: amounts, List.Forall₂.cons hspell hspells, ?_, ?_,
        congrArg int32 (hcons _ _).symm⟩
      · rw [map_cons, nodup_cons]
        refine ⟨fun hmem => ?_, hnodup⟩
        obtain ⟨other, hother, heq⟩ := List.mem_map.mp hmem
        exact (hmarked other hother).1 heq
      · intro other hother
        rcases mem_cons.mp hother with rfl | hother
        · exact hhad
        · exact (hmarked other hother).2
    · rintro ⟨amounts, hspells, hnodup, hhad, rfl⟩
      rcases hspells with - | ⟨hspell, hspells⟩
      rename_i amount amounts
      rw [map_cons, nodup_cons] at hnodup
      refine ⟨amount, hspell, hhad amount mem_cons_self, (ih (hstep amount)).mpr
        ⟨amounts, hspells, hnodup.2, ?_, congrArg int32 (hcons _ _)⟩⟩
      intro other hother
      rw [had_add, had_mark, hhad other (mem_cons_of_mem _ hother), Bool.or_false,
        decide_eq_false_iff_not]
      intro heq
      exact hnodup.1 (List.mem_map.mpr ⟨other, hother, heq⟩)

theorem MoneyStringToMoney_eq_some_iff : MoneyStringToMoney str = some money ↔
      ∃ amounts, SpellsMoney str amounts ∧ money = int32 (total amounts) := by
  have hzero : (Purse.mk 0 false false false).money = int32 0 := rfl
  have hhad (coin : Coin) : (Purse.mk 0 false false false).had coin = false := by
    cases coin <;> rfl
  simp only [MoneyStringToMoney, read_eq_some_iff hzero, Tokenize_eq, zero_add, hhad,
    implies_true, true_and, SpellsMoney, and_assoc]

theorem spells_unique {other : ℕ × Coin} (hspells : Spells token amount)
    (hother : Spells token other) : amount = other := by
  obtain ⟨hlast, hvalue⟩ := spells_iff.mp hspells
  obtain ⟨hlast', hvalue'⟩ := spells_iff.mp hother
  rw [hlast, Option.some.injEq] at hlast'
  rw [hvalue, Option.some.injEq] at hvalue'
  exact Prod.ext hvalue' (letter_injective hlast')

theorem spellsMoney_unique {others : List (ℕ × Coin)} (hspells : SpellsMoney str amounts)
    (hothers : SpellsMoney str others) : amounts = others :=
  right_unique_forall₂' (R := Spells) (fun _ _ _ => spells_unique) hspells.1 hothers.1

def ReturnsTotal : Prop :=
  ∀ money : ℤ, MoneyStringToMoney moneyString = some money ↔
    ∃ amounts, SpellsMoney moneyString amounts ∧ total amounts < 2 ^ 31 ∧ money = total amounts

theorem returnsTotal_iff : ReturnsTotal moneyString ↔
      ∀ amounts, SpellsMoney moneyString amounts → total amounts < 2 ^ 31 := by
  constructor
  · intro htotal amounts hspells
    obtain ⟨others, hothers, hlt, -⟩ :=
      (htotal _).mp (MoneyStringToMoney_eq_some_iff.mpr ⟨amounts, hspells, rfl⟩)
    exact spellsMoney_unique hspells hothers ▸ hlt
  · intro hfits money
    have hint32 (value : ℕ) (hlt : value < 2 ^ 31) : int32 value = value :=
      Int.bmod_eq_of_le (by omega) (by omega)
    rw [MoneyStringToMoney_eq_some_iff]
    constructor
    · rintro ⟨amounts, hspells, heq⟩
      have hlt := hfits amounts hspells
      exact ⟨amounts, hspells, hlt, heq.trans (hint32 _ hlt)⟩
    · rintro ⟨amounts, hspells, hlt, heq⟩
      exact ⟨amounts, hspells, heq.trans (hint32 _ hlt).symm⟩

/-- More gold than an `int32` holds comes back as a debt. -/
theorem gold_overflows : ¬ ReturnsTotal "300000g".toList := by
  intro htotal
  have hread : MoneyStringToMoney "300000g".toList = some (-1294967296) := by decide
  obtain ⟨amounts, -, -, heq⟩ := (htotal _).mp hread
  omega

end AzerothCore.MoneyString
