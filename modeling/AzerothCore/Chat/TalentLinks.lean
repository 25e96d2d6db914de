import AzerothCore.Chat.Hyperlinks
import AzerothCore.Utilities.MoneyString

/-!
# Links to talents

What `talent::StoreTo` makes of the data of a link, and the two functions that read it: the check
of its text, and the argument of a command.
-/

namespace AzerothCore.Chat.Hyperlinks.Talents
open MoneyString

def MAX_TALENT_RANK : ℕ := 5

structure TalentEntry where
  RankID : Vector ℕ MAX_TALENT_RANK

structure Stores (SpellInfo : Type*) where
  LookupEntry : ℕ → Option TalentEntry
  GetSpellInfo : ℕ → Option SpellInfo

structure TalentLinkData (SpellInfo : Type*) where
  Talent : TalentEntry
  Rank : ℕ
  Spell : Option SpellInfo

/-- `StringTo<int8>` -/
def StringToInt8 (str : List Char) : Option ℤ :=
  match str with
  | '-' :: digits => (StringTo digits).bind fun n => if n ≤ 128 then some (-n) else none
  | digits => (StringTo digits).bind fun n => if n ≤ 127 then some n else none

/-- `HyperlinkDataTokenizer::TryConsumeTo` -/
def TryConsumeTo {T : Type} (StringTo : List Char → Option T) (str : List Char) :
    Option (T × List Char) :=
  if str = [] then none
  else
    match find str ':' with
    | some off => (StringTo (str.take off)).map (·, str.drop (off + 1))
    | none => (StringTo str).map (·, [])

def fields (text : List Char) : Option (ℕ × ℤ) := do
  let (talentId, t) ← TryConsumeTo StringTo text
  let (rank, t) ← TryConsumeTo StringToInt8 t
  guard (t = [])
  return (talentId, rank)

variable {SpellInfo : Type*} (stores : Stores SpellInfo)

def StoreTo (text : List Char) : Option (TalentLinkData SpellInfo) :=
  match fields text with
  | none => none
  | some (talentId, rank) =>
    if rank < -1 ∨ MAX_TALENT_RANK ≤ rank then none
    else
      match stores.LookupEntry talentId with
      | none => none
      | some talent =>
        let Rank := toUint8 (rank + 1)
        if 0 < Rank then
          let spellId := talent.RankID[Rank - 1]?.getD 0
          if spellId = 0 then none
          else (stores.GetSpellInfo spellId).map fun spell => ⟨talent, Rank, some spell⟩
        else some ⟨talent, Rank, none⟩

/-- The spell that `LinkValidator<talent>` compares the text with. -/
def checkedSpell (data : TalentLinkData SpellInfo) : Option SpellInfo :=
  match data.Spell with
  | some info => some info
  | none => stores.GetSpellInfo data.Talent.RankID[0]

def IsTextValid (isSpellText : SpellInfo → List Char → Bool) (data : TalentLinkData SpellInfo)
    (text : List Char) : Bool :=
  match checkedSpell stores data with
  | none => false
  | some info => isSpellText info text

/-- `SpellInfoVisitor`; `none` is an index outside of `RankID`. -/
def SpellInfoVisitor (data : TalentLinkData SpellInfo) : Option (Option SpellInfo) :=
  let index : ℤ := data.Rank - 1
  if 0 ≤ index then (data.Talent.RankID[index.toNat]?).map stores.GetSpellInfo else none

variable {stores} {text : List Char} {data : TalentLinkData SpellInfo}

theorem StoreTo_cases (hstored : StoreTo stores text = some data) :
    (∃ talentId, fields text = some (talentId, -1)) ∧ data.Rank = 0 ∨
      (∀ talentId, fields text ≠ some (talentId, -1)) ∧ ∃ rank spellId spell,
        data.Rank = rank + 1 ∧ data.Talent.RankID[rank]? = some spellId ∧
          stores.GetSpellInfo spellId = some spell ∧ data.Spell = some spell := by
  rw [StoreTo] at hstored
  split at hstored
  · cases hstored
  rename_i talentId rank hfields
  split at hstored
  · cases hstored
  rename_i hrange
  split at hstored
  · cases hstored
  rename_i talent htalent
  have hRank : (toUint8 (rank + 1) : ℤ) = rank + 1 := by
    simp only [toUint8, MAX_TALENT_RANK, not_or] at hrange ⊢
    omega
  dsimp only at hstored
  split at hstored
  · rename_i hpos
    split at hstored
    · cases hstored
    rename_i hid
    obtain ⟨spell, hspell, rfl⟩ := Option.map_eq_some_iff.mp hstored
    refine .inr ⟨fun other hother => ?_, toUint8 (rank + 1) - 1, _, spell, ?_, ?_, hspell, rfl⟩
    · rw [hfields, Option.some_inj, Prod.mk.injEq] at hother
      omega
    · exact (Nat.sub_add_cancel hpos).symm
    · cases hread : talent.RankID[toUint8 (rank + 1) - 1]? with
      | none => simp [hread] at hid
      | some spellId => rfl
  · rename_i hzero
    obtain rfl := Option.some_inj.mp hstored
    have hrank : rank = -1 := by omega
    exact .inl ⟨⟨talentId, hrank ▸ hfields⟩, Nat.eq_zero_of_not_pos hzero⟩

/-- The visitor reads inside of `RankID`, and finds the spell that the text is compared with,
unless the rank of the link is -1. -/
theorem consumers_agree_iff (hstored : StoreTo stores text = some data) :
    SpellInfoVisitor stores data = some (checkedSpell stores data) ↔
      ∀ talentId, fields text ≠ some (talentId, -1) := by
  obtain ⟨⟨talentId, hfields⟩, hrank⟩ | ⟨hfields, rank, spellId, spell, hrank, hid, hinfo, hspell⟩ :=
    StoreTo_cases hstored
  · refine iff_of_false ?_ fun hne => hne talentId hfields
    simp [SpellInfoVisitor, hrank]
  · refine iff_of_true ?_ hfields
    simp [SpellInfoVisitor, checkedSpell, hrank, hid, hinfo, hspell]

def oneTalent : Stores ℕ where
  LookupEntry id := if id = 1 then some ⟨#v[16462, 16463, 0, 0, 0]⟩ else none
  GetSpellInfo := some

theorem second_rank_agrees :
    SpellInfoVisitor oneTalent ⟨⟨#v[16462, 16463, 0, 0, 0]⟩, 2, some 16463⟩ = some (some 16463) :=
  have hstored : StoreTo oneTalent "1:1".toList =
      some ⟨⟨#v[16462, 16463, 0, 0, 0]⟩, 2, some 16463⟩ := by rfl
  (consumers_agree_iff hstored).mpr fun talentId hfields => by
    have hpair : fields "1:1".toList = some (1, 1) := by rfl
    exact absurd (hpair.symm.trans hfields) (by simp)

theorem unlearned_reads_outside : ∃ data, StoreTo oneTalent "1:-1".toList = some data ∧
    SpellInfoVisitor oneTalent data = none ∧ checkedSpell oneTalent data = some 16462 :=
  ⟨⟨⟨#v[16462, 16463, 0, 0, 0]⟩, 0, none⟩, by rfl, by rfl, by rfl⟩

end AzerothCore.Chat.Hyperlinks.Talents
