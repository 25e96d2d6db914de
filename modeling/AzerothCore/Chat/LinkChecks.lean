import AzerothCore.Chat.Hyperlinks

/-!
# Checking the links of a message

`CheckAllLinks` goes over a message twice. The first pass lets every pipe take
the character behind it, the second reads escaped pipes and hyperlinks. Both
cut the message at the same places, so the second never looks past its end.
-/

namespace AzerothCore.Chat.LinkChecks

open List Option
open Hyperlinks

def controlCharacters : List Char := ['H', 'h', 'c', 'r', '|']

theorem findFrom_lt {str : List Char} {c : Char} {pos pipe : ℕ}
    (found : findFrom str c pos = some pipe) : pos ≤ pipe ∧ pipe < str.length := by
  simp only [findFrom, map_eq_some_iff] at found
  obtain ⟨skipped, there, rfl⟩ := found
  obtain ⟨before, after, parts, -, rfl⟩ := find_eq_some there
  have length_eq := congrArg List.length parts
  simp only [length_drop, length_append, length_cons] at length_eq
  omega

/-- Step 1: all control sequences except `||`, `|H`, `|h`, `|c` and `|r` are disallowed. -/
def checkControlSequences (str : List Char) (pos : ℕ) : Option Bool :=
  match _found : findFrom str '|' pos with
  | none => some true
  | some pipe =>
    if pipe + 1 = str.length then some false
    else
      match str[pipe + 1]? with
      | none => none
      | some next =>
        if next ∈ controlCharacters then checkControlSequences str (pipe + 2) else some false
termination_by str.length - pos
decreasing_by
  have := findFrom_lt _found
  omega

theorem tail_length_lt {str : List Char} {info : HyperlinkInfo}
    (parsed : ParseSingleHyperlink str = some info) (ok : info.ok = true) :
    info.tail.length < str.length := by
  obtain rejected | ⟨link, tail, rfl⟩ := ParseSingleHyperlink_cases str
  · rw [rejected] at parsed
    cases parsed
    exact absurd ok nofun
  · rw [ParseSingleHyperlink_of_link] at parsed
    cases parsed
    simp [Link.info, Link.toChars]
    omega

theorem find_lt {str : List Char} {c : Char} {pos : ℕ} (found : find str c = some pos) :
    pos < str.length := by
  obtain ⟨before, after, rfl, -, rfl⟩ := find_eq_some found
  simp

def checkLinkSequences (valid : HyperlinkInfo → Bool) (str : List Char) : Option Bool :=
  match _found : find str '|' with
  | none => some true
  | some pos =>
    match str[pos + 1]? with
    | none => none
    | some next =>
      if next = '|' then
        match substrFrom str (pos + 2) with
        | .error _ => none
        | .ok _ => checkLinkSequences valid (str.drop (pos + 2))
      else
        match _parsed : ParseSingleHyperlink (str.drop pos) with
        | none => none
        | some info =>
          if _accepted : !info.ok || !valid info then some false
          else checkLinkSequences valid info.tail
termination_by str.length
decreasing_by
  · have := find_lt _found
    simp only [length_drop]
    omega
  · simp only [Bool.or_eq_true, Bool.not_eq_true', not_or, Bool.not_eq_false] at _accepted
    have shorter := tail_length_lt _parsed _accepted.1
    simp only [length_drop] at shorter
    omega

def CheckAllLinks (severity : Int) (validators : LinkTag → LinkValidator) (str : List Char) :
    Option Bool :=
  match checkControlSequences str 0 with
  | some true => checkLinkSequences (ValidateLinkInfo severity validators) str
  | stopped => stopped

/-! ### Messages with paired pipes -/

inductive Paired : List Char → Prop where
  | nil : Paired []
  | plain {c : Char} {rest : List Char} : c ≠ '|' → Paired rest → Paired (c :: rest)
  | pair {next : Char} {rest : List Char} : next ∈ controlCharacters → Paired rest →
      Paired ('|' :: next :: rest)

theorem paired_pipe_cons {after : List Char} (paired : Paired ('|' :: after)) :
    ∃ next rest, after = next :: rest ∧ next ∈ controlCharacters ∧ Paired rest := by
  cases paired with
  | plain differs _ => exact absurd rfl differs
  | pair held paired => exact ⟨_, _, rfl, held, paired⟩

@[simp]
theorem paired_pair {next : Char} {rest : List Char} (held : next ∈ controlCharacters) :
    Paired ('|' :: next :: rest) ↔ Paired rest := by
  refine ⟨fun paired => ?_, .pair held⟩
  obtain ⟨_, _, ⟨rfl, rfl⟩, -, paired⟩ := paired_pipe_cons paired
  exact paired

theorem paired_append {before rest : List Char} (absent : '|' ∉ before) :
    Paired (before ++ rest) ↔ Paired rest := by
  induction before with
  | nil => rfl
  | cons c before ih =>
    simp only [mem_cons, not_or] at absent
    rw [cons_append, ← ih absent.2]
    refine ⟨fun paired => ?_, .plain (Ne.symm absent.1)⟩
    generalize before ++ rest = str at paired
    cases paired with
    | plain _ paired => exact paired
    | pair _ _ => exact absurd rfl absent.1

theorem hexChar_ne_pipe (digit : Fin 16) : hexChar digit ≠ '|' := by
  revert digit
  decide

theorem paired_link (link : Link) (tail : List Char) :
    Paired (link.toChars ++ tail) ↔ Paired tail := by
  have shape : link.toChars ++ tail = '|' :: 'c' :: (link.color.map hexChar ++ '|' :: 'H' ::
      (link.label ++ '|' :: 'h' :: (('[' :: link.text ++ [']']) ++
        '|' :: 'h' :: '|' :: 'r' :: tail))) := by
    simp [Link.toChars]
  have color_pipe : '|' ∉ link.color.map hexChar := by
    simp only [List.mem_map, not_exists, not_and]
    exact fun digit _ => hexChar_ne_pipe digit
  have text_pipe : '|' ∉ '[' :: link.text ++ [']'] := by simp [link.text_pipe]
  rw [shape, paired_pair (by decide), paired_append color_pipe, paired_pair (by decide),
    paired_append link.label_pipe, paired_pair (by decide), paired_append text_pipe,
    paired_pair (by decide), paired_pair (by decide)]

theorem paired_from {str : List Char} {pos pipe : ℕ} (found : findFrom str '|' pos = some pipe) :
    Paired (str.drop pos) ↔
      ∃ next ∈ controlCharacters, str[pipe + 1]? = some next ∧ Paired (str.drop (pipe + 2)) := by
  simp only [findFrom, map_eq_some_iff] at found
  obtain ⟨skipped, there, rfl⟩ := found
  obtain ⟨before, after, parts, absent, rfl⟩ := find_eq_some there
  have behind (count : ℕ) : str.drop (pos + before.length + 1 + count) = after.drop count := by
    rw [show pos + before.length + 1 + count = pos + (before.length + (1 + count)) by omega,
      ← drop_drop, parts, ← drop_drop, drop_left, Nat.add_comm 1 count,
      drop_succ_cons]
  have read : str[pos + before.length + 1]? = after.head? := by
    rw [← List.head?_drop, ← Nat.add_zero (pos + before.length + 1), behind, drop_zero]
  rw [parts, paired_append absent, read, show pos + before.length + 2 = pos + before.length + 1 + 1
    from rfl, behind]
  constructor
  · intro paired
    obtain ⟨next, rest, rfl, held, paired⟩ := paired_pipe_cons paired
    exact ⟨next, held, rfl, paired⟩
  · rintro ⟨next, held, first, paired⟩
    obtain ⟨rest, rfl⟩ := List.head?_eq_some_iff.mp first
    exact .pair held paired

theorem checkControlSequences_iff (str : List Char) (pos : ℕ) :
    ∃ accepted, checkControlSequences str pos = some accepted ∧
      (accepted = true ↔ Paired (str.drop pos)) := by
  fun_induction checkControlSequences str pos with
  | case1 pos found =>
    simp only [findFrom, map_eq_none_iff, find_eq_none] at found
    exact ⟨true, rfl, by simpa using (@paired_append _ [] found).mpr .nil⟩
  | case2 pos pipe found last =>
    rw [paired_from found, List.getElem?_eq_none (by omega)]
    simp
  | case3 pos pipe found last none =>
    have inside := findFrom_lt found
    rw [List.getElem?_eq_none_iff] at none
    omega
  | case4 pos pipe found last next there held ih =>
    obtain ⟨accepted, result, accepted_iff⟩ := ih
    refine ⟨accepted, result, ?_⟩
    rw [accepted_iff, paired_from found, there]
    simp [held]
  | case5 pos pipe found last next there held =>
    rw [paired_from found, there]
    simp [held]

/-! ### Messages made of text, escaped pipes and hyperlinks -/

/-- What a message is made of when `valid` judges its hyperlinks. -/
inductive WellFormed (valid : HyperlinkInfo → Bool) : List Char → Prop where
  | nil : WellFormed valid []
  | plain {c : Char} {rest : List Char} : c ≠ '|' → WellFormed valid rest →
      WellFormed valid (c :: rest)
  | escaped {rest : List Char} : WellFormed valid rest → WellFormed valid ('|' :: '|' :: rest)
  | link (link : Link) {rest : List Char} : valid (link.info rest) = true →
      WellFormed valid rest → WellFormed valid (link.toChars ++ rest)

variable {valid : HyperlinkInfo → Bool}

theorem WellFormed.paired {str : List Char} (formed : WellFormed valid str) : Paired str := by
  induction formed with
  | nil => exact .nil
  | plain differs _ ih => exact .plain differs ih
  | escaped _ ih => exact .pair (by decide) ih
  | link link _ _ ih => exact (paired_link link _).mpr ih

theorem Link.toChars_append (link : Link) (tail : List Char) :
    ∃ rest, link.toChars ++ tail = '|' :: 'c' :: rest :=
  ⟨link.color.map hexChar ++ ['|', 'H'] ++ link.label ++ ['|', 'h', '['] ++ link.text ++
    [']', '|', 'h', '|', 'r'] ++ tail, by simp [Link.toChars]⟩

theorem wellFormed_append {before rest : List Char} (absent : '|' ∉ before) :
    WellFormed valid (before ++ rest) ↔ WellFormed valid rest := by
  induction before with
  | nil => rfl
  | cons c before ih =>
    simp only [mem_cons, not_or] at absent
    rw [cons_append, ← ih absent.2]
    refine ⟨fun formed => ?_, .plain (Ne.symm absent.1)⟩
    generalize str_eq : c :: (before ++ rest) = str at formed
    cases formed with
    | nil => exact absurd str_eq nofun
    | plain _ formed =>
      obtain ⟨-, rfl⟩ := List.cons.inj str_eq
      exact formed
    | escaped _ => exact absurd (List.cons.inj str_eq).1.symm absent.1
    | link link _ _ =>
      obtain ⟨_, starts⟩ := Link.toChars_append link _
      rw [starts] at str_eq
      exact absurd (List.cons.inj str_eq).1.symm absent.1

theorem wellFormed_escaped {rest : List Char} :
    WellFormed valid ('|' :: '|' :: rest) ↔ WellFormed valid rest := by
  refine ⟨fun formed => ?_, .escaped⟩
  generalize str_eq : '|' :: '|' :: rest = str at formed
  cases formed with
  | nil => exact absurd str_eq nofun
  | plain differs _ => exact absurd (List.cons.inj str_eq).1.symm differs
  | escaped formed =>
    obtain ⟨-, same⟩ := List.cons.inj str_eq
    obtain ⟨-, rfl⟩ := List.cons.inj same
    exact formed
  | link link _ _ =>
    obtain ⟨_, starts⟩ := Link.toChars_append link _
    rw [starts] at str_eq
    exact absurd (List.cons.inj (List.cons.inj str_eq).2).1 (by decide)

theorem wellFormed_pipe {next : Char} {rest : List Char} (differs : next ≠ '|') :
    WellFormed valid ('|' :: next :: rest) ↔
      ∃ info, ParseSingleHyperlink ('|' :: next :: rest) = some info ∧ info.ok = true ∧
        valid info = true ∧ WellFormed valid info.tail := by
  constructor
  · intro formed
    generalize str_eq : '|' :: next :: rest = str at formed
    cases formed with
    | nil => exact absurd str_eq nofun
    | plain plain _ => exact absurd (List.cons.inj str_eq).1.symm plain
    | escaped _ => exact absurd (List.cons.inj (List.cons.inj str_eq).2).1 differs
    | link link accepted formed =>
      exact ⟨_, ParseSingleHyperlink_of_link link _, rfl, accepted, formed⟩
  · rintro ⟨info, parsed, ok, accepted, formed⟩
    obtain rejected | ⟨link, tail, str_eq⟩ := ParseSingleHyperlink_cases ('|' :: next :: rest)
    · rw [rejected] at parsed
      cases parsed
      exact absurd ok nofun
    · rw [str_eq, ParseSingleHyperlink_of_link] at parsed
      cases parsed
      rw [str_eq]
      exact .link link accepted formed

theorem pipe_of_find {str : List Char} {pos : ℕ} (paired : Paired str)
    (found : find str '|' = some pos) :
    ∃ next, str[pos + 1]? = some next ∧ str.drop pos = '|' :: next :: str.drop (pos + 2) ∧
      Paired (str.drop pos) ∧ Paired (str.drop (pos + 2)) ∧
      (WellFormed valid str ↔ WellFormed valid (str.drop pos)) := by
  obtain ⟨before, after, rfl, absent, rfl⟩ := find_eq_some found
  rw [paired_append absent] at paired
  obtain ⟨next, rest, rfl, held, paired_rest⟩ := paired_pipe_cons paired
  have behind : (before ++ '|' :: next :: rest).drop (before.length + 2) = rest := by
    rw [← drop_drop, drop_left]
    rfl
  rw [drop_left, behind]
  exact ⟨next, by simp, rfl, paired, paired_rest, wellFormed_append absent⟩

/-- What the first pass leaves is read to its end by the second. -/
theorem checkLinkSequences_iff {str : List Char} (paired : Paired str) :
    ∃ accepted, checkLinkSequences valid str = some accepted ∧
      (accepted = true ↔ WellFormed valid str) := by
  fun_induction checkLinkSequences valid str with
  | case1 str found =>
    rw [find_eq_none] at found
    exact ⟨true, rfl, by simpa using (@wellFormed_append _ _ [] found).mpr .nil⟩
  | case2 str pos found ends =>
    obtain ⟨next, there, -⟩ := @pipe_of_find valid _ _ paired found
    cases ends.symm.trans there
  | case3 str pos found stop outside there =>
    have inside := (List.getElem?_eq_some_iff.mp there).1
    rw [substrFrom, if_pos (by omega)] at outside
    cases outside
  | case4 str pos found _ _ there ih =>
    obtain ⟨next, there', here, -, paired_rest, formed_iff⟩ := @pipe_of_find valid _ _ paired found
    obtain rfl := some.inj (there.symm.trans there')
    obtain ⟨accepted, result, accepted_iff⟩ := ih paired_rest
    refine ⟨accepted, result, ?_⟩
    rw [accepted_iff, formed_iff, here, wellFormed_escaped]
  | case5 str pos found _ _ _ outside =>
    obtain rejected | ⟨link, tail, str_eq⟩ := ParseSingleHyperlink_cases (str.drop pos)
    · rw [rejected] at outside
      cases outside
    · rw [str_eq, ParseSingleHyperlink_of_link] at outside
      cases outside
  | case6 str pos found next there differs info parsed refused =>
    obtain ⟨next, there', here, -, -, formed_iff⟩ := @pipe_of_find valid _ _ paired found
    obtain rfl := some.inj (there.symm.trans there')
    refine ⟨false, rfl, ?_⟩
    rw [formed_iff, here, wellFormed_pipe differs, ← here, parsed]
    simp only [Bool.or_eq_true, Bool.not_eq_true'] at refused
    refine ⟨by rintro ⟨⟩, ?_⟩
    rintro ⟨_, ⟨⟩, ok, accepted, -⟩
    obtain notOk | refused := refused
    · cases ok.symm.trans notOk
    · cases accepted.symm.trans refused
  | case7 str pos found next there differs info parsed accepted ih =>
    obtain ⟨next, there', here, paired_here, -, formed_iff⟩ := @pipe_of_find valid _ _ paired found
    obtain rfl := some.inj (there.symm.trans there')
    simp only [Bool.or_eq_true, Bool.not_eq_true', not_or, Bool.not_eq_false] at accepted
    have paired_tail : Paired info.tail := by
      obtain rejected | ⟨link, tail, str_eq⟩ := ParseSingleHyperlink_cases (str.drop pos)
      · rw [rejected] at parsed
        cases parsed
        cases accepted.1
      · rw [str_eq, ParseSingleHyperlink_of_link] at parsed
        cases parsed
        rw [str_eq] at paired_here
        exact (paired_link link tail).mp paired_here
    obtain ⟨result, computed, result_iff⟩ := ih paired_tail
    refine ⟨result, computed, ?_⟩
    rw [result_iff, formed_iff, here, wellFormed_pipe differs, ← here, parsed]
    simp [accepted]

/-- `CheckAllLinks` stays within every message and accepts it if and only if it is made of
plain characters, escaped pipes and valid hyperlinks; the parser reads every hyperlink back. -/
theorem CheckAllLinks_iff_wellFormed (severity : Int) (validators : LinkTag → LinkValidator) :
    (∀ str, ∃ accepted, CheckAllLinks severity validators str = some accepted ∧
      (accepted = true ↔ WellFormed (ValidateLinkInfo severity validators) str)) ∧
    ∀ (link : Link) (tail : List Char),
      ParseSingleHyperlink (link.toChars ++ tail) = some (link.info tail) := by
  refine ⟨fun str => ?_, ParseSingleHyperlink_of_link⟩
  obtain ⟨firstPass, first_eq, first_iff⟩ := checkControlSequences_iff str 0
  rw [drop_zero] at first_iff
  cases firstPass with
  | false =>
    refine ⟨false, by rw [CheckAllLinks, first_eq], nofun, fun formed => ?_⟩
    exact absurd (first_iff.mpr formed.paired) nofun
  | true =>
    obtain ⟨accepted, second_eq, second_iff⟩ := checkLinkSequences_iff (first_iff.mp rfl)
    exact ⟨accepted, by rw [CheckAllLinks, first_eq, second_eq], second_iff⟩

end AzerothCore.Chat.LinkChecks
