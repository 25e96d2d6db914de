import Mathlib.Data.List.SplitBy

/-!
# Names of environment variables

A key of the configuration has the characters of ASCII. Its words end at separators, in front of
capital letters that follow others, and where digits begin or end.
-/

namespace AzerothCore.Configuration
open List

def isNumeric (c : Char) : Bool := '0' ≤ c && c ≤ '9'

def isupper (c : Char) : Bool := 'A' ≤ c && c ≤ 'Z'

/-- The three characters that the loop replaces by an underscore. -/
def isSeparator (c : Char) : Bool := c = ' ' || c = '.' || c = '-'

/-- What the loop of `IniKeyToEnvVarKey` appends from a position on. -/
def IniKeyToEnvVarKey : List Char → List Char
  | [] => []
  | curr :: rest =>
    if isSeparator curr then '_' :: IniKeyToEnvVarKey rest
    else
      match rest with
      | [] => [curr.toUpper]
      | next :: _ =>
        if !isupper curr && isupper next then curr.toUpper :: '_' :: IniKeyToEnvVarKey rest
        else if !isNumeric curr && isNumeric next then
          curr.toUpper :: '_' :: IniKeyToEnvVarKey rest
        else if isNumeric curr && !isNumeric next then
          curr.toUpper :: '_' :: IniKeyToEnvVarKey rest
        else curr.toUpper :: IniKeyToEnvVarKey rest

def sameWord (curr next : Char) : Bool :=
  !(!isupper curr && isupper next) && isNumeric curr == isNumeric next

def words (key : List Char) : List (List Char) :=
  (key.splitOnP isSeparator).flatMap (splitBy sameWord)

def upperSnakeCase (key : List Char) : List Char :=
  ['_'].intercalate ((words key).map (map Char.toUpper))

def digitBeforeSeparator : List Char → Bool
  | curr :: next :: rest =>
    isNumeric curr && isSeparator next || digitBeforeSeparator (next :: rest)
  | _ => false

variable {curr next : Char} {rest key : List Char}

theorem not_numeric_of_separator (hsep : isSeparator curr = true) : isNumeric curr = false := by
  simp only [isSeparator, Bool.or_eq_true, decide_eq_true_eq] at hsep
  obtain (rfl | rfl) | rfl := hsep <;> rfl

theorem not_upper_of_separator (hsep : isSeparator curr = true) : isupper curr = false := by
  simp only [isSeparator, Bool.or_eq_true, decide_eq_true_eq] at hsep
  obtain (rfl | rfl) | rfl := hsep <;> rfl

theorem splitOnP_word (rest : List Char) (hcurr : isSeparator curr = false) (hnext : isSeparator next = false) :
    ∃ word parts, (next :: rest).splitOnP isSeparator = (next :: word) :: parts ∧
      (curr :: next :: rest).splitOnP isSeparator = (curr :: next :: word) :: parts := by
  obtain ⟨word, parts, hparts⟩ := exists_cons_of_ne_nil (splitOnP_ne_nil isSeparator rest)
  have hhead : (next :: rest).splitOnP isSeparator = (next :: word) :: parts := by
    rw [splitOnP_cons_eq_if_modifyHead, hnext, if_neg Bool.false_ne_true, hparts, modifyHead_cons]
  refine ⟨word, parts, hhead, ?_⟩
  rw [splitOnP_cons_eq_if_modifyHead, hcurr, if_neg Bool.false_ne_true, hhead, modifyHead_cons]

theorem splitOnP_end (rest : List Char) (hcurr : isSeparator curr = false) (hnext : isSeparator next = true) :
    (curr :: next :: rest).splitOnP isSeparator = [curr] :: rest.splitOnP isSeparator := by
  rw [splitOnP_cons_eq_if_modifyHead, hcurr, if_neg Bool.false_ne_true,
    splitOnP_cons_eq_if_modifyHead, if_pos hnext, modifyHead_cons]

variable {word : List Char} {others : List (List Char)}

theorem splitBy_cut (hcut : sameWord curr next = false) :
    (curr :: next :: word).splitBy sameWord = [curr] :: (next :: word).splitBy sameWord :=
  @splitBy_append_cons _ sameWord [curr] next word (by simpa using hcut)

theorem splitBy_same (word : List Char) (hsame : sameWord curr next = true) :
    ∃ first others, (next :: word).splitBy sameWord = first :: others ∧
      (curr :: next :: word).splitBy sameWord = (curr :: first) :: others := by
  obtain ⟨first, others, hsplit⟩ :=
    exists_cons_of_ne_nil (splitBy_ne_nil.mpr (cons_ne_nil next word))
  obtain ⟨hflat, hnil, hchain, hlast⟩ := splitBy_eq_iff.mp hsplit
  obtain - | ⟨head, tail⟩ := first
  · exact absurd mem_cons_self hnil
  obtain ⟨rfl, hword⟩ := cons.inj hflat
  refine ⟨_, others, hsplit, splitBy_eq_iff.mpr ⟨?_, ?_, fun part hpart => ?_, ?_⟩⟩
  · rw [flatten_cons, cons_append, ← flatten_cons, hflat]
  · simpa using hnil
  · obtain rfl | hpart := mem_cons.mp hpart
    · exact isChain_cons_cons.mpr ⟨hsame, hchain _ mem_cons_self⟩
    · exact hchain part (mem_cons_of_mem _ hpart)
  · cases others with
    | nil => exact isChain_singleton _
    | cons second others =>
      obtain ⟨⟨_, hb, hchange⟩, hrest⟩ := isChain_cons_cons.mp hlast
      exact isChain_cons_cons.mpr ⟨⟨cons_ne_nil _ _, hb, hchange⟩, hrest⟩

theorem upperSnakeCase_cons (hwords : words key = word :: others) (hothers : others ≠ []) :
    upperSnakeCase key = word.map Char.toUpper ++
      '_' :: ['_'].intercalate (others.map (map Char.toUpper)) := by
  obtain ⟨second, others, rfl⟩ := exists_cons_of_ne_nil hothers
  rw [upperSnakeCase, hwords]
  rfl

theorem words_ne_nil (hparts : [] ∉ key.splitOnP isSeparator) : words key ≠ [] := by
  obtain ⟨part, parts, hsplit⟩ := exists_cons_of_ne_nil (splitOnP_ne_nil isSeparator key)
  rw [words, hsplit, flatMap_cons]
  rw [hsplit] at hparts
  exact append_ne_nil_of_left_ne_nil
    (splitBy_ne_nil.mpr fun hnil => hparts (hnil ▸ mem_cons_self)) _

theorem upperSnakeCase_end (hwords : words (curr :: next :: rest) = [curr] :: words key)
    (hparts : [] ∉ key.splitOnP isSeparator) :
    upperSnakeCase (curr :: next :: rest) = curr.toUpper :: '_' :: upperSnakeCase key :=
  upperSnakeCase_cons hwords (words_ne_nil hparts)

theorem upperSnakeCase_same (hkey : words key = word :: others)
    (hwords : words (curr :: key) = (curr :: word) :: others) :
    upperSnakeCase (curr :: key) = curr.toUpper :: upperSnakeCase key := by
  rw [upperSnakeCase, upperSnakeCase, hkey, hwords]
  cases others <;> rfl

def Spelled (key : List Char) : Prop :=
  (IniKeyToEnvVarKey key = upperSnakeCase key ∧ digitBeforeSeparator key = false) ∨
    ((upperSnakeCase key).length < (IniKeyToEnvVarKey key).length ∧ digitBeforeSeparator key = true)

theorem Spelled.length_le (hkey : Spelled key) :
    (upperSnakeCase key).length ≤ (IniKeyToEnvVarKey key).length := by
  obtain ⟨heq, -⟩ | ⟨hlt, -⟩ := hkey
  · rw [heq]
  · exact hlt.le

theorem Spelled.behind {longer : List Char} (hkey : Spelled key) (front : List Char)
    (hcode : IniKeyToEnvVarKey longer = front ++ IniKeyToEnvVarKey key)
    (hspec : upperSnakeCase longer = front ++ upperSnakeCase key)
    (hdigit : digitBeforeSeparator longer = digitBeforeSeparator key) : Spelled longer := by
  obtain ⟨heq, hnone⟩ | ⟨hlt, hsome⟩ := hkey
  · exact .inl ⟨by rw [hcode, hspec, heq], hdigit.trans hnone⟩
  · refine .inr ⟨?_, hdigit.trans hsome⟩
    rw [hcode, hspec, length_append, length_append]
    exact Nat.add_lt_add_left hlt _

theorem code_of_separator (hsep : isSeparator curr = true) :
    IniKeyToEnvVarKey (curr :: rest) = '_' :: IniKeyToEnvVarKey rest := by
  rw [IniKeyToEnvVarKey.eq_def]
  exact if_pos hsep

theorem code_of_next (next : Char) (rest : List Char) (hcurr : isSeparator curr = false) :
    IniKeyToEnvVarKey (curr :: next :: rest) =
      if sameWord curr next then curr.toUpper :: IniKeyToEnvVarKey (next :: rest)
      else curr.toUpper :: '_' :: IniKeyToEnvVarKey (next :: rest) := by
  rw [IniKeyToEnvVarKey.eq_def, sameWord]
  dsimp only
  grind

theorem spelled : ∀ key, [] ∉ key.splitOnP isSeparator → Spelled key
  | [], hparts => absurd mem_cons_self hparts
  | [curr], hparts => by
    have hcurr : isSeparator curr = false := by
      rw [← Bool.not_eq_true]
      intro hsep
      rw [splitOnP_cons_eq_if_modifyHead, if_pos hsep] at hparts
      exact hparts mem_cons_self
    refine .inl ⟨?_, rfl⟩
    rw [upperSnakeCase, words, splitOnP_cons_eq_if_modifyHead, IniKeyToEnvVarKey.eq_def]
    simp only [hcurr]
    rfl
  | curr :: next :: rest, hparts => by
    have hcurr : isSeparator curr = false := by
      rw [← Bool.not_eq_true]
      intro hsep
      rw [splitOnP_cons_eq_if_modifyHead, if_pos hsep] at hparts
      exact hparts mem_cons_self
    by_cases hnext : isSeparator next = true
    · have hends := splitOnP_end rest hcurr hnext
      have hrest : [] ∉ rest.splitOnP isSeparator :=
        fun hmem => hparts (hends ▸ mem_cons_of_mem _ hmem)
      have hspec : upperSnakeCase (curr :: next :: rest) =
          curr.toUpper :: '_' :: upperSnakeCase rest :=
        upperSnakeCase_end (by rw [words, hends]; rfl) hrest
      have hsame : sameWord curr next = !isNumeric curr := by
        rw [sameWord, not_upper_of_separator hnext, not_numeric_of_separator hnext]
        cases isupper curr <;> cases isNumeric curr <;> rfl
      have hcode := code_of_next next rest hcurr
      rw [hsame, code_of_separator hnext] at hcode
      have hdigits : digitBeforeSeparator (next :: rest) = digitBeforeSeparator rest := by
        cases rest with
        | nil => rfl
        | cons => rw [digitBeforeSeparator, not_numeric_of_separator hnext]; rfl
      by_cases hnumeric : isNumeric curr = true
      · -- the digit and the separator give an underscore each
        refine .inr ⟨?_, by rw [digitBeforeSeparator, hnumeric, hnext]; rfl⟩
        have hle := (spelled rest hrest).length_le
        rw [hcode, hspec, hnumeric]
        exact Nat.succ_lt_succ (Nat.succ_lt_succ (Nat.lt_succ_of_le hle))
      · rw [Bool.not_eq_true] at hnumeric
        rw [hnumeric] at hcode
        refine (spelled rest hrest).behind [curr.toUpper, '_'] hcode hspec ?_
        rw [digitBeforeSeparator, hnumeric, hdigits]
        rfl
    · rw [Bool.not_eq_true] at hnext
      obtain ⟨word, parts, hhead, hsplit⟩ := splitOnP_word rest hcurr hnext
      have hrest : [] ∉ (next :: rest).splitOnP isSeparator := by
        rw [hsplit] at hparts
        rw [hhead]
        simpa using hparts
      have hdigits : digitBeforeSeparator (curr :: next :: rest) =
          digitBeforeSeparator (next :: rest) := by
        rw [digitBeforeSeparator, hnext, Bool.and_false, Bool.false_or]
      have hcode := code_of_next next rest hcurr
      by_cases hsame : sameWord curr next = true
      · obtain ⟨first, others, hfirst, hboth⟩ := splitBy_same word hsame
        have hkey : words (next :: rest) = first :: (others ++ parts.flatMap (splitBy sameWord)) := by
          rw [words, hhead, flatMap_cons, hfirst, cons_append]
        refine (spelled (next :: rest) hrest).behind [curr.toUpper]
          (by rw [hcode, if_pos hsame]; rfl) (upperSnakeCase_same hkey ?_) hdigits
        rw [words, hsplit, flatMap_cons, hboth, cons_append]
      · refine (spelled (next :: rest) hrest).behind [curr.toUpper, '_']
          (by rw [hcode, if_neg hsame]; rfl) (upperSnakeCase_end ?_ hrest) hdigits
        rw [words, words, hsplit, hhead, flatMap_cons, splitBy_cut ((Bool.not_eq_true _).mp hsame)]
        rfl

theorem upper_snake_case_iff (key : List Char) (hwords : [] ∉ key.splitOnP isSeparator) :
    IniKeyToEnvVarKey key = upperSnakeCase key ↔ digitBeforeSeparator key = false := by
  obtain ⟨heq, hnone⟩ | ⟨hlt, hsome⟩ := spelled key hwords
  · exact iff_of_true heq hnone
  · refine iff_of_false (fun heq => ?_) (by rw [hsome]; exact Bool.true_eq_false.mp)
    rw [heq] at hlt
    exact Nat.lt_irrefl _ hlt

theorem upper_snake_case_nested :
    IniKeyToEnvVarKey "myNestedConfig.opt1".toList = "MY_NESTED_CONFIG_OPT_1".toList :=
  (upper_snake_case_iff "myNestedConfig.opt1".toList (by decide)).mpr (by decide)

theorem two_underscores_in_a_row :
    IniKeyToEnvVarKey "opt1.name".toList ≠ upperSnakeCase "opt1.name".toList := by
  decide

end AzerothCore.Configuration
