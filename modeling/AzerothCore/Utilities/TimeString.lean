import AzerothCore.Common.Define

/-!
# Durations as text

`secsToTimeString` writes the parts of a duration that are not zero.
`TimeStringToSecs` adds up the numbers it finds, in `uint32`, each with the unit
behind it.
-/

namespace AzerothCore.TimeString
open List Nat

def MINUTE : ℕ := 60
def HOUR : ℕ := MINUTE * 60
def DAY : ℕ := HOUR * 24

/-- `ss << value << (shortText ? short : long)`. -/
def part (shortText : Bool) (value : ℕ) (short long : String) : List Char :=
  Nat.toDigits 10 value ++ (if shortText then short else long).toList

def secsToTimeString (timeInSecs : ℕ) (shortText : Bool) : List Char :=
  let secs := timeInSecs % MINUTE
  let minutes := timeInSecs % HOUR / MINUTE
  let hours := timeInSecs % DAY / HOUR
  let days := timeInSecs / DAY
  let str := (if days ≠ 0 then part shortText days "d" " day(s) " else []) ++
    ((if hours ≠ 0 then part shortText hours "h" " hour(s) " else []) ++
    ((if minutes ≠ 0 then part shortText minutes "m" " minute(s) " else []) ++
    (if secs ≠ 0 ∨ (days = 0 ∧ hours = 0 ∧ minutes = 0) then
      part shortText secs "s" " second(s) " else [])))
  if shortText = false ∧ str.getLast? = some ' ' then str.dropLast else str

/-- The switch of `TimeStringToSecs`; `none` is its default. -/
def multiplier : Char → Option ℕ
  | 'd' => some DAY
  | 'h' => some HOUR
  | 'm' => some MINUTE
  | 's' => some 1
  | _ => none

def readTime (secs buffer : ℕ) : List Char → ℕ
  | [] => secs
  | itr :: timestring =>
    if itr.isDigit then
      readTime secs (uint32 (uint32 (buffer * 10) + (itr.toNat - '0'.toNat))) timestring
    else
      match multiplier itr with
      | none => 0
      | some multiplier =>
        readTime (uint32 (secs + uint32 (buffer * multiplier))) 0 timestring

def TimeStringToSecs (timestring : List Char) : ℕ := readTime 0 0 timestring

inductive Durations : List Char → ℕ → Prop
  | nil : Durations [] 0
  | cons {digits rest : List Char} {unit : Char} {seconds sum : ℕ} (hne : digits ≠ [])
      (hdigits : ∀ digit ∈ digits, digit.isDigit = true) (hunit : multiplier unit = some seconds)
      (hrest : Durations rest sum) :
      Durations (digits ++ unit :: rest) (Nat.ofDigitChars 10 digits 0 * seconds + sum)

variable {text digits rest : List Char} {unit : Char} {secs buffer value seconds sum : ℕ}

theorem uint32_mod_add (a b : ℕ) : uint32 (uint32 a + b) = uint32 (a + b) := mod_add_mod _ _ _

theorem isDigit_eq_false (hunit : multiplier unit = some seconds) : unit.isDigit = false := by
  unfold multiplier at hunit
  split at hunit <;> first | rfl | cases hunit

theorem readTime_digits (hdigits : ∀ digit ∈ digits, digit.isDigit = true) :
    readTime secs (uint32 buffer) (digits ++ rest) =
      readTime secs (uint32 (Nat.ofDigitChars 10 digits buffer)) rest := by
  induction digits generalizing buffer with
  | nil => rw [ofDigitChars_nil, nil_append]
  | cons digit digits ih =>
    have hbuffer : uint32 (uint32 (uint32 buffer * 10) + (digit.toNat - '0'.toNat)) =
        uint32 (10 * buffer + (digit.toNat - '0'.toNat)) := by
      rw [uint32_mod_add, uint32, uint32, uint32, ← mod_add_mod, mod_mul_mod,
        mod_add_mod, Nat.mul_comm]
    rw [cons_append, readTime, if_pos (hdigits digit mem_cons_self), hbuffer,
      ih fun other hother => hdigits other (mem_cons_of_mem _ hother),
      ofDigitChars_cons]

theorem readTime_duration (hdigits : ∀ digit ∈ digits, digit.isDigit = true)
    (hunit : multiplier unit = some seconds) :
    readTime (uint32 secs) 0 (digits ++ unit :: rest) =
      readTime (uint32 (secs + Nat.ofDigitChars 10 digits 0 * seconds)) 0 rest := by
  have hsecs : uint32 (uint32 secs + uint32 (uint32 (Nat.ofDigitChars 10 digits 0) * seconds)) =
      uint32 (secs + Nat.ofDigitChars 10 digits 0 * seconds) := by
    rw [uint32_mod_add, uint32, uint32, uint32, add_mod_mod, uint32, ← add_mod_mod,
      mod_mul_mod, add_mod_mod]
  change readTime (uint32 secs) (uint32 0) _ = _
  rw [readTime_digits hdigits, readTime, isDigit_eq_false hunit, if_neg Bool.false_ne_true, hunit]
  dsimp only
  rw [hsecs]

theorem readTime_durations (secs : ℕ) (hdurations : Durations text sum) :
    readTime (uint32 secs) 0 text = uint32 (secs + sum) := by
  induction hdurations generalizing secs with
  | nil => rfl
  | cons hne hdigits hunit hrest ih => rw [readTime_duration hdigits hunit, ih, Nat.add_assoc]

theorem readTime_unknown {unknown : Char} (hunknown : unknown ∈ text)
    (hdigit : unknown.isDigit = false) (hunit : multiplier unknown = none) :
    readTime secs buffer text = 0 := by
  induction text generalizing secs buffer with
  | nil => cases hunknown
  | cons itr text ih =>
    rw [readTime]
    rcases mem_cons.mp hunknown with rfl | hmem
    · rw [if_neg (by rw [hdigit]; exact Bool.false_ne_true), hunit]
    split
    · exact ih hmem
    split
    · rfl
    · exact ih hmem

theorem Durations.part {short long : String} (hshort : short.toList = [unit])
    (hunit : multiplier unit = some seconds) (written : Prop) [Decidable written]
    (hzero : ¬ written → value = 0) (hrest : Durations rest sum) :
    Durations ((if written then TimeString.part true value short long else []) ++ rest)
      (value * seconds + sum) := by
  split
  · have hcons := Durations.cons (toDigits_ne_nil (b := 10) (n := value))
      (fun digit hdigit => isDigit_of_mem_toDigits (by decide) (by decide) hdigit) hunit hrest
    rw [ofDigitChars_ten_toDigits] at hcons
    rw [TimeString.part, if_pos rfl, hshort, append_assoc]
    exact hcons
  · rename_i hwritten
    rw [hzero hwritten, Nat.zero_mul, Nat.zero_add]
    exact hrest

theorem durations_secsToTimeString (timeInSecs : ℕ) :
    Durations (secsToTimeString timeInSecs true) timeInSecs := by
  have hsum : timeInSecs = timeInSecs / DAY * DAY + (timeInSecs % DAY / HOUR * HOUR +
      (timeInSecs % HOUR / MINUTE * MINUTE + (timeInSecs % MINUTE * 1 + 0))) := by
    unfold DAY HOUR MINUTE
    omega
  unfold secsToTimeString
  rw [if_neg fun hshort => Bool.noConfusion hshort.1]
  conv => rhs; rw [hsum]
  apply Durations.part rfl rfl _ not_not.mp
  apply Durations.part rfl rfl _ not_not.mp
  apply Durations.part rfl rfl _ not_not.mp
  rw [← append_nil (ite _ _ _)]
  exact Durations.part rfl rfl _ (fun hnot => not_not.mp (not_or.mp hnot).1) Durations.nil

theorem TimeStringToSecs_reads : (∀ n < 2 ^ 32, TimeStringToSecs (secsToTimeString n true) = n) ∧
      (∀ text sum, Durations text sum → sum < 2 ^ 32 → TimeStringToSecs text = sum) ∧
      ∀ text, (∃ other ∈ text, other.isDigit = false ∧ multiplier other = none) →
        TimeStringToSecs text = 0 := by
  have hreads : ∀ text sum, Durations text sum → sum < 2 ^ 32 → TimeStringToSecs text = sum := by
    intro text sum hdurations hlt
    have hread := readTime_durations 0 hdurations
    rw [Nat.zero_add, uint32_of_lt hlt] at hread
    exact hread
  refine ⟨fun n hlt => hreads _ n (durations_secsToTimeString n) hlt, hreads, ?_⟩
  rintro text ⟨other, hother, hdigit, hunit⟩
  exact readTime_unknown hother hdigit hunit

/-- Two hours and five seconds, as text and read back. -/
theorem TimeStringToSecs_reads_hours :
    secsToTimeString 7205 true = "2h5s".toList ∧ TimeStringToSecs "2h5s".toList = 7205 ∧
      TimeStringToSecs "2h 5s".toList = 0 := by
  have hwritten : secsToTimeString 7205 true = "2h5s".toList := by decide
  refine ⟨hwritten, ?_, TimeStringToSecs_reads.2.2 _ ⟨' ', by decide, by decide, rfl⟩⟩
  rw [← hwritten]
  exact TimeStringToSecs_reads.1 7205 (by decide)

end AzerothCore.TimeString
