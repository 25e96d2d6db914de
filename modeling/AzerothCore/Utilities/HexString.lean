import AzerothCore.Common.Define
import Mathlib.Algebra.Order.Ring.Int
import Mathlib.Data.List.Basic
import Mathlib.Tactic.Ring

/-!
# Bytes as hexadecimal digits

`ByteArrayToHexStr` and `HexStrToByteArray` of `Util.cpp`. Both run over an array with a signed
index, forwards or backwards.
-/

namespace AzerothCore.HexString
open List

variable {α β : Type*}

/-- The loop `for (int32 i = init; i != stop; i += op)`, with what each visit gives. -/
def loop (visit : ℤ → Option β) (stop op : ℤ) : ℕ → ℤ → Option (List β)
  | 0, _ => none
  | fuel + 1, i =>
    if i = stop then some []
    else do
      let value ← visit i
      let rest ← loop visit stop op fuel (i + op)
      return value :: rest

def read (array : List α) (i : ℤ) : Option α :=
  if 0 ≤ i then array[i.toNat]? else none

def digits : List Char := "0123456789ABCDEF".toList

/-- The format `%02X`. -/
def format (byte : UInt8) : List Char :=
  [digits.getD (byte.toNat / 16) '0', digits.getD (byte.toNat % 16) '0']

def ByteArrayToHexStr (bytes : List UInt8) (reverse : Bool) : Option (List Char) := do
  let arrayLen : ℤ := bytes.length
  let (init, stop, op) := if reverse then (int32 (arrayLen - 1), -1, -1) else (0, int32 arrayLen, 1)
  let buffers ← loop (fun i => format <$> read bytes i) stop op (bytes.length + 1) init
  return buffers.flatten

def isspace (c : Char) : Bool := [' ', '\t', '\n', '\x0b', '\x0c', '\r'].contains c

def isxdigit (c : Char) : Bool := digits.contains c.toUpper

def number (chars : List Char) : ℕ :=
  (chars.takeWhile isxdigit).foldl (fun value c => 16 * value + digits.idxOf c.toUpper) 0

/-- The prefix `0x` needs a digit behind it, for which there is no room in a buffer of two
characters. -/
def strtoul (buffer : List Char) : ℕ :=
  match buffer.dropWhile isspace with
  | '-' :: chars => (2 ^ 64 - number chars) % 2 ^ 64
  | '+' :: chars => number chars
  | chars => number chars

def HexStrToByteArray (str : List Char) (outlen : ℕ) (reverse : Bool) : Option (List UInt8) := do
  guard (str.length = 2 * outlen)
  let length : ℤ := str.length
  let (init, stop, op) := if reverse then (int32 (length - 2), -2, -1) else (0, int32 length, 1)
  let visit (i : ℤ) : Option UInt8 := do
    let first ← read str i
    let second ← read str (i + 1)
    return .ofNat (strtoul [first, second])
  loop visit stop (2 * op) (outlen + 1) init

theorem int32_of_lt {value : ℤ} (hneg : -2 ≤ value) (hlt : value < 2 ^ 31) :
    int32 value = value :=
  Int.bmod_eq_of_le (by omega) (by omega)

theorem loop_eq {visit : ℤ → Option β} {f : α → β} {op : ℤ} (hop : op ≠ 0) (array : List α)
    (init : ℤ) (hvisit : ∀ k (hk : k < array.length), visit (init + op * k) = some (f array[k])) :
    loop visit (init + op * array.length) op (array.length + 1) init = some (array.map f) := by
  induction array generalizing init with
  | nil => simp [loop]
  | cons x xs ih =>
    have hlength : ((x :: xs).length : ℤ) = xs.length + 1 := rfl
    have hne : init ≠ init + op * (xs.length + 1) := by
      rw [Ne, left_eq_add, mul_eq_zero, not_or]
      exact ⟨hop, by omega⟩
    have hfirst : visit init = some (f x) := by
      have hvisit := hvisit 0 (Nat.zero_lt_succ _)
      rwa [Nat.cast_zero, mul_zero, add_zero] at hvisit
    have hrest := ih (init + op) fun k hk => by
      have hvisit := hvisit (k + 1) (Nat.succ_lt_succ hk)
      rwa [Nat.cast_succ, mul_add, mul_one, add_comm (op * _), ← add_assoc] at hvisit
    have hstop : init + op * (xs.length + 1) = init + op + op * xs.length := by ring
    rw [hlength, loop, if_neg hne, hfirst, hstop, length_cons, hrest]
    rfl

/-- An array in the order in which a loop comes to it. -/
def arrange (reverse : Bool) (array : List α) : List α :=
  if reverse then array.reverse else array

variable {reverse : Bool} {array : List α}

@[simp]
theorem arrange_arrange : arrange reverse (arrange reverse array) = array := by
  cases reverse <;> simp [arrange]

@[simp]
theorem map_arrange (f : α → β) :
    (arrange reverse array).map f = arrange reverse (array.map f) := by
  cases reverse <;> simp [arrange]

@[simp]
theorem length_arrange : (arrange reverse array).length = array.length := by
  cases reverse <;> simp [arrange]

variable (array) in
/-- Both directions of a loop with steps of `width`. -/
theorem loop_arrange (visit : ℤ → Option β) (f : α → β) (reverse : Bool) {width : ℤ}
    (hwidth : width ≠ 0)
    (hvisit : ∀ k (hk : k < array.length), visit (width * k) = some (f array[k])) :
    loop visit (if reverse then -width else width * array.length)
        (if reverse then -width else width) (array.length + 1)
        (if reverse then width * array.length - width else 0) =
      some ((arrange reverse array).map f) := by
  cases reverse with
  | false =>
    have hloop := loop_eq hwidth array 0 fun k hk => by simpa using hvisit k hk
    simpa [arrange] using hloop
  | true =>
    have hloop := loop_eq (neg_ne_zero.mpr hwidth) array.reverse
      (width * array.length - width) fun k hk => by
        rw [length_reverse] at hk
        have hindex : ((array.length - 1 - k : ℕ) : ℤ) = array.length - 1 - k := by omega
        rw [getElem_reverse, ← hvisit _ (by omega), hindex]
        congr 1
        ring
    have hstop : width * array.length - width + -width * array.length = -width := by ring
    rw [length_reverse, hstop] at hloop
    simpa [arrange] using hloop

def flatten (pairs : List (Char × Char)) : List Char := pairs.flatMap fun pair => [pair.1, pair.2]

theorem exists_flatten (str : List Char) (heven : str.length % 2 = 0) :
    ∃ pairs, str = flatten pairs := by
  match str with
  | [] => exact ⟨[], rfl⟩
  | first :: second :: str =>
    obtain ⟨pairs, rfl⟩ := exists_flatten str (by simp at heven; omega)
    exact ⟨(first, second) :: pairs, rfl⟩

@[simp]
theorem length_flatten (pairs : List (Char × Char)) :
    (flatten pairs).length = 2 * pairs.length := by
  simp [flatten, mul_comm]

theorem getElem?_flatten (pairs : List (Char × Char)) (k : ℕ) (hk : k < pairs.length) :
    (flatten pairs)[2 * k]? = some pairs[k].1 ∧ (flatten pairs)[2 * k + 1]? = some pairs[k].2 := by
  induction pairs generalizing k with
  | nil => exact absurd hk (Nat.not_lt_zero k)
  | cons pair pairs ih =>
    cases k with
    | zero => exact ⟨rfl, rfl⟩
    | succ k => exact ih k (Nat.lt_of_succ_lt_succ hk)

def digitsOf (byte : UInt8) : Char × Char :=
  (digits.getD (byte.toNat / 16) '0', digits.getD (byte.toNat % 16) '0')

def byteOf (pair : Char × Char) : UInt8 := .ofNat (strtoul [pair.1, pair.2])

theorem ByteArrayToHexStr_eq {bytes : List UInt8} (hlength : bytes.length < 2 ^ 30)
    (reverse : Bool) :
    ByteArrayToHexStr bytes reverse =
      some (flatten ((arrange reverse bytes).map digitsOf)) := by
  have hloop := loop_arrange bytes (fun i => format <$> read bytes i) format reverse
    one_ne_zero fun k hk => by simp [read, hk]
  have hinit : int32 ((bytes.length : ℤ) - 1) = bytes.length - 1 :=
    int32_of_lt (by omega) (by omega)
  have hstop : int32 bytes.length = bytes.length := int32_of_lt (by omega) (by omega)
  have hflatten : ((arrange reverse bytes).map format).flatten =
      flatten ((arrange reverse bytes).map digitsOf) := by
    rw [flatten, flatMap_map, flatMap_def]
    rfl
  rw [one_mul] at hloop
  rw [← hflatten]
  cases reverse <;> simp_all [ByteArrayToHexStr]

theorem read_natCast (array : List α) (k : ℕ) : read array (k : ℤ) = array[k]? := by
  rw [read, if_pos (Int.natCast_nonneg k), Int.toNat_natCast]

theorem HexStrToByteArray_eq (pairs : List (Char × Char)) (hlength : pairs.length < 2 ^ 30)
    (reverse : Bool) :
    HexStrToByteArray (flatten pairs) pairs.length reverse =
      some ((arrange reverse pairs).map byteOf) := by
  have hloop := loop_arrange pairs (fun i => do
    let first ← read (flatten pairs) i
    let second ← read (flatten pairs) (i + 1)
    return .ofNat (strtoul [first, second])) byteOf reverse two_ne_zero fun k hk => by
      obtain ⟨hfirst, hsecond⟩ := getElem?_flatten pairs k hk
      rw [← read_natCast, Nat.cast_mul, Nat.cast_two] at hfirst
      rw [← read_natCast, Nat.cast_succ, Nat.cast_mul, Nat.cast_two] at hsecond
      rw [hfirst, hsecond]
      rfl
  have hinit : int32 ((2 * pairs.length : ℤ) - 2) = 2 * pairs.length - 2 :=
    int32_of_lt (by omega) (by omega)
  have hstop : int32 (2 * pairs.length) = 2 * pairs.length := int32_of_lt (by omega) (by omega)
  cases reverse <;> simp_all [HexStrToByteArray]

theorem digit_spec : ∀ digit : Fin 16, isxdigit (digits.getD digit '0') = true ∧
    digits.idxOf (digits.getD digit '0').toUpper = digit := by
  decide

theorem isspace_of_isxdigit {c : Char} (hdigit : isxdigit c = true) :
    isspace c = false ∧ c ≠ '-' ∧ c ≠ '+' := by
  refine ⟨?_, ?_, ?_⟩
  · by_contra hspace
    simp only [isspace, Bool.not_eq_false, contains_iff_mem, mem_cons, not_mem_nil, or_false]
      at hspace
    obtain rfl | rfl | rfl | rfl | rfl | rfl := hspace <;> exact absurd hdigit (by decide)
  all_goals
    rintro rfl
    exact absurd hdigit (by decide)

theorem strtoul_pair {first second : Char} (hfirst : isxdigit first = true)
    (hsecond : isxdigit second = true) :
    strtoul [first, second] =
      16 * digits.idxOf first.toUpper + digits.idxOf second.toUpper := by
  obtain ⟨hspace, hminus, hplus⟩ := isspace_of_isxdigit hfirst
  have hnumber : number [first, second] =
      16 * digits.idxOf first.toUpper + digits.idxOf second.toUpper := by
    simp [number, hfirst, hsecond]
  rw [strtoul, dropWhile_cons_of_neg (by simp [hspace])]
  split
  · simp_all
  · simp_all
  · exact hnumber

theorem byteOf_digitsOf (byte : UInt8) : byteOf (digitsOf byte) = byte := by
  have hlt := byte.toNat_lt
  obtain ⟨hhigh, hhighOf⟩ := digit_spec ⟨byte.toNat / 16, by omega⟩
  obtain ⟨hlow, hlowOf⟩ := digit_spec ⟨byte.toNat % 16, by omega⟩
  rw [byteOf, digitsOf, strtoul_pair hhigh hlow, hhighOf, hlowOf, Nat.div_add_mod,
    UInt8.ofNat_toNat]

theorem digitsOf_byteOf {pair : Char × Char} (hfirst : isxdigit pair.1 = true)
    (hsecond : isxdigit pair.2 = true) :
    digitsOf (byteOf pair) = (pair.1.toUpper, pair.2.toUpper) := by
  have hhigh := idxOf_lt_length_iff.mpr (contains_iff_mem.mp hfirst)
  have hlow := idxOf_lt_length_iff.mpr (contains_iff_mem.mp hsecond)
  have hsize : digits.length = 16 := by decide
  have hbyte : 16 * digits.idxOf pair.1.toUpper + digits.idxOf pair.2.toUpper < 256 := by omega
  rw [byteOf, strtoul_pair hfirst hsecond, digitsOf, UInt8.toNat_ofNat_of_lt' hbyte,
    Nat.mul_add_div (by decide), Nat.mul_add_mod, Nat.div_eq_of_lt (by omega), add_zero,
    Nat.mod_eq_of_lt (by omega), getD_eq_getElem _ _ hhigh, getD_eq_getElem _ _ hlow,
    getElem_idxOf, getElem_idxOf]

theorem hex_roundTrip (reverse : Bool) :
    (∀ bytes : List UInt8, bytes.length < 2 ^ 30 →
      ((ByteArrayToHexStr bytes reverse).bind fun str =>
        HexStrToByteArray str bytes.length reverse) = some bytes) ∧
    ∀ str : List Char, (∀ c ∈ str, isxdigit c = true) → str.length % 2 = 0 →
      str.length / 2 < 2 ^ 30 →
      ((HexStrToByteArray str (str.length / 2) reverse).bind fun bytes =>
        ByteArrayToHexStr bytes reverse) = some (str.map Char.toUpper) := by
  constructor
  · intro bytes hlength
    have hread := HexStrToByteArray_eq ((arrange reverse bytes).map digitsOf)
      (by simpa using hlength) reverse
    rw [length_map, length_arrange] at hread
    rw [ByteArrayToHexStr_eq hlength, Option.bind_some, hread]
    simp [Function.comp_def, byteOf_digitsOf]
  · intro str hdigits heven hlength
    obtain ⟨pairs, rfl⟩ := exists_flatten str heven
    have hpairs : (flatten pairs).length / 2 = pairs.length := by simp
    rw [hpairs] at hlength ⊢
    rw [HexStrToByteArray_eq _ hlength, Option.bind_some,
      ByteArrayToHexStr_eq (by simpa using hlength), map_arrange, map_arrange,
      map_arrange, arrange_arrange, map_map]
    have hupper : pairs.map (digitsOf ∘ byteOf) =
        pairs.map fun pair => (pair.1.toUpper, pair.2.toUpper) :=
      map_congr_left fun pair hpair =>
        digitsOf_byteOf (hdigits _ (mem_flatMap.mpr ⟨pair, hpair, by simp⟩))
          (hdigits _ (mem_flatMap.mpr ⟨pair, hpair, by simp⟩))
    rw [hupper, flatten, flatten, flatMap_map, map_flatMap]
    rfl

end AzerothCore.HexString
