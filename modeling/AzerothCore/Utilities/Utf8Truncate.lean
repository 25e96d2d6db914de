import AzerothCore.Common.Define
import Mathlib.Data.List.Basic

/-!
# Shortening a text to a number of characters

The bytes of UTF-8 are read and written by what Lean has for them, and the units of UTF-16 as the
library of the server does it. An exception of the library is `none` there.
-/

namespace AzerothCore.Utf8
open List

def LEAD_SURROGATE_MIN : ℕ := 0xd800
def LEAD_SURROGATE_MAX : ℕ := 0xdbff
def TRAIL_SURROGATE_MIN : ℕ := 0xdc00
def TRAIL_SURROGATE_MAX : ℕ := 0xdfff
def LEAD_OFFSET : ℕ := 0xd7c0
def SURROGATE_OFFSET : ℕ := 0xfca02400

def is_lead_surrogate (cp : ℕ) : Bool := LEAD_SURROGATE_MIN ≤ cp && cp ≤ LEAD_SURROGATE_MAX

def is_trail_surrogate (cp : ℕ) : Bool := TRAIL_SURROGATE_MIN ≤ cp && cp ≤ TRAIL_SURROGATE_MAX

/-- What `utf8to16` writes for one code point. -/
def units (char : Char) : List ℕ :=
  let cp := char.toNat
  if cp > 0xffff then [(cp >>> 10) + LEAD_OFFSET, (cp &&& 0x3ff) + TRAIL_SURROGATE_MIN] else [cp]

def distance (bytes : ByteArray) : Option ℕ := bytes.utf8Decode?.map Array.size

def utf8to16 (bytes : ByteArray) : Option (List ℕ) :=
  bytes.utf8Decode?.map fun chars => chars.toList.flatMap units

/-- `append`, before the bytes are written. -/
def append (cp : ℕ) (chars : List Char) : Option (List Char) :=
  if cp.isValidChar then some (Char.ofNat cp :: chars) else none

/-- The code points that `utf16to8` writes. -/
def codePoints : List ℕ → Option (List Char)
  | [] => some []
  | cp :: rest =>
    if is_lead_surrogate cp then
      match rest with
      | trail :: rest =>
        if is_trail_surrogate trail then
          (codePoints rest).bind (append (uint32 ((cp <<< 10) + trail + SURROGATE_OFFSET)))
        else none
      | [] => none
    else if is_trail_surrogate cp then none
    else (codePoints rest).bind (append cp)

def utf16to8 (wstr : List ℕ) : Option ByteArray :=
  (codePoints wstr).map fun chars => (String.ofList chars).toByteArray

/-- The text that is left, or `none` if more is written to a buffer than it can hold. -/
def utf8truncate (utf8str : ByteArray) (len : ℕ) : Option ByteArray :=
  match distance utf8str with
  | none => some .empty
  | some wlen =>
    if wlen ≤ len then some utf8str
    else
      match utf8to16 utf8str with
      | none => some .empty
      | some written =>
        if wlen < written.length then none
        else
          let wstr := (written ++ replicate (wlen - written.length) 0).take len
          match utf16to8 wstr with
          | none => some .empty
          | some bytes => if utf8str.size < bytes.size then none else some bytes

variable {chars : List Char} {char : Char} {len : ℕ}

theorem units_of_le (hle : char.toNat ≤ 0xffff) : units char = [char.toNat] := if_neg (by omega)

theorem le_length_units (chars : List Char) : chars.length ≤ (chars.flatMap units).length := by
  induction chars with
  | nil => exact le_rfl
  | cons char rest ih =>
    have hone : 1 ≤ (units char).length := by
      unfold units
      dsimp only
      split <;> simp
    rw [flatMap_cons, length_append, length_cons]
    omega

/-- Every character outside the basic plane takes a unit more than its one code point. -/
theorem length_lt_units (hchar : char ∈ chars) (houtside : 0xffff < char.toNat) :
    chars.length < (chars.flatMap units).length := by
  induction chars with
  | nil => cases hchar
  | cons first rest ih =>
    rw [flatMap_cons, length_append, length_cons]
    obtain rfl | hrest := mem_cons.mp hchar
    · have htwo : (units char).length = 2 := by simp [units, houtside]
      have hle := le_length_units rest
      omega
    · have hlt := ih hrest
      have hone := le_length_units [first]
      rw [flatMap_singleton, length_singleton] at hone
      omega

theorem flatMap_units (hbasic : ∀ char ∈ chars, char.toNat ≤ 0xffff) :
    chars.flatMap units = chars.map Char.toNat := by
  induction chars with
  | nil => rfl
  | cons char rest ih =>
    rw [flatMap_cons, units_of_le (hbasic char mem_cons_self),
      ih fun other hother => hbasic other (mem_cons_of_mem _ hother)]
    rfl

/-- A code point is no surrogate. -/
theorem codePoints_toNat (hbasic : ∀ char ∈ chars, char.toNat ≤ 0xffff) :
    codePoints (chars.map Char.toNat) = some chars := by
  induction chars with
  | nil => rfl
  | cons char rest ih =>
    have hvalid : char.toNat.isValidChar := char.valid
    have hlead : is_lead_surrogate char.toNat = false := by
      simp only [is_lead_surrogate, LEAD_SURROGATE_MIN, LEAD_SURROGATE_MAX]
      grind
    have htrail : is_trail_surrogate char.toNat = false := by
      simp only [is_trail_surrogate, TRAIL_SURROGATE_MIN, TRAIL_SURROGATE_MAX]
      grind
    have hrest := ih fun other hother => hbasic other (mem_cons_of_mem _ hother)
    rw [map_cons, codePoints.eq_def]
    dsimp only
    rw [hlead, htrail, hrest, if_neg Bool.false_ne_true,
      if_neg Bool.false_ne_true, Option.bind_some, append, if_pos hvalid, Char.ofNat_toNat]

theorem distance_utf8Encode (chars : List Char) :
    distance chars.utf8Encode = some chars.length := by
  rw [distance, utf8Decode?_utf8Encode]
  rfl

theorem utf8to16_utf8Encode (chars : List Char) :
    utf8to16 chars.utf8Encode = some (chars.flatMap units) := by
  rw [utf8to16, utf8Decode?_utf8Encode]
  rfl

theorem utf8truncate_of_length_le (hle : chars.length ≤ len) :
    utf8truncate chars.utf8Encode len = some chars.utf8Encode := by
  rw [utf8truncate, distance_utf8Encode]
  exact if_pos hle

theorem utf8truncate_overflows (hlen : len < chars.length) (hchar : char ∈ chars)
    (houtside : 0xffff < char.toNat) : utf8truncate chars.utf8Encode len = none := by
  rw [utf8truncate, distance_utf8Encode, utf8to16_utf8Encode]
  dsimp only
  rw [if_neg hlen.not_ge, if_pos (length_lt_units hchar houtside)]

theorem utf8truncate_basic (hlen : len < chars.length)
    (hbasic : ∀ char ∈ chars, char.toNat ≤ 0xffff) :
    utf8truncate chars.utf8Encode len = some (chars.take len).utf8Encode := by
  have hcut : utf16to8 ((chars.map Char.toNat).take len) = some (chars.take len).utf8Encode := by
    rw [← map_take, utf16to8, codePoints_toNat fun char hchar => hbasic char (mem_of_mem_take hchar)]
    rfl
  have hsize : (chars.take len).utf8Encode.size ≤ chars.utf8Encode.size := by
    conv_rhs => rw [← take_append_drop len chars, utf8Encode_append, ByteArray.size_append]
    exact Nat.le_add_right _ _
  rw [utf8truncate, distance_utf8Encode, utf8to16_utf8Encode, flatMap_units hbasic]
  dsimp only
  rw [if_neg hlen.not_ge, length_map, if_neg (Nat.lt_irrefl _), Nat.sub_self, replicate_zero,
    append_nil, hcut]
  exact if_neg hsize.not_gt

/-- The text is cut behind its first characters if it is short or has no character that takes two
units of UTF-16. -/
theorem utf8truncate_eq_iff (chars : List Char) (len : ℕ) :
    utf8truncate chars.utf8Encode len = some (chars.take (min len chars.length)).utf8Encode ↔
      chars.length ≤ len ∨ ∀ char ∈ chars, char.toNat ≤ 0xffff := by
  obtain hlen | hle := Nat.lt_or_ge len chars.length
  · rw [Nat.min_eq_left hlen.le]
    constructor
    · refine fun hcut => .inr fun char hchar => Nat.le_of_not_lt fun houtside => ?_
      rw [utf8truncate_overflows hlen hchar houtside] at hcut
      nomatch hcut
    · rintro (hle | hbasic)
      · exact absurd hlen hle.not_gt
      · exact utf8truncate_basic hlen hbasic
  · rw [Nat.min_eq_right hle, take_length, utf8truncate_of_length_le hle]
    exact iff_of_true rfl (.inl hle)

theorem utf8truncate_smile : utf8truncate ['😀', 'a'].utf8Encode 1 ≠ some ['😀'].utf8Encode := by
  rw [@utf8truncate_overflows _ '😀' 1 (by decide) mem_cons_self (by decide)]
  nofun

end AzerothCore.Utf8
