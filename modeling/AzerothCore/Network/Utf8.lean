import Mathlib.Data.Nat.Notation

/-!
# UTF-8 validation

An iterator is the list of the bytes from it to the end, so that a sequence of
several bytes ends at the byte that the iterator then points to.
-/

namespace AzerothCore.Network.Utf8

inductive utf_error where
  | NOT_ENOUGH_ROOM
  | INVALID_LEAD
  | INCOMPLETE_SEQUENCE
  | OVERLONG_SEQUENCE
  | INVALID_CODE_POINT
deriving DecidableEq

def is_trail (oc : UInt8) : Bool := oc >>> 6 == 0x2

def is_surrogate (cp : ℕ) : Bool := 0xd800 ≤ cp && cp ≤ 0xdfff

def is_code_point_valid (cp : ℕ) : Bool := cp ≤ 0x0010ffff && !is_surrogate cp

def sequence_length (lead : UInt8) : ℕ :=
  if lead < 0x80 then 1
  else if lead >>> 5 == 0x6 then 2
  else if lead >>> 4 == 0xe then 3
  else if lead >>> 3 == 0x1e then 4
  else 0

def is_overlong_sequence (cp length : ℕ) : Bool :=
  if cp < 0x80 then length != 1
  else if cp < 0x800 then length != 2
  else if cp < 0x10000 then length != 3
  else false

def increase_safely : List UInt8 → Except utf_error (UInt8 × List UInt8)
  | _ :: trail :: rest =>
    if is_trail trail then .ok (trail, trail :: rest) else .error .INCOMPLETE_SEQUENCE
  | _ => .error .NOT_ENOUGH_ROOM

def get_sequence_1 : List UInt8 → Except utf_error (ℕ × List UInt8)
  | [] => .error .NOT_ENOUGH_ROOM
  | it@(lead :: _) => .ok (lead.toNat, it)

def get_sequence_2 : List UInt8 → Except utf_error (ℕ × List UInt8)
  | [] => .error .NOT_ENOUGH_ROOM
  | it@(lead :: _) => do
    let (second, it) ← increase_safely it
    return ((lead.toNat <<< 6 &&& 0x7ff) + (second.toNat &&& 0x3f), it)

def get_sequence_3 : List UInt8 → Except utf_error (ℕ × List UInt8)
  | [] => .error .NOT_ENOUGH_ROOM
  | it@(lead :: _) => do
    let (second, it) ← increase_safely it
    let (third, it) ← increase_safely it
    return ((lead.toNat <<< 12 &&& 0xffff) + (second.toNat <<< 6 &&& 0xfff) +
      (third.toNat &&& 0x3f), it)

def get_sequence_4 : List UInt8 → Except utf_error (ℕ × List UInt8)
  | [] => .error .NOT_ENOUGH_ROOM
  | it@(lead :: _) => do
    let (second, it) ← increase_safely it
    let (third, it) ← increase_safely it
    let (fourth, it) ← increase_safely it
    return ((lead.toNat <<< 18 &&& 0x1fffff) + (second.toNat <<< 12 &&& 0x3ffff) +
      (third.toNat <<< 6 &&& 0xfff) + (fourth.toNat &&& 0x3f), it)

def get_sequence (length : ℕ) (it : List UInt8) : Except utf_error (ℕ × List UInt8) :=
  match length with
  | 1 => get_sequence_1 it
  | 2 => get_sequence_2 it
  | 3 => get_sequence_3 it
  | 4 => get_sequence_4 it
  | _ => .error .INVALID_LEAD

/-- The iterator behind the first sequence. -/
def validate_next : List UInt8 → Except utf_error (List UInt8)
  | [] => .error .NOT_ENOUGH_ROOM
  | it@(lead :: _) => do
    let length := sequence_length lead
    let (cp, last) ← get_sequence length it
    if is_code_point_valid cp then
      if is_overlong_sequence cp length then
        throw .OVERLONG_SEQUENCE
      else
        return last.tail
    else
      throw .INVALID_CODE_POINT

/-- The iterator at the first sequence that is not valid; each sequence has at
least one byte. -/
def find_invalid : ℕ → List UInt8 → List UInt8
  | 0, start => start
  | fuel + 1, start =>
    if start = [] then start
    else
      match validate_next start with
      | .error _ => start
      | .ok result => find_invalid fuel result

def is_valid (value : List UInt8) : Bool := find_invalid value.length value = []

end AzerothCore.Network.Utf8
