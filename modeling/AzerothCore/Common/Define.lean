import Mathlib.Data.Nat.Bitwise

/-!
# Fixed-width arithmetic and bit masks

Unsigned machine integers are natural numbers that are reduced where the code
can wrap.
-/

namespace AzerothCore
open Nat

variable (value : ℕ)

def uint8 : ℕ := value % 2 ^ 8

def uint32 : ℕ := value % 2 ^ 32

/-- The conversion of a number to `int32`. -/
def int32 (value : ℤ) : ℤ := value.bmod (2 ^ 32)

/-- The conversion of a number that may be negative to `uint8`. -/
def toUint8 (value : ℤ) : ℕ := (value % 2 ^ 8).toNat

/-- The conversion of a number that may be negative to `uint32`. -/
def toUint32 (value : ℤ) : ℕ := (value % 2 ^ 32).toNat

theorem uint8_of_lt {value : ℕ} (hlt : value < 2 ^ 8) : uint8 value = value := mod_eq_of_lt hlt

theorem uint8_lt : uint8 value < 2 ^ 8 := mod_lt _ (by decide)

theorem uint32_of_lt {value : ℕ} (hlt : value < 2 ^ 32) : uint32 value = value :=
  mod_eq_of_lt hlt

theorem uint32_lt : uint32 value < 2 ^ 32 := mod_lt _ (by decide)

theorem land_ne_zero_iff {value mask : ℕ} :
    value &&& mask ≠ 0 ↔ ∃ bit, value.testBit bit = true ∧ mask.testBit bit = true := by
  constructor
  · intro hne
    obtain ⟨bit, hbit⟩ := exists_testBit_of_ne_zero hne
    rw [testBit_and, Bool.and_eq_true] at hbit
    exact ⟨bit, hbit⟩
  · rintro ⟨bit, hvalue, hmask⟩ hzero
    have hbit : (value &&& mask).testBit bit = true := by
      rw [testBit_and, hvalue, hmask, Bool.and_self]
    rw [hzero, zero_testBit] at hbit
    exact Bool.false_ne_true hbit

theorem land_one_shiftLeft_ne_zero_iff {value bit : ℕ} :
    value &&& (1 <<< bit) ≠ 0 ↔ value.testBit bit = true := by
  rw [land_ne_zero_iff]
  constructor
  · rintro ⟨other, hvalue, hmask⟩
    rw [one_shiftLeft, testBit_two_pow, decide_eq_true_eq] at hmask
    rwa [hmask]
  · intro hvalue
    exact ⟨bit, hvalue, by rw [one_shiftLeft, testBit_two_pow_self]⟩

end AzerothCore
