import AzerothCore.Common.Define
import Mathlib.Tactic.Linarith

/-!
# The money of a player

Amounts that are given or taken are an `int32`, and the money of a player is a
`uint32` that stays below a limit.
-/

namespace AzerothCore

def MAX_MONEY_AMOUNT : ℕ := 0x7FFFFFFF - 1

/-- `Player::ModifyMoney` -/
def ModifyMoney (money : ℕ) (amount : ℤ) : ℕ :=
  if amount = 0 then
    money
  else if amount < 0 then
    if money > toUint32 (-amount) then toUint32 (money + amount) else 0
  else if money < toUint32 (MAX_MONEY_AMOUNT - amount) then
    toUint32 (money + amount)
  else
    money

/-- Whether `ModifyMoney` returns `false`. -/
def tooMuchMoney (money : ℕ) (amount : ℤ) : Bool :=
  0 < amount && toUint32 (MAX_MONEY_AMOUNT - amount) ≤ money

theorem int32_of_le {value : ℕ} (hle : value ≤ MAX_MONEY_AMOUNT) : int32 value = value := by
  rw [MAX_MONEY_AMOUNT] at hle
  exact Int.bmod_eq_of_le (by omega) (by omega)

theorem toUint32_of_lt {value : ℕ} (hlt : value < 2 ^ 32) : toUint32 value = value := by
  rw [toUint32]
  omega

theorem ModifyMoney_neg {money amount : ℕ} (hle : amount ≤ money)
    (hmoney : money ≤ MAX_MONEY_AMOUNT) : ModifyMoney money (-int32 amount) = money - amount := by
  have hamount : int32 amount = amount := int32_of_le (hle.trans hmoney)
  rw [MAX_MONEY_AMOUNT] at hmoney
  rw [ModifyMoney, hamount, neg_neg, toUint32_of_lt (by omega)]
  by_cases hzero : amount = 0
  · rw [if_pos (by omega)]
    omega
  rw [if_neg (by omega), if_pos (by omega)]
  split
  case isFalse => omega
  have hrest : (money : ℤ) + -(amount : ℤ) = ((money - amount : ℕ) : ℤ) := by omega
  rw [hrest, toUint32_of_lt (by omega)]

theorem ModifyMoney_pos {money amount : ℕ} (hlt : money + amount < MAX_MONEY_AMOUNT) :
    ModifyMoney money (int32 amount) = money + amount := by
  have hamount : int32 amount = amount := int32_of_le (by omega)
  rw [MAX_MONEY_AMOUNT] at hlt
  have hroom : toUint32 ((MAX_MONEY_AMOUNT : ℕ) - (amount : ℤ)) = MAX_MONEY_AMOUNT - amount := by
    have heq : ((MAX_MONEY_AMOUNT : ℕ) : ℤ) - (amount : ℤ) =
        ((MAX_MONEY_AMOUNT - amount : ℕ) : ℤ) := by
      rw [MAX_MONEY_AMOUNT]
      omega
    rw [heq, toUint32_of_lt (by rw [MAX_MONEY_AMOUNT]; omega)]
  rw [ModifyMoney, hamount]
  by_cases hzero : amount = 0
  · rw [if_pos (by omega), hzero, Nat.add_zero]
  rw [if_neg (by omega), if_neg (by omega), hroom, if_pos (by rw [MAX_MONEY_AMOUNT]; omega)]
  have hsum : (money : ℤ) + (amount : ℤ) = ((money + amount : ℕ) : ℤ) := by omega
  rw [hsum, toUint32_of_lt (by omega)]

end AzerothCore
