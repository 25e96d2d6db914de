import AzerothCore.Common.Define

/-!
# Words as bits

The bits of a word from the highest to the lowest, and words of one width after each
other, which their bits determine.
-/

namespace AzerothCore
open List Nat

def bits : ℕ → ℕ → List Bool
  | 0, _ => []
  | width + 1, value => value.testBit width :: bits width value

variable {width value other : ℕ}

theorem length_bits (width value : ℕ) : (bits width value).length = width := by
  induction width with
  | zero => rfl
  | succ width ih => rw [bits, length_cons, ih]

theorem bits_eq_iff : bits width value = bits width other ↔
      ∀ bit < width, value.testBit bit = other.testBit bit := by
  induction width with
  | zero => exact ⟨fun _ bit hbit => absurd hbit (Nat.not_lt_zero bit), fun _ => rfl⟩
  | succ width ih =>
    rw [bits, bits, cons.injEq, ih]
    constructor
    · rintro ⟨htop, hrest⟩ bit hbit
      obtain hlt | rfl := Nat.lt_succ_iff_lt_or_eq.mp hbit
      · exact hrest bit hlt
      · exact htop
    · exact fun hall => ⟨hall width (Nat.lt_succ_self width), fun bit hbit => hall bit (by omega)⟩

theorem bits_inj (hvalue : value < 2 ^ width) (hother : other < 2 ^ width)
    (heq : bits width value = bits width other) : value = other := by
  refine eq_of_testBit_eq fun bit => ?_
  by_cases hbit : bit < width
  · exact bits_eq_iff.mp heq bit hbit
  · have hpow : 2 ^ width ≤ 2 ^ bit := Nat.pow_le_pow_right (by decide) (not_lt.mp hbit)
    rw [testBit_lt_two_pow (hvalue.trans_le hpow), testBit_lt_two_pow (hother.trans_le hpow)]

theorem bits_zero (width : ℕ) : bits width 0 = replicate width false := by
  induction width with
  | zero => rfl
  | succ width ih => rw [bits, ih, zero_testBit, replicate_succ]

theorem bits_add (high low value : ℕ) :
    bits (high + low) value = bits high (value >>> low) ++ bits low value := by
  induction high with
  | zero => rw [Nat.zero_add, bits, nil_append]
  | succ high ih =>
    rw [Nat.add_right_comm, bits, bits, ih, testBit_shiftRight, Nat.add_comm low, cons_append]

theorem bits_mask (width value : ℕ) : bits width (value &&& (1 <<< width - 1)) = bits width value := by
  refine bits_eq_iff.mpr fun bit hbit => ?_
  rw [testBit_and, one_shiftLeft, testBit_two_pow_sub_one, decide_eq_true hbit, Bool.and_true]

theorem mask_lt (width value : ℕ) : value &&& (1 <<< width - 1) < 2 ^ width := by
  rw [one_shiftLeft, and_two_pow_sub_one_eq_mod]
  exact mod_lt _ (Nat.two_pow_pos width)

theorem bits_shiftLeft_or (value high : ℕ) {low : ℕ} (hother : other < 2 ^ low) :
    bits (high + low) (value <<< low ||| other) = bits high value ++ bits low other := by
  have hlow : bits low (value <<< low ||| other) = bits low other := by
    refine bits_eq_iff.mpr fun bit hbit => ?_
    rw [testBit_or, testBit_shiftLeft, decide_eq_false (not_le.mpr hbit), Bool.false_and,
      Bool.false_or]
  rw [bits_add, hlow, shiftRight_or_distrib, shiftLeft_shiftRight, shiftRight_eq_div_pow other,
    div_eq_of_lt hother, Nat.or_zero]

theorem shiftLeft_or_lt {high low : ℕ} (hvalue : value < 2 ^ high) (hother : other < 2 ^ low) :
    value <<< low ||| other < 2 ^ (high + low) := by
  rw [← shiftLeft_add_eq_or_of_lt hother, shiftLeft_eq, pow_add]
  calc value * 2 ^ low + other
      < (value + 1) * 2 ^ low := by rw [succ_mul]; omega
    _ ≤ 2 ^ high * 2 ^ low := Nat.mul_le_mul_right _ hvalue

theorem length_flatMap_word {α : Type*} {word : α → List Bool}
    (hword : ∀ x, (word x).length = width) (xs : List α) :
    (xs.flatMap word).length = xs.length * width := by
  induction xs with
  | nil => exact (Nat.zero_mul width).symm
  | cons x xs ih => rw [flatMap_cons, length_append, hword, ih, length_cons, succ_mul, Nat.add_comm]

theorem flatMap_append_inj {α : Type*} {word : α → List Bool} {rest rest' : List Bool}
    (hword : ∀ x, (word x).length = width) (hrest : rest.length < width)
    (hrest' : rest'.length < width) {xs ys : List α}
    (hinj : ∀ x ∈ xs, ∀ y ∈ ys, word x = word y → x = y)
    (heq : xs.flatMap word ++ rest = ys.flatMap word ++ rest') : xs = ys ∧ rest = rest' := by
  induction xs generalizing ys with
  | nil =>
    cases ys with
    | nil => exact ⟨rfl, heq⟩
    | cons y ys =>
      have hlen := congrArg length heq
      simp only [flatMap_cons, flatMap_nil, length_append, hword, length_nil] at hlen
      omega
  | cons x xs ih =>
    cases ys with
    | nil =>
      have hlen := congrArg length heq
      simp only [flatMap_cons, flatMap_nil, length_append, hword, length_nil] at hlen
      omega
    | cons y ys =>
      rw [flatMap_cons, flatMap_cons, append_assoc, append_assoc] at heq
      obtain ⟨hfirst, hrests⟩ := append_inj heq ((hword x).trans (hword y).symm)
      obtain rfl := hinj x mem_cons_self y mem_cons_self hfirst
      obtain ⟨rfl, hrest⟩ := ih
        (fun x hx y hy => hinj x (mem_cons_of_mem _ hx) y (mem_cons_of_mem _ hy)) hrests
      exact ⟨rfl, hrest⟩

end AzerothCore
