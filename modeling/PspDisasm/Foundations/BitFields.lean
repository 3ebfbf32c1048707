import Mathlib.Data.Nat.Bitwise
import Mathlib.Tactic.Ring

namespace Foundations

/-- The bit field of `word` that starts at bit `at` and is `width` bits wide. -/
def field (word lsb width : Nat) : Nat :=
  word / 2 ^ lsb % 2 ^ width

theorem shiftRight_and_mask (word lsb width : Nat) :
    (word >>> lsb) &&& (2 ^ width - 1) = field word lsb width := by
  rw [Nat.and_two_pow_sub_one_eq_mod, Nat.shiftRight_eq_div_pow, field]

theorem and_mask (word width : Nat) : word &&& (2 ^ width - 1) = field word 0 width := by
  simp [field]

theorem field_low {low high width : Nat} (small : low < 2 ^ width) :
    field (low + 2 ^ width * high) 0 width = low := by
  rw [field, Nat.pow_zero, Nat.div_one, Nat.add_mul_mod_self_left, Nat.mod_eq_of_lt small]

theorem field_high {low high lsb width : Nat} (small : low < 2 ^ lsb) :
    field (low + 2 ^ lsb * high) lsb width = high % 2 ^ width := by
  rw [field, Nat.add_mul_div_left _ _ (Nat.two_pow_pos lsb), Nat.div_eq_of_lt small, Nat.zero_add]

theorem pack_lt {low high lsb width : Nat} (small : low < 2 ^ lsb) (fits : high < 2 ^ width) :
    low + 2 ^ lsb * high < 2 ^ (lsb + width) := by
  have room : high + 1 ≤ 2 ^ width := fits
  calc low + 2 ^ lsb * high < 2 ^ lsb * (high + 1) := by rw [Nat.mul_succ]; omega
    _ ≤ 2 ^ lsb * 2 ^ width := Nat.mul_le_mul_left _ room
    _ = 2 ^ (lsb + width) := (Nat.pow_add ..).symm

/-- A mask of ones from bit `lsb` to bit `msb` clears the bits on both sides. -/
theorem and_high_mask (word : Nat) {lsb msb : Nat} (order : lsb ≤ msb) :
    word &&& (2 ^ msb - 2 ^ lsb) = field word lsb (msb - lsb) * 2 ^ lsb := by
  have mask : 2 ^ msb - 2 ^ lsb = 2 ^ lsb * (2 ^ (msb - lsb) - 1) := by
    rw [Nat.mul_sub, ← Nat.pow_add, Nat.mul_one]
    congr 2
    omega
  apply Nat.eq_of_testBit_eq
  intro i
  rw [mask, Nat.testBit_and, Nat.testBit_two_pow_mul, Nat.testBit_two_pow_sub_one, Nat.mul_comm,
    Nat.testBit_two_pow_mul, field, Nat.testBit_mod_two_pow, Nat.testBit_div_two_pow]
  by_cases low : lsb ≤ i
  · simp only [low, decide_true, Bool.true_and, Nat.sub_add_cancel low]
    exact Bool.and_comm _ _
  · simp [low]

theorem mul_or_of_lt {low lsb : Nat} (high : Nat) (small : low < 2 ^ lsb) :
    high * 2 ^ lsb ||| low = high * 2 ^ lsb + low := by
  rw [Nat.mul_comm, Nat.two_pow_add_eq_or_of_lt small]

theorem and_bit_ne_zero (word lsb : Nat) : word &&& 2 ^ lsb ≠ 0 ↔ word / 2 ^ lsb % 2 = 1 := by
  rw [Nat.and_two_pow, Nat.testBit_eq_decide_div_mod_eq]
  by_cases set : word / 2 ^ lsb % 2 = 1 <;> simp [set]

end Foundations
