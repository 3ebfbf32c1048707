import Mathlib.Data.Int.Bitwise
import PspDisasm.Foundations.BitFields

namespace Foundations

/-- A half-open range of addresses. -/
abbrev Span := Int × Int

def Span.Apart (span other : Span) : Prop := span.2 ≤ other.1 ∨ other.2 ≤ span.1

instance (span other : Span) : Decidable (span.Apart other) := inferInstanceAs (Decidable (_ ∨ _))

theorem Span.Apart.symm {span other : Span} (apart : span.Apart other) : other.Apart span := Or.symm apart

/-- `value & ~(2 ** k - 1)` for a number that is not negative. -/
theorem land_lnot_mask {value : Int} (k : Nat) (nonneg : 0 ≤ value) :
    Int.land value (Int.lnot (2 ^ k - 1 : Nat)) = value / 2 ^ k * 2 ^ k := by
  obtain ⟨n, rfl⟩ := Int.eq_ofNat_of_zero_le nonneg
  have bits : Nat.ldiff n (2 ^ k - 1) = n / 2 ^ k * 2 ^ k := by
    apply Nat.eq_of_testBit_eq
    intro i
    rw [Nat.testBit_ldiff, Nat.testBit_two_pow_sub_one, Nat.mul_comm, Nat.testBit_two_pow_mul, Nat.testBit_div_two_pow]
    by_cases low : i < k
    · simp [low]
    · have high : k ≤ i := Nat.not_lt.mp low
      simp [low, high]
  change ((Nat.ldiff n (2 ^ k - 1) : Nat) : Int) = _
  rw [bits]
  push_cast
  rfl

/-- `(value + alignment - 1) & ~(alignment - 1)`. -/
def alignUp (value : Int) (alignment : Nat) : Int :=
  Int.land (value + alignment - 1) (Int.lnot (alignment - 1 : Nat))

/-- Rounding up to a power of two gives the next multiple. -/
theorem alignUp_spec {value : Int} {alignment : Nat} (power : alignment.isPowerOfTwo) (nonneg : 0 ≤ value) :
    (alignment : Int) ∣ alignUp value alignment ∧ value ≤ alignUp value alignment ∧
      alignUp value alignment < value + alignment := by
  obtain ⟨k, rfl⟩ := power
  have positive : 0 < 2 ^ k := Nat.two_pow_pos k
  have rounded : alignUp value (2 ^ k) = (value + (2 ^ k : Nat) - 1) / 2 ^ k * 2 ^ k :=
    land_lnot_mask k (by omega)
  have cast : ((2 ^ k : Nat) : Int) = 2 ^ k := by push_cast; rfl
  rw [rounded, cast]
  generalize (2 : Int) ^ k = step at *
  have division := Int.emod_add_mul_ediv (value + step - 1) step
  have lower := Int.emod_nonneg (value + step - 1) (b := step) (by omega)
  have upper := Int.emod_lt_of_pos (value + step - 1) (b := step) (by omega)
  rw [Int.mul_comm] at division
  exact ⟨Int.dvd_mul_left .., by omega, by omega⟩

end Foundations
