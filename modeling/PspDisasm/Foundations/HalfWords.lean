import PspDisasm.Foundations.BitFields

namespace Foundations

/-- The low half of a word read as a signed 16-bit number. -/
def signedHalf (half : Nat) : Int :=
  if half &&& 0x8000 ≠ 0 then (half : Int) - 0x10000 else half

theorem signedHalf_of_lt {half : Nat} (small : half < 0x8000) : signedHalf half = half := by
  have clear : ¬(half &&& 2 ^ 15 ≠ 0) := by
    rw [and_bit_ne_zero]
    omega
  exact if_neg clear

theorem signedHalf_of_ge {half : Nat} (large : 0x8000 ≤ half) (within : half < 0x10000) :
    signedHalf half = half - 0x10000 := by
  have set : half &&& 2 ^ 15 ≠ 0 := by
    rw [and_bit_ne_zero]
    omega
  exact if_pos set

theorem signedHalf_emod {half : Nat} (within : half < 0x10000) : signedHalf half % 0x10000 = half := by
  by_cases small : half < 0x8000
  · rw [signedHalf_of_lt small]
    omega
  · rw [signedHalf_of_ge (by omega) within]
    omega

/-- Every signed 16-bit number is read back from its two's complement half. -/
theorem signedHalf_toNat {value : Int} (lower : -0x8000 ≤ value) (upper : value < 0x8000) :
    signedHalf (value % 0x10000).toNat = value := by
  by_cases positive : 0 ≤ value
  · rw [signedHalf_of_lt (by omega)]
    omega
  · rw [signedHalf_of_ge (by omega) (by omega)]
    omega

/-- The high half of an address whose low half will be added as a signed number:
it is one more when the low half counts as negative. -/
def carriedHigh (address : Int) : Int :=
  if address / 0x8000 % 2 = 1 then (address + 0x10000) % 2 ^ 32 / 0x10000 else address / 0x10000

/-- A high half adjusted for the carry and the plain low half compose to the address. -/
theorem carriedHigh_compose {address : Int} {low : Nat} (nonneg : 0 ≤ address) (small : address < 2 ^ 32)
    (half : (low : Int) = address % 0x10000) :
    (carriedHigh address * 0x10000 + signedHalf low) % 2 ^ 32 = address := by
  unfold carriedHigh
  by_cases carry : low < 0x8000
  · rw [signedHalf_of_lt carry, if_neg (by omega)]
    omega
  · rw [signedHalf_of_ge (by omega) (by omega), if_pos (by omega)]
    omega

end Foundations
