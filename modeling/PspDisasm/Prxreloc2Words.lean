import PspDisasm.Prxreloc2Grammar

namespace PspDisasm
open Foundations

namespace Command
variable {format : StreamFormat} {command : Command}

theorem Fits.flagIndex_lt (fits : command.Fits format) : command.flagIndex < 2 ^ format.flagBits := by
  cases command with
  | state => exact fits.1
  | relocation => exact fits.1

theorem Fits.segment_lt (fits : command.Fits format) : command.segment < 2 ^ format.segBits := by
  cases command with
  | state => exact fits.2.1
  | relocation => exact fits.2.1

/-- The displacement's bits, as the number stored in the payload field. -/
theorem payload_lt (format : StreamFormat) (high : Int) :
    (high % 2 ^ format.payloadWidth).toNat < 2 ^ format.payloadWidth := by
  have positive : (0 : Int) < 2 ^ format.payloadWidth := by positivity
  have lower := Int.emod_nonneg high positive.ne'
  have upper := Int.emod_lt_of_pos high positive
  zify
  rwa [Int.toNat_of_nonneg lower]

theorem upper_lt (widths : format.payloadShift ≤ 16) (fits : command.Fits format) :
    command.upper format < 2 ^ format.upperWidth := by
  cases command with
  | state flagIndex segment base =>
    obtain ⟨_, _, baseFits, _⟩ := fits
    cases base with
    | compact base => exact baseFits
    | absolute spare base => exact baseFits.1
  | relocation flagIndex typeIndex segment displacement lowHalf =>
    obtain ⟨_, _, typeFits, _⟩ := fits
    have room : format.upperWidth = format.typeBits + format.payloadWidth := by
      unfold StreamFormat.upperWidth StreamFormat.payloadWidth
      unfold StreamFormat.payloadShift at widths ⊢
      omega
    rw [room]
    exact pack_lt typeFits (payload_lt format displacement.high)

theorem word_lt (widths : format.payloadShift ≤ 16) (fits : command.Fits format) :
    command.word format < 256 ^ 2 := by
  have inner := pack_lt fits.segment_lt (upper_lt widths fits)
  have whole := pack_lt fits.flagIndex_lt inner
  have total : format.flagBits + (format.segBits + format.upperWidth) = 16 := by
    unfold StreamFormat.upperWidth
    unfold StreamFormat.payloadShift StreamFormat.typeShift at widths
    unfold StreamFormat.typeShift
    omega
  rw [total] at whole
  exact whole

/-- The word with the flag and segment fields taken together. -/
theorem word_split (command : Command) (format : StreamFormat) :
    command.word format = (command.flagIndex + 2 ^ format.flagBits * command.segment)
      + 2 ^ format.typeShift * command.upper format := by
  rw [word, StreamFormat.typeShift, Nat.pow_add]
  ring

theorem word_flag (fits : command.Fits format) :
    command.word format &&& mask format.flagBits = command.flagIndex := by
  rw [mask_eq, and_mask, word, field_low fits.flagIndex_lt]

theorem word_segment (fits : command.Fits format) :
    (command.word format >>> format.flagBits) &&& mask format.segBits = command.segment := by
  rw [mask_eq, shiftRight_and_mask, word, field_high fits.flagIndex_lt, Nat.add_mul_mod_self_left,
    Nat.mod_eq_of_lt fits.segment_lt]

theorem word_type (fits : command.Fits format) :
    (command.word format >>> format.typeShift) &&& mask format.typeBits
      = command.upper format % 2 ^ format.typeBits := by
  rw [mask_eq, shiftRight_and_mask, word_split]
  exact field_high (pack_lt fits.flagIndex_lt fits.segment_lt)

theorem word_upper (fits : command.Fits format) :
    command.word format >>> (format.flagBits + format.segBits) = command.upper format := by
  have small : command.flagIndex + 2 ^ format.flagBits * command.segment < 2 ^ format.typeShift :=
    pack_lt fits.flagIndex_lt fits.segment_lt
  rw [word_split, Nat.shiftRight_eq_div_pow, ← StreamFormat.typeShift,
    Nat.add_mul_div_left _ _ (Nat.two_pow_pos _), Nat.div_eq_of_lt small, Nat.zero_add]

end Command

/-- A field stores a negative number as its two's complement. -/
theorem FitsSigned.stored_of_neg {width : Nat} {high : Int} (fits : FitsSigned width high) (negative : high < 0) :
    ((high % 2 ^ width).toNat : Int) = high + 2 ^ width := by
  obtain ⟨lower, upper⟩ := fits
  rw [Int.toNat_of_nonneg (Int.emod_nonneg _ (by positivity)), ← Int.add_emod_right,
    Int.emod_eq_of_lt (by omega) (by omega)]

theorem FitsSigned.stored_of_nonneg {width : Nat} {high : Int} (fits : FitsSigned width high) (nonneg : 0 ≤ high) :
    ((high % 2 ^ width).toNat : Int) = high := by
  obtain ⟨lower, upper⟩ := fits
  rw [Int.emod_eq_of_lt nonneg (by omega), Int.toNat_of_nonneg nonneg]

/-- A shifted field of `width` bits at the top of a 16-bit word is read back
with its sign, unless it has no bits. -/
theorem signedCompactDelta_field {low shift width : Nat} {high : Int} (small : low < 2 ^ shift)
    (total : shift + width = 16) (positive : 0 < width) (fits : FitsSigned width high) :
    signedCompactDelta (low + 2 ^ shift * (high % 2 ^ width).toNat) shift = high := by
  obtain ⟨lower, upper⟩ := id fits
  have halves : (2 : Int) ^ shift * 2 ^ width = 0x10000 := by
    rw [← pow_add, total]
    norm_num
  have half : (2 : Int) ^ width = 2 * 2 ^ (width - 1) := by
    rw [← pow_succ']
    congr 1
    omega
  have unit : (0 : Int) < 2 ^ shift := by positivity
  have scaled : (2 : Int) ^ shift * 2 ^ (width - 1) = 0x8000 := by
    rw [half] at halves
    linarith
  have smallInt : (low : Int) < 2 ^ shift := by exact_mod_cast small
  have quotient : ((low : Int) + 2 ^ shift * high) / 2 ^ shift = high := by
    rw [Int.add_mul_ediv_left _ _ unit.ne', Int.ediv_eq_zero_of_lt (by omega) smallInt, zero_add]
  rw [signedCompactDelta, Int.shiftRight_eq_div_pow]
  push_cast
  by_cases negative : high < 0
  · have stored := fits.stored_of_neg negative
    have word : ((low + 2 ^ shift * (high % 2 ^ width).toNat : Nat) : Int)
        = low + 2 ^ shift * high + 0x10000 := by
      push_cast
      rw [stored, mul_add, halves]
      ring
    have bottom : (2 : Int) ^ shift * -2 ^ (width - 1) ≤ 2 ^ shift * high :=
      mul_le_mul_of_nonneg_left (by omega) unit.le
    have top : (2 : Int) ^ shift * high ≤ 2 ^ shift * -1 := mul_le_mul_of_nonneg_left (by omega) unit.le
    rw [mul_neg, scaled] at bottom
    rw [signedHalf_of_ge (by omega) (by omega), word, add_sub_cancel_right]
    exact quotient
  · have stored := fits.stored_of_nonneg (le_of_not_gt negative)
    have word : ((low + 2 ^ shift * (high % 2 ^ width).toNat : Nat) : Int) = low + 2 ^ shift * high := by
      push_cast
      rw [stored]
    have top : (2 : Int) ^ shift * (high + 1) ≤ 2 ^ shift * 2 ^ (width - 1) :=
      mul_le_mul_of_nonneg_left (by omega) unit.le
    have bottom : 0 ≤ (2 : Int) ^ shift * high := mul_nonneg unit.le (by omega)
    rw [scaled, mul_add, mul_one] at top
    rw [signedHalf_of_lt (by omega), word]
    exact quotient

/-- With no displacement bits, the sign read is the top bit of the fields below. -/
theorem signedCompactDelta_empty {word : Nat} (within : word < 0x10000) :
    signedCompactDelta word 16 = if word < 0x8000 then 0 else -1 := by
  rw [signedCompactDelta, Int.shiftRight_eq_div_pow]
  split
  · rename_i small
    rw [signedHalf_of_lt small]
    omega
  · rw [signedHalf_of_ge (by omega) within]
    omega

end PspDisasm
