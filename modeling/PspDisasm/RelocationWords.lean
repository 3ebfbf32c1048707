import PspDisasm.Prxreloc2

namespace PspDisasm
open Foundations

theorem and_0xFFFFFFFF (word : Nat) : word &&& 0xFFFFFFFF = word % 2 ^ 32 :=
  Nat.and_two_pow_sub_one_eq_mod word 32

theorem and_0xFFFF (word : Nat) : word &&& 0xFFFF = word % 2 ^ 16 :=
  Nat.and_two_pow_sub_one_eq_mod word 16

theorem and_0x03FFFFFF (word : Nat) : word &&& 0x03FFFFFF = word % 2 ^ 26 :=
  Nat.and_two_pow_sub_one_eq_mod word 26

theorem and_0xFFFF0000 (word : Nat) : word &&& 0xFFFF0000 = word / 2 ^ 16 % 2 ^ 16 * 2 ^ 16 :=
  and_high_mask word (by decide : 16 ≤ 32)

theorem and_0xFC000000 (word : Nat) : word &&& 0xFC000000 = word / 2 ^ 26 % 2 ^ 6 * 2 ^ 26 :=
  and_high_mask word (by decide : 26 ≤ 32)

section Apply
variable {word : Nat} {relocation : Relocation} {targetBase : Int} {lo16 : Option Int}

theorem applyPspRelocationWord_word32 (type : relocation.type = 2) :
    applyPspRelocationWord word relocation targetBase lo16 = .ok ((word + targetBase) % 2 ^ 32).toNat := by
  have distinct : relocation.type ∉ [0, 7] := by simp [type]
  simp only [applyPspRelocationWord, type, if_neg (type ▸ distinct), if_true, and_0xFFFFFFFF]
  congr 1
  omega

/-- A low-half relocation adds the base into the low half and drops the carry. -/
theorem applyPspRelocationWord_low (type : relocation.type ∈ [1, 6]) (small : word < 2 ^ 32) :
    ∃ result, applyPspRelocationWord word relocation targetBase lo16 = .ok result ∧
      result / 2 ^ 16 = word / 2 ^ 16 ∧ (result : Int) % 2 ^ 16 = (word + targetBase) % 2 ^ 16 := by
  have distinct : relocation.type ∉ [0, 7] ∧ relocation.type ≠ 2 := by
    constructor <;> grind
  have half : ((word % 2 ^ 32 % 2 ^ 16 + (targetBase % 2 ^ 32).toNat) % 2 ^ 16) < 2 ^ 16 := Nat.mod_lt _ (by decide)
  refine ⟨_, by
    simp only [applyPspRelocationWord, type, distinct.1, distinct.2, and_0xFFFFFFFF, and_0xFFFF, and_0xFFFF0000,
      if_false, if_true]
    rw [mul_or_of_lt _ half], ?_, ?_⟩ <;> omega

/-- The opcode bits of a patched jump: two of the types write a fixed opcode. -/
def jumpOpcode (type word : Nat) : Nat :=
  if type = 14 then 2 else if type = 15 then 3 else word / 2 ^ 26

theorem applyPspRelocationWord_jump (type : relocation.type ∈ [4, 14, 15]) (small : word < 2 ^ 32) :
    ∃ result, applyPspRelocationWord word relocation targetBase lo16 = .ok result ∧
      result / 2 ^ 26 = jumpOpcode relocation.type word ∧
        (result : Int) % 2 ^ 26 = (word + targetBase / 4) % 2 ^ 26 := by
  have distinct : relocation.type ∉ [0, 7] ∧ relocation.type ≠ 2 ∧ relocation.type ∉ [1, 6] := by
    refine ⟨?_, ?_, ?_⟩ <;> grind
  have field : (word % 2 ^ 32 % 2 ^ 26 + (targetBase % 2 ^ 32).toNat / 2 ^ 2) % 2 ^ 26 < 2 ^ 26 :=
    Nat.mod_lt _ (by decide)
  have absolute : (0x08000000 : Nat) = 2 * 2 ^ 26 ∧ (0x0C000000 : Nat) = 3 * 2 ^ 26 := by decide
  simp only [applyPspRelocationWord, type, distinct.1, distinct.2.1, distinct.2.2, and_0xFFFFFFFF, and_0x03FFFFFF,
    and_0xFC000000, Nat.shiftRight_eq_div_pow, absolute.1, absolute.2, jumpOpcode, if_false, if_true]
  split
  · refine ⟨_, rfl, ?_, ?_⟩ <;> rw [mul_or_of_lt _ field] <;> omega
  · split
    · refine ⟨_, rfl, ?_, ?_⟩ <;> rw [mul_or_of_lt _ field] <;> omega
    · refine ⟨_, rfl, ?_, ?_⟩ <;> rw [mul_or_of_lt _ field] <;> omega

/-- A high-half relocation stores the high half of the composed address, with
the carry that its low half will take back. -/
theorem applyPspRelocationWord_high (targetBase : Int) {low : Int} (type : relocation.type = 5)
    (paired : lo16.or relocation.addend = some low) (small : word < 2 ^ 32) :
    ∃ result, applyPspRelocationWord word relocation targetBase lo16 = .ok result ∧
      result / 2 ^ 16 = word / 2 ^ 16 ∧
        ((result % 2 ^ 16 : Nat) : Int) =
          carriedHigh (((word % 2 ^ 16 : Nat) * 2 ^ 16 + low + targetBase) % 2 ^ 32) := by
  have distinct : (5 : Nat) ∉ [0, 7] ∧ (5 : Nat) ≠ 2 ∧ (5 : Nat) ∉ [1, 6] ∧ (5 : Nat) ∉ [4, 14, 15] := by decide
  have half : ∀ address, address / 2 ^ 16 % 2 ^ 16 < 2 ^ 16 := fun address => Nat.mod_lt _ (by decide)
  have composed : (((word % 2 ^ 32 % 2 ^ 16 * 2 ^ 16 : Nat) : Int) + low + (targetBase % 2 ^ 32).toNat) % 2 ^ 32 =
      ((word % 2 ^ 16 : Nat) * 2 ^ 16 + low + targetBase) % 2 ^ 32 := by omega
  have signBit : ∀ address : Nat, address &&& 0x8000 ≠ 0 ↔ address / 2 ^ 15 % 2 = 1 := fun address =>
    and_bit_ne_zero address 15
  simp only [applyPspRelocationWord, type, paired, distinct, and_0xFFFFFFFF, and_0xFFFF, and_0xFFFF0000,
    Nat.shiftRight_eq_div_pow, Nat.shiftLeft_eq, composed, signBit, if_false, if_true]
  refine ⟨_, rfl, ?_, ?_⟩
  · rw [mul_or_of_lt _ (half _)]
    omega
  · have nonneg := Int.emod_nonneg ((word % 2 ^ 16 : Nat) * 2 ^ 16 + low + targetBase) (b := 2 ^ 32) (by decide)
    have bounded := Int.emod_lt_of_pos ((word % 2 ^ 16 : Nat) * 2 ^ 16 + low + targetBase) (b := 2 ^ 32) (by decide)
    generalize ((word % 2 ^ 16 : Nat) * 2 ^ 16 + low + targetBase) % 2 ^ 32 = address at nonneg bounded
    rw [mul_or_of_lt _ (half _), carriedHigh]
    split <;> split <;> omega

/-- Whatever is applied, the result is stored in a 32-bit word again. -/
theorem applyPspRelocationWord_lt {result : Nat}
    (applied : applyPspRelocationWord word relocation targetBase lo16 = .ok result) : result < 2 ^ 32 := by
  have masked : ∀ (value : Nat) {bits : Nat}, bits < 2 ^ 32 → value &&& bits < 2 ^ 32 := fun value _ small =>
    Nat.and_lt_two_pow value small
  simp only [applyPspRelocationWord] at applied
  split at applied
  · cases applied
    exact masked _ (by decide)
  · split at applied
    · cases applied
      exact masked _ (by decide)
    · split at applied
      · cases applied
        exact Nat.or_lt_two_pow (masked _ (by decide)) (masked _ (by decide))
      · split at applied
        · split at applied
          · cases applied
            exact Nat.or_lt_two_pow (by decide) (masked _ (by decide))
          · split at applied
            · cases applied
              exact Nat.or_lt_two_pow (by decide) (masked _ (by decide))
            · cases applied
              exact Nat.or_lt_two_pow (masked _ (by decide)) (masked _ (by decide))
        · split at applied
          · split at applied
            · cases applied
            · cases applied
              exact Nat.or_lt_two_pow (masked _ (by decide)) (masked _ (by decide))
          · cases applied

/-- The types that the relocator knows; a HI16 needs a low half to go with it. -/
def Relocation.Supported (relocation : Relocation) (lo16 : Option Int) : Prop :=
  relocation.type ∈ [0, 7, 2, 1, 6, 4, 14, 15] ∨ relocation.type = 5 ∧ (lo16.or relocation.addend).isSome

theorem applyPspRelocationWord_ok :
    (∃ result, applyPspRelocationWord word relocation targetBase lo16 = .ok result) ↔ relocation.Supported lo16 := by
  simp only [applyPspRelocationWord, Relocation.Supported, List.mem_cons, List.not_mem_nil, or_false]
  constructor
  · rintro ⟨result, applied⟩
    by_contra unsupported
    simp only [not_or, not_and] at unsupported
    obtain ⟨⟨n0, n7, n2, n1, n6, n4, n14, n15⟩, high⟩ := unsupported
    simp only [n0, n7, n2, n1, n6, n4, n14, n15, or_self, if_false] at applied
    split at applied
    · rename_i five
      have none := Option.not_isSome_iff_eq_none.mp (high five)
      rw [none] at applied
      cases applied
    · cases applied
  · intro supported
    split
    · exact ⟨_, rfl⟩
    · split
      · exact ⟨_, rfl⟩
      · split
        · exact ⟨_, rfl⟩
        · split
          · split
            · exact ⟨_, rfl⟩
            · split <;> exact ⟨_, rfl⟩
          · rename_i n07 n2 n16 n4
            simp only [not_or] at n07 n16 n4
            have high : relocation.type = 5 ∧ (lo16.or relocation.addend).isSome := by
              simpa only [n07, n2, n16, n4, or_self, false_or] using supported
            obtain ⟨low, paired⟩ := Option.isSome_iff_exists.mp high.2
            rw [if_pos high.1, paired]
            exact ⟨_, rfl⟩

theorem applyPspRelocationWord_error {failure : Failure}
    (applied : applyPspRelocationWord word relocation targetBase lo16 = .error failure) : failure.isParseError := by
  simp only [applyPspRelocationWord] at applied
  split at applied
  · cases applied
  · split at applied
    · cases applied
    · split at applied
      · cases applied
      · split at applied
        · split at applied
          · cases applied
          · split at applied <;> cases applied
        · split at applied
          · split at applied <;> cases applied
            rfl
          · cases applied
            rfl

end Apply

end PspDisasm
