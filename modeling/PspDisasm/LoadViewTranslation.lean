import PspDisasm.LoadViewFrame
import PspDisasm.LoadViewLayout

namespace PspDisasm
open Foundations

/-- The address that a HI16/LO16 pair of words stands for. -/
def composedAddress (high low : Nat) : Int := (high % 2 ^ 16 : Nat) * 2 ^ 16 + signedHalf (low % 2 ^ 16)

theorem WordsApart.symm {elf : ElfImage} {relocation other : Relocation} (apart : WordsApart elf relocation other) :
    WordsApart elf other relocation :=
  Or.symm apart

/-- In a list without overlaps, a record stands apart from all that come before and after it. -/
theorem apart_of_pairwise {elf : ElfImage} {relocations before later : List Relocation} {relocation : Relocation}
    (apart : relocations.Pairwise (WordsApart elf)) (order : relocations = before ++ relocation :: later) :
    ∀ other ∈ before ++ later, WordsApart elf relocation other := by
  rw [order, List.pairwise_append, List.pairwise_cons] at apart
  obtain ⟨_, ⟨after, _⟩, across⟩ := apart
  intro other member
  rcases List.mem_append.mp member with earlier | behind
  · exact (across other earlier relocation (List.mem_cons_self ..)).symm
  · exact after other behind

theorem littleWord_lt (data : Bytes) (offset : Nat) : littleWord data offset < 2 ^ 32 := by
  have bound := littleValue_lt (slice data offset 4)
  have length : (slice data offset 4).length ≤ 4 := List.length_take_le ..
  calc littleWord data offset < 256 ^ (slice data offset 4).length := bound
    _ ≤ 256 ^ 4 := Nat.pow_le_pow_right (by decide) length
    _ = 2 ^ 32 := by decide

section View
variable {data : Bytes} {elf : ElfImage} {model : ExecutableModel} {loadAddress : Int} {view : RelocatedLoadView}
  {before later : List Relocation} {relocation paired : Relocation}

theorem view_word32 (built : buildRelocatedLoadView data elf model loadAddress = .ok view)
    (apart : model.relocations.Pairwise (WordsApart elf)) (order : model.relocations = before ++ relocation :: later)
    (type : relocation.type = 2) :
    ∃ target, elf.programHeaders[(relocationSegments relocation).2]? = some target ∧
      (littleWord view.elf.rawData (sourceWord elf relocation) : Int) =
        (littleWord data (sourceWord elf relocation) + (target.vaddr + view.addressDelta)) % 2 ^ 32 := by
  obtain ⟨target, atIndex, _, applied⟩ := view_isolated built order (apart_of_pairwise apart order)
  rw [applyPspRelocationWord_word32 type] at applied
  have value := Except.ok.inj applied
  exact ⟨target, atIndex, by omega⟩

theorem view_jump (built : buildRelocatedLoadView data elf model loadAddress = .ok view)
    (apart : model.relocations.Pairwise (WordsApart elf)) (order : model.relocations = before ++ relocation :: later)
    (type : relocation.type ∈ [4, 14, 15]) :
    ∃ target, elf.programHeaders[(relocationSegments relocation).2]? = some target ∧
      littleWord view.elf.rawData (sourceWord elf relocation) / 2 ^ 26 =
        jumpOpcode relocation.type (littleWord data (sourceWord elf relocation)) ∧
      (littleWord view.elf.rawData (sourceWord elf relocation) : Int) % 2 ^ 26 =
        (littleWord data (sourceWord elf relocation) + (target.vaddr + view.addressDelta) / 4) % 2 ^ 26 := by
  obtain ⟨target, atIndex, _, applied⟩ := view_isolated built order (apart_of_pairwise apart order)
  obtain ⟨result, computed, opcode, field⟩ := applyPspRelocationWord_jump type (littleWord_lt ..)
  cases computed.symm.trans applied
  exact ⟨target, atIndex, opcode, field⟩

theorem view_low (built : buildRelocatedLoadView data elf model loadAddress = .ok view)
    (apart : model.relocations.Pairwise (WordsApart elf)) (order : model.relocations = before ++ relocation :: later)
    (type : relocation.type ∈ [1, 6]) :
    ∃ target, elf.programHeaders[(relocationSegments relocation).2]? = some target ∧
      (littleWord view.elf.rawData (sourceWord elf relocation) : Int) % 2 ^ 16 =
        (littleWord data (sourceWord elf relocation) + (target.vaddr + view.addressDelta)) % 2 ^ 16 := by
  obtain ⟨target, atIndex, _, applied⟩ := view_isolated built order (apart_of_pairwise apart order)
  obtain ⟨result, computed, _, half⟩ := applyPspRelocationWord_low type (littleWord_lt ..)
  cases computed.symm.trans applied
  exact ⟨target, atIndex, half⟩

/-- A patched pair composes to the original address moved by its target's base,
whatever the carry out of the low half is. -/
theorem view_pair (built : buildRelocatedLoadView data elf model loadAddress = .ok view)
    (apart : model.relocations.Pairwise (WordsApart elf)) (order : model.relocations = before ++ relocation :: later)
    (selected : selectedCompanion relocation later = some paired) :
    ∃ target, elf.programHeaders[(relocationSegments relocation).2]? = some target ∧
      composedAddress (littleWord view.elf.rawData (sourceWord elf relocation))
          (littleWord view.elf.rawData (sourceWord elf paired)) % 2 ^ 32 =
        (composedAddress (littleWord data (sourceWord elf relocation)) (littleWord data (sourceWord elf paired)) +
          (target.vaddr + view.addressDelta)) % 2 ^ 32 := by
  unfold selectedCompanion at selected
  split at selected
  · rename_i high
    obtain ⟨type, addend, _⟩ := high
    obtain ⟨isCompanion, front, back, split, _⟩ := List.find?_eq_some_iff_append.mp selected
    obtain ⟨lowType, segments⟩ : IsCompanion _ _ := by simpa using isCompanion
    have behind : model.relocations = (before ++ relocation :: front) ++ paired :: back := by
      rw [order, split, List.append_assoc, List.cons_append]
    obtain ⟨target, atIndex, _, applied⟩ := view_isolated built order (apart_of_pairwise apart order)
    obtain ⟨same, atSame, half⟩ := view_low built apart behind lowType
    rw [segments, atIndex] at atSame
    cases Option.some.inj atSame
    have low : pairedLowHalf data elf relocation later =
        some (signedHalf (littleWord data (sourceWord elf paired) % 2 ^ 16)) := by
      rw [pairedLowHalf, if_pos ⟨type, addend⟩, selected, Option.map_some]
    rw [low] at applied
    obtain ⟨result, computed, _, upper⟩ := applyPspRelocationWord_high (target.vaddr + view.addressDelta)
      type (Option.some_or ..) (littleWord_lt data (sourceWord elf relocation))
    cases computed.symm.trans applied
    refine ⟨target, atIndex, ?_⟩
    have within : littleWord data (sourceWord elf paired) % 2 ^ 16 < 0x10000 := Nat.mod_lt _ (by decide)
    have halfValue := signedHalf_emod within
    rw [composedAddress, upper, composedAddress]
    apply carriedHigh_compose (Int.emod_nonneg _ (by decide)) (Int.emod_lt_of_pos _ (by decide))
    omega
  · cases selected

end View

section Translation
variable {data : Bytes} {elf : ElfImage} {model : ExecutableModel} {loadAddress k : Int}
  {first second : RelocatedLoadView}

/-- The image base does not depend on the load address. -/
theorem addressDelta_translates (low : buildRelocatedLoadView data elf model loadAddress = .ok first)
    (high : buildRelocatedLoadView data elf model (loadAddress + 4 * k) = .ok second) :
    second.addressDelta = first.addressDelta + 4 * k := by
  obtain ⟨_, lowRun⟩ := buildRelocatedLoadView_ok low
  obtain ⟨_, highRun⟩ := buildRelocatedLoadView_ok high
  obtain ⟨lowChecked, lowDelta, _⟩ := runLoadView_ok lowRun
  obtain ⟨highChecked, highDelta, _⟩ := runLoadView_ok highRun
  obtain ⟨_, _, lowBase, _⟩ := checkedImageBase_ok.mp lowChecked
  obtain ⟨_, _, highBase, _⟩ := checkedImageBase_ok.mp highChecked
  have same := Option.some.inj (lowBase.symm.trans highBase)
  rw [highDelta, lowDelta, same]
  omega

/-- Moving an image by `4 * k` moves its 32-bit words by `4 * k` and its jump
fields by `k`, and in each view every HI16 pair stands for its original
address moved by the base of its target. -/
theorem buildRelocatedLoadView_translates (low : buildRelocatedLoadView data elf model loadAddress = .ok first)
    (high : buildRelocatedLoadView data elf model (loadAddress + 4 * k) = .ok second)
    (apart : model.relocations.Pairwise (WordsApart elf)) :
    (∀ relocation ∈ model.relocations, relocation.type = 2 →
      (littleWord second.elf.rawData (sourceWord elf relocation) : Int) =
        (littleWord first.elf.rawData (sourceWord elf relocation) + 4 * k) % 2 ^ 32) ∧
    (∀ relocation ∈ model.relocations, relocation.type ∈ [4, 14, 15] →
      (littleWord second.elf.rawData (sourceWord elf relocation) : Int) % 2 ^ 26 =
          (littleWord first.elf.rawData (sourceWord elf relocation) % 2 ^ 26 + k) % 2 ^ 26 ∧
        littleWord second.elf.rawData (sourceWord elf relocation) / 2 ^ 26 =
          littleWord first.elf.rawData (sourceWord elf relocation) / 2 ^ 26) ∧
    ∀ view ∈ [first, second], ∀ before relocation later paired,
      model.relocations = before ++ relocation :: later → selectedCompanion relocation later = some paired →
        ∃ target, elf.programHeaders[(relocationSegments relocation).2]? = some target ∧
          composedAddress (littleWord view.elf.rawData (sourceWord elf relocation))
              (littleWord view.elf.rawData (sourceWord elf paired)) % 2 ^ 32 =
            (composedAddress (littleWord data (sourceWord elf relocation)) (littleWord data (sourceWord elf paired)) +
              (target.vaddr + view.addressDelta)) % 2 ^ 32 := by
  have moved := addressDelta_translates low high
  refine ⟨?_, ?_, ?_⟩
  · intro relocation member type
    obtain ⟨before, later, order⟩ := List.append_of_mem member
    obtain ⟨target, atIndex, lowWord⟩ := view_word32 low apart order type
    obtain ⟨same, atSame, highWord⟩ := view_word32 high apart order type
    cases Option.some.inj (atIndex.symm.trans atSame)
    rw [lowWord, highWord, moved]
    omega
  · intro relocation member type
    obtain ⟨before, later, order⟩ := List.append_of_mem member
    obtain ⟨target, atIndex, lowOpcode, lowField⟩ := view_jump low apart order type
    obtain ⟨same, atSame, highOpcode, highField⟩ := view_jump high apart order type
    cases Option.some.inj (atIndex.symm.trans atSame)
    refine ⟨?_, ?_⟩
    · rw [lowField, highField, moved]
      omega
    · rw [lowOpcode, highOpcode]
  · intro view listed before relocation later paired order selected
    rcases List.mem_cons.mp listed with rfl | listed
    · exact view_pair low apart order selected
    · rw [List.mem_singleton.mp listed]
      exact view_pair high apart order selected

theorem sampleImage_translates : ∃ first second,
    buildRelocatedLoadView sampleWords sampleImage sampleModel 0x08804000 = .ok first ∧
    buildRelocatedLoadView sampleWords sampleImage sampleModel (0x08804000 + 4 * (-3)) = .ok second ∧
      (littleWord second.elf.rawData 0 : Int) = (littleWord first.elf.rawData 0 + 4 * (-3)) % 2 ^ 32 := by
  obtain ⟨first, low⟩ := exists_ok (x := buildRelocatedLoadView sampleWords sampleImage sampleModel 0x08804000)
    (by decide)
  obtain ⟨second, high⟩ := exists_ok
    (x := buildRelocatedLoadView sampleWords sampleImage sampleModel (0x08804000 + 4 * (-3))) (by decide)
  obtain ⟨words, _⟩ := buildRelocatedLoadView_translates low high (by decide)
  exact ⟨first, second, low, high, words (sampleRelocation 2 0) (by decide) rfl⟩

end Translation

end PspDisasm
