import PspDisasm.LoadView

namespace PspDisasm
open Foundations

/-- An address of the 32-bit space. -/
def IsU32 (address : Int) : Prop := 0 ≤ address ∧ address < 2 ^ 32

instance (address : Int) : Decidable (IsU32 address) := inferInstanceAs (Decidable (_ ∧ _))

theorem requireU32Address_ok {value : Int} {what : String} {done : Unit} :
    requireU32Address value what = .ok done ↔ IsU32 value := by
  rw [requireU32Address, raiseIf_ok, IsU32, uint32Max]
  omega

theorem requireU32Range_ok {start : Int} {size : Nat} {what : String} {done : Unit} :
    requireU32Range start size what = .ok done ↔ IsU32 start ∧ start + size ≤ 2 ^ 32 := by
  simp only [requireU32Range, bind_ok, requireU32Address_ok, raiseIf_ok, exists_const, Int.not_lt]
  rfl

theorem mem_loadedSegments {elf : ElfImage} {segment : ProgramHeader} :
    segment ∈ loadedSegments elf ↔ segment ∈ elf.programHeaders ∧ segment.type = ptLoad ∧ 0 < segment.memsz := by
  simp only [loadedSegments, List.mem_filter, decide_eq_true_eq]

/-- What the validation of a shifted layout checks: non-empty segments and allocated sections, nothing else. -/
structure LayoutFits (elf : ElfImage) (delta : Int) : Prop where
  segments : ∀ segment ∈ loadedSegments elf, IsU32 (segment.vaddr + delta) ∧
    segment.vaddr + delta + segment.memsz ≤ 2 ^ 32 ∧ IsU32 (segment.paddr + delta)
  sections : ∀ sec ∈ elf.sections, sec.IsAllocated →
    IsU32 (sec.addr + delta) ∧ sec.addr + delta + sec.size ≤ 2 ^ 32

theorem validateSegment_ok {delta : Int} {segment : ProgramHeader} :
    validateSegment delta segment = .ok ⟨⟩ ↔ IsU32 (segment.vaddr + delta) ∧
      segment.vaddr + delta + segment.memsz ≤ 2 ^ 32 ∧ IsU32 (segment.paddr + delta) := by
  simp only [validateSegment, bind_ok, requireU32Range_ok, requireU32Address_ok, and_assoc, exists_const]

theorem validateSection_ok {delta : Int} {sec : Section} :
    validateSection delta sec = .ok ⟨⟩ ↔ (sec.IsAllocated →
      IsU32 (sec.addr + delta) ∧ sec.addr + delta + sec.size ≤ 2 ^ 32) := by
  unfold validateSection
  split
  · rename_i allocated
    rw [requireU32Range_ok]
    simp only [allocated, true_implies]
  · rename_i other
    simp only [other, false_implies]

theorem validateRebasedLayout_ok {elf : ElfImage} {delta : Int} {done : Unit} :
    validateRebasedLayout elf delta = .ok done ↔ LayoutFits elf delta := by
  simp only [validateRebasedLayout, bind_ok]
  constructor
  · rintro ⟨_, segments, sections⟩
    exact ⟨fun segment member => validateSegment_ok.mp (forM_ok.mp segments segment member),
      fun sec member => validateSection_ok.mp (forM_ok.mp sections sec member)⟩
  · rintro ⟨segments, sections⟩
    exact ⟨(), forM_ok.mpr fun segment member => validateSegment_ok.mpr (segments segment member),
      forM_ok.mpr fun sec member => validateSection_ok.mpr (sections sec member)⟩

/-- The lowest address of a non-empty loaded segment. -/
def imageBase (elf : ElfImage) : Option Int := ((loadedSegments elf).map (·.vaddr)).min?

/-- The layout checks pass exactly for a little-endian image that fits the
32-bit space when it starts at the load address. -/
theorem checkedImageBase_ok {elf : ElfImage} {loadAddress base : Int} :
    checkedImageBase elf loadAddress = .ok base ↔
      elf.endianness = .little ∧ IsU32 loadAddress ∧ imageBase elf = some base ∧
        (-2 ^ 32 < loadAddress - base ∧ loadAddress - base < 2 ^ 32) ∧ LayoutFits elf (loadAddress - base) := by
  unfold checkedImageBase imageBase
  simp only [bind_ok, raiseIf_ok, not_not, exists_const]
  have addresses : ¬(loadAddress < 0 ∨ uint32Max < loadAddress) ↔ IsU32 loadAddress := by
    rw [IsU32, uint32Max]
    omega
  rw [addresses]
  constructor
  · rintro ⟨little, address, rest⟩
    split at rest
    · cases rest
    · rename_i lowest found
      simp only [bind_ok, raiseIf_ok, validateRebasedLayout_ok, not_not, exists_const] at rest
      obtain ⟨range, fits, same⟩ := rest
      cases same
      exact ⟨little, address, found, range, fits⟩
  · rintro ⟨little, address, found, range, fits⟩
    refine ⟨little, address, ?_⟩
    rw [found]
    simp only [bind_ok, raiseIf_ok, validateRebasedLayout_ok, not_not, exists_const]
    exact ⟨range, fits, rfl⟩

end PspDisasm
