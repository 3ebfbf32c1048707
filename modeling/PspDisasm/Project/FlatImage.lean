import PspDisasm.GameProject
import PspDisasm.Foundations.AddressSpans
import Mathlib.Data.List.Sort
import Mathlib.Data.Prod.Lex

namespace PspDisasm
open Foundations

namespace Project

def maxFlatImageSize : Nat := 128 * 1024 * 1024

def isAllocated (sec : Section) : Bool := 0 < sec.size ∧ sec.flags &&& shfAlloc ≠ 0

def isFileBacked (sec : Section) : Bool := sec.type ≠ shtNobits

/-- `_allocated_sections`. -/
def allocatedSections (elf : ElfImage) : List Section :=
  (elf.sections.filter isAllocated).insertionSort fun first second =>
    toLex (first.addr, first.index) ≤ toLex (second.addr, second.index)

def sectionStop (sec : Section) : Int := sec.addr + sec.size

/-- One turn of the loop that copies the sections. -/
def placeSection (elf : ElfImage) (baseVram : Int) (image : Bytes) (sec : Section) : Except GameFailure Bytes := do
  raiseIf (elf.rawData.length < sec.offset + sec.size) (.disassembly s!"Section {sec.label} extends beyond the ELF file.")
  return splice image (sec.addr - baseVram).toNat (slice elf.rawData sec.offset sec.size)

structure FlatImage where
  baseVram : Int
  target : Bytes
  sections : List Section

/-- `_flatten_elf`. -/
def flattenElf (elf : ElfImage) : Except GameFailure FlatImage := do
  let sections := allocatedSections elf
  let fileSections := sections.filter isFileBacked
  raiseIf (fileSections = []) (.disassembly "Splat project generation requires allocated file-backed ELF sections.")
  let baseVram := (sections.map (·.addr)).min?.getD 0
  let endVram := (fileSections.map sectionStop).max?.getD 0
  let imageSize := endVram - baseVram
  raiseIf (imageSize ≤ 0 ∨ maxFlatImageSize < imageSize) (.disassembly
    s!"Refusing sparse flat image of 0x{hex imageSize} bytes; maximum is 0x{hex maxFlatImageSize}.")
  let target ← fileSections.foldlM (placeSection elf baseVram) (List.replicate imageSize.toNat 0)
  return ⟨baseVram, target, sections⟩

/-- No two of the allocated sections share an address. -/
def SectionsApart (elf : ElfImage) : Prop :=
  (elf.sections.filter isAllocated).Pairwise fun first second =>
    Span.Apart (first.addr, sectionStop first) (second.addr, sectionStop second)

def Covers (sec : Section) (address : Int) : Prop := sec.addr ≤ address ∧ address < sectionStop sec

/-- The sections whose bytes the image holds. -/
def InImage (elf : ElfImage) (sec : Section) : Prop :=
  sec ∈ elf.sections ∧ isAllocated sec = true ∧ isFileBacked sec = true

section Sections
variable {elf : ElfImage} {sec : Section}

theorem mem_allocatedSections : sec ∈ allocatedSections elf ↔ sec ∈ elf.sections ∧ isAllocated sec = true := by
  rw [allocatedSections, List.mem_insertionSort, List.mem_filter]

theorem mem_fileSections : sec ∈ (allocatedSections elf).filter isFileBacked ↔ InImage elf sec := by
  rw [List.mem_filter, mem_allocatedSections, and_assoc]
  rfl

theorem isAllocated_pos (allocated : isAllocated sec = true) : 0 < sec.size := (of_decide_eq_true allocated).1

/-- Sections that are apart and not empty follow each other in the order of their addresses. -/
theorem allocatedSections_pairwise (apart : SectionsApart elf) :
    (allocatedSections elf).Pairwise fun first second => sectionStop first ≤ second.addr := by
  have sorted := List.pairwise_insertionSort (fun first second : Section =>
    toLex (first.addr, first.index) ≤ toLex (second.addr, second.index)) (elf.sections.filter isAllocated)
  have separate : (allocatedSections elf).Pairwise fun first second =>
      Span.Apart (first.addr, sectionStop first) (second.addr, sectionStop second) :=
    (List.perm_insertionSort _ _).symm.pairwise apart fun h => h.symm
  refine (sorted.and separate).imp_of_mem fun {first second} first_mem second_mem both => ?_
  have firstSize := isAllocated_pos (mem_allocatedSections.mp first_mem).2
  have secondSize := isAllocated_pos (mem_allocatedSections.mp second_mem).2
  have order : first.addr ≤ second.addr := by
    rcases Prod.Lex.toLex_le_toLex.mp both.1 with below | ⟨same, _⟩
    · exact below.le
    · exact same.le
  rcases both.2 with behind | before
  · exact behind
  · dsimp only [sectionStop] at before ⊢
    omega

/-- The base is the lowest address of an allocated section. -/
theorem min?_addr {sections : List Section} (listed : sec ∈ sections) :
    (∀ other ∈ sections, (sections.map (·.addr)).min?.getD 0 ≤ other.addr) ∧
      ∃ lowest ∈ sections, lowest.addr = (sections.map (·.addr)).min?.getD 0 := by
  cases least : (sections.map (·.addr)).min? with
  | none =>
    rw [List.min?_eq_none_iff, List.map_eq_nil_iff] at least
    rw [least] at listed
    cases listed
  | some lowest =>
    obtain ⟨member, below⟩ := List.min?_eq_some_iff.mp least
    exact ⟨fun other member => below _ (List.mem_map_of_mem member), List.mem_map.mp member⟩

theorem le_max?_stop {sections : List Section} (listed : sec ∈ sections) :
    sectionStop sec ≤ (sections.map sectionStop).max?.getD 0 := by
  cases most : (sections.map sectionStop).max? with
  | none =>
    rw [List.max?_eq_none_iff, List.map_eq_nil_iff] at most
    rw [most] at listed
    cases listed
  | some highest => exact (List.max?_eq_some_iff.mp most).2 _ (List.mem_map_of_mem listed)

end Sections

section Image
variable {elf : ElfImage} {baseVram : Int} {sec : Section} {sections : List Section} {image target : Bytes} {flat : FlatImage}

/-- The copy of a section into the image. -/
def sectionWrite (elf : ElfImage) (baseVram : Int) (sec : Section) : Write :=
  ⟨(sec.addr - baseVram).toNat, slice elf.rawData sec.offset sec.size⟩

theorem foldlM_placeSection (ran : sections.foldlM (placeSection elf baseVram) image = .ok target) :
    target = writeAll (sections.map (sectionWrite elf baseVram)) image ∧
      ∀ sec ∈ sections, sec.offset + sec.size ≤ elf.rawData.length := by
  induction sections generalizing image with
  | nil =>
    cases ran
    exact ⟨rfl, List.forall_mem_nil _⟩
  | cons sec sections ih =>
    obtain ⟨placed, first, rest⟩ := bind_ok.mp ran
    obtain ⟨_, stored, built⟩ := bind_ok.mp first
    cases built
    obtain ⟨same, all⟩ := ih rest
    exact ⟨same, List.forall_mem_cons.mpr ⟨Nat.not_lt.mp (raiseIf_ok.mp stored), all⟩⟩

/-- What a flat image is made of. -/
structure Flattened (elf : ElfImage) (flat : FlatImage) : Prop where
  sections : flat.sections = allocatedSections elf
  nonempty : ∃ sec, InImage elf sec
  base : flat.baseVram = ((allocatedSections elf).map (·.addr)).min?.getD 0
  target : flat.target = writeAll (((allocatedSections elf).filter isFileBacked).map (sectionWrite elf flat.baseVram))
    (List.replicate flat.target.length 0)
  length : flat.target.length = (((allocatedSections elf).filter isFileBacked).map sectionStop).max?.getD 0 - flat.baseVram
  stored : ∀ sec, InImage elf sec → sec.offset + sec.size ≤ elf.rawData.length

theorem sectionWrite_stop (lower : baseVram ≤ sec.addr) (stored : sec.offset + sec.size ≤ elf.rawData.length) :
    ((sectionWrite elf baseVram sec).stop : Int) = sectionStop sec - baseVram := by
  have length : (slice elf.rawData sec.offset sec.size).length = sec.size := slice_length stored
  dsimp only [Write.stop, sectionWrite, sectionStop]
  omega

theorem flattenElf_flattened (ran : flattenElf elf = .ok flat) : Flattened elf flat := by
  obtain ⟨_, some, ran⟩ := bind_ok.mp ran
  obtain ⟨_, bounded, ran⟩ := bind_ok.mp ran
  obtain ⟨target, placed, built⟩ := bind_ok.mp ran
  cases built
  obtain ⟨written, stored⟩ := foldlM_placeSection placed
  obtain ⟨sec, listed⟩ := List.exists_mem_of_ne_nil _ (raiseIf_ok.mp some)
  have positive := Int.not_le.mp (not_or.mp (raiseIf_ok.mp bounded)).1
  generalize size : (((allocatedSections elf).filter isFileBacked).map sectionStop).max?.getD 0 -
    ((allocatedSections elf).map (·.addr)).min?.getD 0 = imageSize at positive written
  have fits : ∀ w ∈ ((allocatedSections elf).filter isFileBacked).map
      (sectionWrite elf (((allocatedSections elf).map (·.addr)).min?.getD 0)), w.stop ≤ (List.replicate imageSize.toNat (0 : UInt8)).length := by
    intro w member
    obtain ⟨sec, listed, rfl⟩ := List.mem_map.mp member
    have lower := (min?_addr (List.mem_filter.mp listed).1).1 sec (List.mem_filter.mp listed).1
    have upper := le_max?_stop listed
    have stop := sectionWrite_stop lower (stored sec listed)
    rw [List.length_replicate]
    omega
  have length := writeAll_length fits
  rw [← written, List.length_replicate] at length
  refine ⟨rfl, ⟨sec, mem_fileSections.mp listed⟩, rfl, ?_, ?_, fun sec image => stored sec (mem_fileSections.mpr image)⟩
  · rw [length]
    exact written
  · dsimp only
    rw [length, ← size] at *
    omega

theorem Flattened.le_addr (flattened : Flattened elf flat) (listed : sec ∈ allocatedSections elf) : flat.baseVram ≤ sec.addr := by
  rw [flattened.base]
  exact (min?_addr listed).1 sec listed

theorem Flattened.fits (flattened : Flattened elf flat) :
    ∀ w ∈ ((allocatedSections elf).filter isFileBacked).map (sectionWrite elf flat.baseVram), w.stop ≤ flat.target.length := by
  intro w member
  obtain ⟨sec, listed, rfl⟩ := List.mem_map.mp member
  have lower := flattened.le_addr (List.mem_filter.mp listed).1
  have upper := le_max?_stop listed
  have stop := sectionWrite_stop lower (flattened.stored sec (mem_fileSections.mp listed))
  have length := flattened.length
  omega

/-- The byte of a section that the image has at an address of the section. -/
theorem Flattened.byte_of_section (flattened : Flattened elf flat) (apart : SectionsApart elf) (image : InImage elf sec) {i : Nat}
    (covers : Covers sec (flat.baseVram + i)) :
    flat.target[i]? = elf.rawData[sec.offset + (flat.baseVram + i - sec.addr).toNat]? := by
  have listed := mem_fileSections.mpr image
  have lower := flattened.le_addr (List.mem_filter.mp listed).1
  have stored := flattened.stored sec image
  obtain ⟨before, after, split⟩ := List.append_of_mem listed
  have ordered := (allocatedSections_pairwise apart).filter isFileBacked
  have fits := flattened.fits
  have target := flattened.target
  rw [split] at ordered
  rw [split, List.map_append, List.map_cons] at fits target
  have later : ∀ other ∈ after.map (sectionWrite elf flat.baseVram), (sectionWrite elf flat.baseVram sec).Apart other := by
    intro w member
    obtain ⟨other, rest, rfl⟩ := List.mem_map.mp member
    have behind := (List.pairwise_cons.mp (List.pairwise_append.mp ordered).2.1).1 other rest
    have stop := sectionWrite_stop lower stored
    refine Or.inl ?_
    dsimp only [sectionWrite] at stop ⊢
    omega
  have length : (slice elf.rawData sec.offset sec.size).length = sec.size := slice_length stored
  have zeros : flat.target.length = (List.replicate flat.target.length (0 : UInt8)).length := List.length_replicate.symm
  have held := writeAll_isolated (fun w member => (fits w member).trans_eq zeros) later
  rw [← target] at held
  have start : (sectionWrite elf flat.baseVram sec).start = (sec.addr - flat.baseVram).toNat := rfl
  obtain ⟨above, below⟩ := covers
  dsimp only [sectionStop] at below
  have place : i = (sec.addr - flat.baseVram).toNat + (flat.baseVram + i - sec.addr).toNat := by omega
  have inside : (flat.baseVram + i - sec.addr).toNat < sec.size := by omega
  have byte := congrArg (·[(flat.baseVram + i - sec.addr).toNat]?) held
  dsimp only [sectionWrite] at byte
  rw [length, getElem?_slice inside, getElem?_slice inside, ← place] at byte
  exact byte

/-- Elsewhere the image has zeros. -/
theorem Flattened.byte_of_gap (flattened : Flattened elf flat) {i : Nat} (below : i < flat.target.length)
    (gap : ∀ sec, InImage elf sec → ¬Covers sec (flat.baseVram + i)) : flat.target[i]? = some 0 := by
  have fits := flattened.fits
  have zeros : flat.target.length = (List.replicate flat.target.length (0 : UInt8)).length := List.length_replicate.symm
  rw [flattened.target, writeAll_outside (fun w member => (fits w member).trans_eq zeros) ?_,
    List.getElem?_replicate_of_lt below]
  intro w member covered
  obtain ⟨sec, listed, rfl⟩ := List.mem_map.mp member
  have image := mem_fileSections.mp listed
  have lower := flattened.le_addr (List.mem_filter.mp listed).1
  have stop := sectionWrite_stop lower (flattened.stored sec image)
  obtain ⟨above, upper⟩ := covered
  have start : (sectionWrite elf flat.baseVram sec).start = (sec.addr - flat.baseVram).toNat := rfl
  exact gap sec image ⟨by omega, by omega⟩

end Image

end Project

end PspDisasm
