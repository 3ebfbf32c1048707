import PspDisasm.Elf32
import PspDisasm.Prxreloc2

namespace PspDisasm
open Foundations

def uint32Max : Nat := 0xFFFFFFFF
def uint32Limit : Nat := 1 <<< 32

structure RelocatedLoadView where
  loadAddress : Int
  originalImageBase : Int
  addressDelta : Int
  segmentBases : List (Nat × Int)
  appliedRelocations : Nat
  elf : ElfImage
  model : ExecutableModel
deriving DecidableEq

def loadedSegments (elf : ElfImage) : List ProgramHeader :=
  elf.programHeaders.filter fun segment => segment.type = ptLoad ∧ 0 < segment.memsz

/-- `int.from_bytes(data[offset : offset + 4], "little")`. -/
def littleWord (data : Bytes) (offset : Nat) : Nat := littleValue (slice data offset 4)

/-- The index that the record names itself, or else the byte of `info` at this shift. -/
def segmentIndex (relocation : Relocation) (shift : Nat) (explicit : Option Nat) : Nat :=
  explicit.getD ((relocation.info >>> shift) &&& 0xFF)

def relocationSegments (relocation : Relocation) : Nat × Nat :=
  (segmentIndex relocation 8 relocation.sourceSegmentIndex,
    segmentIndex relocation 16 relocation.targetSegmentIndex)

def segment : ElfImage → Nat → String → Except Failure ProgramHeader :=
  selectSegment "Relocation"

def sourceFileOffset (elf : ElfImage) (relocation : Relocation) : Except Failure (Nat × Nat) := do
  let sourceIndex := (relocationSegments relocation).1
  let source ← segment elf sourceIndex "source"
  raiseIf (source.filesz < relocation.offset + 4) (.parseError
    s!"Relocation source offset 0x{hex relocation.offset} is not a complete file-backed word inside PT_LOAD segment {sourceIndex}")
  return (sourceIndex, source.offset + relocation.offset)

/-- The low half of the first later record that a HI16 record is paired with. -/
def companionLowHalf (data : Bytes) (elf : ElfImage) (segments : Nat × Nat) :
    List Relocation → Except Failure (Option Int)
  | [] => .ok none
  | candidate :: later =>
    if candidate.type = 5 then companionLowHalf data elf segments later
    else if candidate.type ∉ [1, 6] then companionLowHalf data elf segments later
    else if relocationSegments candidate ≠ segments then companionLowHalf data elf segments later
    else do
      let (_, fileOffset) ← sourceFileOffset elf candidate
      raiseIf (data.length < fileOffset + 4)
        (.parseError "Type-A HI16 companion word extends beyond the input")
      return some (signedHalf (littleWord data fileOffset &&& 0xFFFF))

def typeAHi16LowHalf (data : Bytes) (elf : ElfImage) (relocation : Relocation) (later : List Relocation) :
    Except Failure (Option Int) :=
  if relocation.type ≠ 5 ∨ relocation.source = .programHeaderRel2 then .ok none
  else companionLowHalf data elf (relocationSegments relocation) later

def containsAddress (segment : ProgramHeader) (address : Int) : Prop :=
  segment.vaddr ≤ address ∧ address < segment.vaddr + segment.memsz

def containsRangeEnd (segment : ProgramHeader) (address : Int) : Prop :=
  segment.vaddr ≤ address ∧ address ≤ segment.vaddr + segment.memsz

instance (segment : ProgramHeader) (address : Int) : Decidable (containsAddress segment address) :=
  inferInstanceAs (Decidable (_ ∧ _))

instance (segment : ProgramHeader) (address : Int) : Decidable (containsRangeEnd segment address) :=
  inferInstanceAs (Decidable (_ ∧ _))

def requireU32Address (value : Int) (what : String) : Except Failure Unit :=
  raiseIf (value < 0 ∨ uint32Max < value) (.parseError s!"{what} falls outside the 32-bit address space")

def requireU32Range (start : Int) (size : Nat) (what : String) : Except Failure Unit := do
  requireU32Address start what
  raiseIf (uint32Limit < start + size) (.parseError s!"{what} extends outside the 32-bit address space")

/-- The sections that occupy memory, and so move with the image. -/
def Section.IsAllocated (sec : Section) : Prop := sec.flags &&& shfAlloc ≠ 0 ∧ 0 < sec.size

instance (sec : Section) : Decidable sec.IsAllocated := inferInstanceAs (Decidable (_ ∧ _))

def validateSegment (delta : Int) (segment : ProgramHeader) : Except Failure Unit := do
  requireU32Range (segment.vaddr + delta) segment.memsz s!"PT_LOAD segment {segment.index}"
  requireU32Address (segment.paddr + delta) s!"PT_LOAD segment {segment.index} physical address"

def validateSection (delta : Int) (sec : Section) : Except Failure Unit :=
  if sec.IsAllocated then
    requireU32Range (sec.addr + delta) sec.size
      s!"Allocated section {sec.label}"
  else .ok ()

def validateRebasedLayout (elf : ElfImage) (delta : Int) : Except Failure Unit := do
  (loadedSegments elf).forM (validateSegment delta)
  elf.sections.forM (validateSection delta)

/-- An address that some loaded segment contains moves with the image. -/
def rebaseWhere (contains : ProgramHeader → Int → Prop) [∀ segment address, Decidable (contains segment address)]
    (what : String) (elf : ElfImage) (address delta : Int) : Except Failure Int :=
  if ∃ segment ∈ loadedSegments elf, contains segment address then do
    requireU32Address (address + delta) what
    return address + delta
  else .ok address

def rebaseLoadedAddress : ElfImage → Int → Int → Except Failure Int :=
  rebaseWhere containsAddress "Rebased loaded address"

def rebaseNonzeroLoadedAddress (elf : ElfImage) (address delta : Int) : Except Failure Int :=
  if address = 0 then .ok 0 else rebaseLoadedAddress elf address delta

def rebaseNonzeroLoadedRangeEnd (elf : ElfImage) (address delta : Int) : Except Failure Int :=
  if address = 0 then .ok 0 else rebaseWhere containsRangeEnd "Rebased loaded range end" elf address delta

/-- An empty loaded segment moves too. -/
def rebaseProgramHeader (delta : Int) (ph : ProgramHeader) : ProgramHeader :=
  if ph.type = ptLoad then { ph with vaddr := ph.vaddr + delta, paddr := ph.paddr + delta } else ph

theorem rebaseProgramHeader_index (delta : Int) (ph : ProgramHeader) :
    (rebaseProgramHeader delta ph).index = ph.index := by
  unfold rebaseProgramHeader
  split <;> rfl

def rebaseSection (delta : Int) (sec : Section) : Section :=
  if sec.IsAllocated then { sec with addr := sec.addr + delta } else sec

def rebaseEntry (elf : ElfImage) (delta : Int) : Int :=
  if ∃ segment ∈ loadedSegments elf, containsAddress segment elf.header.entry then elf.header.entry + delta
  else elf.header.entry

def rebaseElf (elf : ElfImage) (data : Bytes) (delta : Int) : ElfImage where
  header := { elf.header with entry := rebaseEntry elf delta }
  endianness := elf.endianness
  programHeaders := elf.programHeaders.map (rebaseProgramHeader delta)
  sections := elf.sections.map (rebaseSection delta)
  rawData := data
  numbered := by
    intro i ph found
    rw [List.getElem?_map] at found
    obtain ⟨original, atIndex, rfl⟩ := Option.map_eq_some_iff.mp found
    rw [rebaseProgramHeader_index, elf.numbered i original atIndex]

def rebaseNidEntry (elf : ElfImage) (delta : Int) (entry : NidEntry) : Except Failure NidEntry := do
  let address ← rebaseNonzeroLoadedAddress elf entry.address delta
  let nidAddress ← rebaseNonzeroLoadedAddress elf entry.nidAddress delta
  return { entry with address, nidAddress }

def rebaseLibrary (elf : ElfImage) (delta : Int) (library : Library) : Except Failure Library := do
  let address ← rebaseLoadedAddress elf library.address delta
  let functions ← library.functions.mapM (rebaseNidEntry elf delta)
  let variables' ← library.variables.mapM (rebaseNidEntry elf delta)
  return { library with address, functions, «variables» := variables' }

def rebaseModuleInfo (elf : ElfImage) (delta : Int) (info : ModuleInfo) : Except Failure ModuleInfo := do
  let gpValue ← rebaseNonzeroLoadedAddress elf info.gpValue delta
  let exportsStart ← rebaseNonzeroLoadedAddress elf info.exportsStart delta
  let exportsEnd ← rebaseNonzeroLoadedRangeEnd elf info.exportsEnd delta
  let importsStart ← rebaseNonzeroLoadedAddress elf info.importsStart delta
  let importsEnd ← rebaseNonzeroLoadedRangeEnd elf info.importsEnd delta
  let address ← rebaseLoadedAddress elf info.address delta
  return { info with gpValue, exportsStart, exportsEnd, importsStart, importsEnd, address }

def rebaseModel (model : ExecutableModel) (originalElf relocatedElf : ElfImage) (delta : Int) :
    Except Failure ExecutableModel := do
  let moduleInfo ← model.moduleInfo.mapM (rebaseModuleInfo originalElf delta)
  let imports ← model.imports.mapM (rebaseLibrary originalElf delta)
  let exports ← model.exports.mapM (rebaseLibrary originalElf delta)
  return { model with
    elfHeader := some relocatedElf.header, programHeaders := relocatedElf.programHeaders,
    sections := relocatedElf.sections, moduleInfo, imports, exports }

def segmentBases (elf : ElfImage) (delta : Int) : List (Nat × Int) :=
  (loadedSegments elf).map fun segment => (segment.index, segment.vaddr + delta)

def segmentBase (bases : List (Nat × Int)) (index : Nat) : Except Failure Int :=
  match bases.lookup index with
  | none => .error (.keyError (toString index))
  | some base => .ok base

/-- `value.to_bytes(4, "little")`. -/
def toBytes (value : Nat) : Except Failure Bytes := do
  raiseIf (uint32Limit ≤ value) .overflowError
  return littleBytes 4 value

/-- What a build works on: the caller's objects, and its own copy of the bytes. -/
structure BuildState where
  data : Bytes
  elf : ElfImage
  model : ExecutableModel
  patched : Bytes
  applied : Nat

/-- The `lo16` argument: only a HI16 record without an addend of its own is given one. -/
def lo16Argument (data : Bytes) (elf : ElfImage) (relocation : Relocation) (later : List Relocation) :
    Except Failure (Option Int) :=
  if relocation.type = 5 ∧ relocation.addend = none then typeAHi16LowHalf data elf relocation later else .ok none

/-- One turn of the loop over the relocations. `later` are the records after this one. -/
def relocateWord (bases : List (Nat × Int)) (relocation : Relocation) (later : List Relocation) (s : BuildState) :
    Except Failure BuildState := do
  let targetIndex := (relocationSegments relocation).2
  let _ ← segment s.elf targetIndex "target"
  let (_, fileOffset) ← sourceFileOffset s.elf relocation
  raiseIf (s.patched.length < fileOffset + 4) (.parseError "Relocation source word extends beyond the input")
  let word := littleWord s.patched fileOffset
  let lo16 ← lo16Argument s.data s.elf relocation later
  let base ← segmentBase bases targetIndex
  let relocated ← applyPspRelocationWord word relocation base lo16
  let bytes ← toBytes relocated
  return { s with patched := splice s.patched fileOffset bytes, applied := s.applied + 1 }

def relocateWords (bases : List (Nat × Int)) : List Relocation → BuildState → Except Failure BuildState
  | [], s => .ok s
  | relocation :: later, s => do
    let s ← relocateWord bases relocation later s
    relocateWords bases later s

/-- The checks made before the first word is touched. They give the image base. -/
def checkedImageBase (elf : ElfImage) (loadAddress : Int) : Except Failure Int := do
  raiseIf (elf.endianness ≠ .little) (.parseError "Relocated PSP load views require a little-endian ELF")
  raiseIf (loadAddress < 0 ∨ uint32Max < loadAddress)
    (.parseError "PSP load address must fit in an unsigned 32-bit address")
  match ((loadedSegments elf).map (·.vaddr)).min? with
  | none => .error (.parseError "Relocated PSP load view requires at least one PT_LOAD segment")
  | some originalImageBase =>
    let delta := loadAddress - originalImageBase
    raiseIf (¬(-(uint32Limit : Int) < delta ∧ delta < uint32Limit))
      (.parseError "PSP relocation delta is outside the supported 32-bit range")
    validateRebasedLayout elf delta
    return originalImageBase

/-- The view, and the objects as the build leaves them. -/
def runLoadView (data : Bytes) (elf : ElfImage) (model : ExecutableModel) (loadAddress : Int) :
    Except Failure (RelocatedLoadView × BuildState) := do
  let originalImageBase ← checkedImageBase elf loadAddress
  let delta := loadAddress - originalImageBase
  let bases := segmentBases elf delta
  let final ← relocateWords bases model.relocations ⟨data, elf, model, data, 0⟩
  let relocatedElf := rebaseElf final.elf final.patched delta
  let relocatedModel ← rebaseModel final.model final.elf relocatedElf delta
  let view := {
    loadAddress, originalImageBase, addressDelta := delta, segmentBases := bases,
    appliedRelocations := final.applied, elf := relocatedElf, model := relocatedModel }
  return (view, final)

def buildRelocatedLoadView (data : Bytes) (elf : ElfImage) (model : ExecutableModel) (loadAddress : Int) :
    Except Failure RelocatedLoadView :=
  Prod.fst <$> runLoadView data elf model loadAddress

end PspDisasm
