import PspDisasm.Foundations.Raising
import PspDisasm.PythonText

namespace PspDisasm
open Foundations

/-- What a modelled function can raise. `ParseError` is the documented failure;
the other classes are the ones Python itself raises for a bad key or buffer. -/
inductive Failure
  | parseError (message : String)
  | structError
  | indexError
  | keyError (key : String)
  | overflowError
deriving DecidableEq, Repr

def Failure.isParseError : Failure → Bool
  | .parseError _ => true
  | _ => false

structure PspContainerHeader where
  moduleAttribute : Nat
  compressionAttribute : Nat
  moduleVersion : Nat × Nat
  moduleName : String
  moduleVersionByte : Nat
  segmentCount : Nat
  elfSize : Nat
  pspSize : Nat
  bootEntry : Nat
  moduleInfoOffset : Int
  bssSize : Nat
  segmentAlignments : List Nat
  segmentAddresses : List Nat
  segmentSizes : List Nat
  devkitVersion : Nat
  decryptMode : Nat
  overlapSize : Nat
  compressedSize : Nat
  subtype : Nat
deriving DecidableEq, Repr

structure ElfHeader where
  fileType : Nat
  machine : Nat
  version : Nat
  entry : Int
  phoff : Nat
  shoff : Nat
  flags : Nat
  ehsize : Nat
  phentsize : Nat
  phnum : Nat
  shentsize : Nat
  shnum : Nat
  shstrndx : Nat
deriving DecidableEq, Repr

/-- The fields read from the file are unsigned words. Addresses are integers,
because a relocated view shifts them by a signed delta. -/
structure ProgramHeader where
  index : Nat
  type : Nat
  offset : Nat
  vaddr : Int
  paddr : Int
  filesz : Nat
  memsz : Nat
  flags : Nat
  align : Nat
deriving DecidableEq, Repr

inductive SectionKind
  | bss
  | executable
  | writable
  | readonly
  | metadata
deriving DecidableEq, Repr

structure Section where
  index : Nat
  name : String
  type : Nat
  flags : Nat
  addr : Int
  offset : Nat
  size : Nat
  link : Nat
  info : Nat
  addralign : Nat
  entsize : Nat
  kind : SectionKind
deriving DecidableEq, Repr

/-- `section.name or section.index` in a text. -/
def Section.label (sec : Section) : String := if sec.name = "" then toString sec.index else sec.name

def Numbered (programHeaders : List ProgramHeader) : Prop :=
  ∀ (i : Nat) (ph : ProgramHeader), programHeaders[i]? = some ph → ph.index = i

theorem Numbered.of_indices {programHeaders : List ProgramHeader}
    (indices : programHeaders.map (·.index) = List.range programHeaders.length) : Numbered programHeaders := by
  intro i ph found
  have inside := (List.getElem?_eq_some_iff.mp found).1
  have named : (programHeaders.map (·.index))[i]? = some ph.index := by rw [List.getElem?_map, found]; rfl
  rw [indices, List.getElem?_range inside] at named
  exact (Option.some.inj named).symm

theorem Numbered.nil : Numbered [] := .of_indices rfl

/-- A parsed ELF. Every program header carries its own position in the table,
which is how the parser numbers them. -/
structure ElfImage where
  header : ElfHeader
  endianness : Endianness
  programHeaders : List ProgramHeader
  sections : List Section
  rawData : Bytes
  numbered : Numbered programHeaders
deriving DecidableEq

def ProgramHeader.vaddrToOffset (ph : ProgramHeader) (address : Int) : Option Nat :=
  if ph.type ≠ 1 then none
  else if ph.vaddr ≤ address ∧ address < ph.vaddr + ph.filesz then
    some (ph.offset + (address - ph.vaddr).toNat)
  else none

def Section.vaddrToOffset (sec : Section) (address : Int) : Option Nat :=
  if sec.type = 8 then none
  else if sec.addr ≤ address ∧ address < sec.addr + sec.size then
    some (sec.offset + (address - sec.addr).toNat)
  else none

/-- The first loaded segment, then the first section, whose file bytes hold the address. -/
def ElfImage.vaddrToOffset (elf : ElfImage) (address : Int) : Option Nat :=
  (elf.programHeaders.findSome? (·.vaddrToOffset address)).or
    (elf.sections.findSome? (·.vaddrToOffset address))

inductive ModuleInfoLocation
  | section
  | programHeaderFallback
deriving DecidableEq, Repr

structure ModuleInfo where
  attributes : Nat
  version : Nat × Nat
  name : String
  gpValue : Int
  exportsStart : Int
  exportsEnd : Int
  importsStart : Int
  importsEnd : Int
  address : Int
  location : ModuleInfoLocation
deriving DecidableEq, Repr

inductive NidKind
  | function
  | variable
deriving DecidableEq, Repr

structure NidEntry where
  nid : Nat
  address : Int
  kind : NidKind
  nidAddress : Int
deriving DecidableEq, Repr

/-- The common shape of `LibraryImport` and `LibraryExport`. -/
structure Library where
  name : String
  flags : Nat
  entryLength : Nat
  functionCount : Nat
  variableCount : Nat
  address : Int
  functions : List NidEntry
  «variables» : List NidEntry
deriving DecidableEq, Repr

abbrev LibraryImport := Library

abbrev LibraryExport := Library

inductive RelocationSource
  | section
  | programHeader
  | programHeaderRel2
deriving DecidableEq, Repr

structure Relocation where
  sectionName : String
  offset : Nat
  info : Nat
  type : Nat
  typeName : String
  symbolIndex : Nat
  targetSectionIndex : Option Nat
  source : RelocationSource
  sourceSegmentIndex : Option Nat
  targetSegmentIndex : Option Nat
  streamOffset : Option Nat
  addend : Option Int
  encodingFlags : Option Nat
deriving DecidableEq, Repr

structure PrxAnalysis where
  moduleInfo : Option ModuleInfo
  imports : List LibraryImport
  exports : List LibraryExport
  relocations : List Relocation
  warnings : List String
deriving DecidableEq, Repr

inductive InputKind
  | elf32
  | pspContainer
deriving DecidableEq, Repr

inductive ExecutableKind
  | encryptedPspContainer
  | prx
  | elf
deriving DecidableEq, Repr

structure ExecutableModel where
  sourceName : String
  inputKind : InputKind
  executableKind : ExecutableKind
  needsDecryption : Bool
  endianness : Option Endianness
  elfHeader : Option ElfHeader
  programHeaders : List ProgramHeader
  sections : List Section
  containerHeader : Option PspContainerHeader
  moduleInfo : Option ModuleInfo
  imports : List LibraryImport
  exports : List LibraryExport
  relocations : List Relocation
  warnings : List String
deriving DecidableEq, Repr

end PspDisasm
