import PspDisasm.Elf32
import PspDisasm.Foundations.AddressSpans
import PspDisasm.Foundations.Dict
import Mathlib.Algebra.Order.Ring.Rat
import Mathlib.Data.List.Lex
import Mathlib.Data.List.Sort
import Mathlib.Data.Prod.Lex
import Mathlib.Data.String.Basic

namespace PspDisasm
open Foundations

namespace DataTyping

inductive DataTypeName
  | string
  | jumpTable
  | functionPointerTable
  | pointerTable
  | arrayCandidate
  | structCandidate
  | functionPointer
  | pointer
deriving DecidableEq, Repr

def DataTypeName.value : DataTypeName → String
  | .string => "string"
  | .jumpTable => "jump_table"
  | .functionPointerTable => "function_pointer_table"
  | .pointerTable => "pointer_table"
  | .arrayCandidate => "array_candidate"
  | .structCandidate => "struct_candidate"
  | .functionPointer => "function_pointer"
  | .pointer => "pointer"

/-- `_TYPE_PRECEDENCE`. -/
def DataTypeName.precedence : DataTypeName → Nat
  | .string => 1
  | .jumpTable => 2
  | .functionPointerTable => 3
  | .pointerTable => 4
  | .arrayCandidate => 5
  | .structCandidate => 6
  | .functionPointer => 7
  | .pointer => 8

def tableTypes : List DataTypeName := [.functionPointerTable, .pointerTable]
def strongRangeTypes : List DataTypeName := [.string, .jumpTable, .functionPointerTable, .pointerTable]
def leafTypes : List DataTypeName := [.pointer, .functionPointer]

structure TypedFieldRecord where
  offset : Int
  typeName : DataTypeName
  targetAddress : Option Int
  confidence : Rat
  evidence : List String
deriving DecidableEq

structure DataTypeRecord where
  address : Int
  sectionName : String
  typeName : DataTypeName
  size : Int
  targetAddress : Option Int
  count : Option Nat
  elementType : Option DataTypeName
  elementSize : Option Nat
  confidence : Rat
  evidence : List String
  fields : List TypedFieldRecord
deriving DecidableEq

/-- `_Leaf`. -/
structure Leaf where
  record : DataTypeRecord
  relocationBacked : Bool
deriving DecidableEq

structure StringRecord where
  address : Int
  value : String
  sectionName : String
deriving DecidableEq, Repr

structure JumpTableRecord where
  address : Int
  sourceFunction : String
  sourceAddress : Int
  targets : List Int
deriving DecidableEq, Repr

structure ReferenceRecord where
  targetAddress : Int
  kind : String
deriving DecidableEq, Repr

/-- What the typing reads of a disassembly; of functions and symbols it reads the addresses. -/
structure DisassemblyResult where
  functions : List Int
  symbols : List Int
  references : List ReferenceRecord
  strings : List StringRecord
  jumpTables : List JumpTableRecord
deriving DecidableEq, Repr

section Sections
variable (elf : ElfImage)

def isAllocated (sec : Section) : Bool := 0 < sec.size ∧ sec.flags &&& shfAlloc ≠ 0

def allocatedSection (address : Int) (fileBacked : Bool) : Option Section :=
  elf.sections.find? fun sec => isAllocated sec ∧ ¬(fileBacked ∧ sec.type = shtNobits) ∧
    sec.addr ≤ address ∧ address < sec.addr + sec.size

def storageSection (address : Int) : Option Section :=
  (allocatedSection elf address true).filter fun sec => sec.flags &&& shfExecinstr = 0

def sectionKey (sec : Section) : Int ×ₗ Nat ×ₗ String := toLex (sec.addr, toLex (sec.index, sec.name))

def storageSections : List Section :=
  (elf.sections.filter fun sec =>
    isAllocated sec ∧ sec.flags &&& shfExecinstr = 0 ∧ sec.type ≠ shtNobits).insertionSort fun first second =>
      sectionKey first ≤ sectionKey second

/-- The word in an aligned slot of a section. -/
def safeWord (sec : Section) (address : Int) : Option Int :=
  if address % 4 ≠ 0 then none
  else if address < sec.addr ∨ sec.addr + sec.size < address + 4 then none
  else
    let offset := sec.offset + address - sec.addr
    if offset < 0 ∨ elf.rawData.length < offset + 4 then none
    else some (wordAt .little elf.rawData offset.toNat 4)

end Sections

section Ranges

/-- `_range`. -/
def DataTypeRecord.range (record : DataTypeRecord) : Span := (record.address, record.address + max 1 record.size)

def insideRanges (address : Int) (ranges : List Span) : Bool := ranges.any fun range => range.1 ≤ address ∧ address < range.2

def overlapsRanges (start stop : Int) (ranges : List Span) : Bool := ranges.any fun range => start < range.2 ∧ range.1 < stop

end Ranges

section Relocations
variable (model : ExecutableModel) (elf : ElfImage)

def sourceText : RelocationSource → String
  | .section => "section"
  | .programHeader => "program_header"
  | .programHeaderRel2 => "program_header_rel2"

def resolvedRelocationSlot (relocation : Relocation) : Option Int :=
  let segmentRelative := model.executableKind = .prx ∨ relocation.sourceSegmentIndex.isSome ∨ relocation.source ≠ .section
  let sourceIndex := relocation.sourceSegmentIndex.getD (relocation.info / 0x100 % 0x100)
  match if segmentRelative then elf.programHeaders[sourceIndex]? else none with
  | none => some relocation.offset
  | some source =>
    if source.type ≠ 1 then some relocation.offset
    else if source.filesz < relocation.offset + 4 then none
    else
      let address := source.vaddr + relocation.offset
      if 0 ≤ address ∧ address ≤ 0xFFFFFFFF then some address else none

def relocationKey (relocation : Relocation) : Nat ×ₗ String ×ₗ String ×ₗ Nat ×ₗ String :=
  toLex (relocation.offset, toLex (sourceText relocation.source, toLex (relocation.typeName,
    toLex (relocation.type, relocation.sectionName))))

/-- The slot of a relocation, where all of it is in the file. -/
def safeRelocationSlot (relocation : Relocation) : Option Int :=
  (resolvedRelocationSlot model elf relocation).filter fun slot =>
    (allocatedSection elf slot true).isSome ∧
      (elf.vaddrToOffset slot).any fun mapped => mapped + 4 ≤ elf.rawData.length

def unmappableWarning (relocation : Relocation) : String × String × Int :=
  (sourceText relocation.source, relocation.typeName, (resolvedRelocationSlot model elf relocation).getD relocation.offset)

/-- `_safe_relocation_slots`: the slots, and a warning for each kind of relocation without one. -/
def safeRelocationSlots : List Int × List String :=
  let relocations := model.relocations.insertionSort fun first second => relocationKey first ≤ relocationKey second
  let keys := (relocations.filter fun relocation => safeRelocationSlot model elf relocation = none).map (unmappableWarning model elf)
  let unseen := keys.foldl (fun seen key => if key ∈ seen then seen else seen ++ [key]) []
  (relocations.filterMap (safeRelocationSlot model elf), unseen.map fun key =>
    s!"Skipped unmappable relocation source={key.1} type={key.2.1} offset=0x{addressDigits key.2.2}")

end Relocations

section Seeds
variable (disassembly : DisassemblyResult) (elf : ElfImage)

def stringType (string : StringRecord) : DataTypeRecord where
  address := string.address
  sectionName := string.sectionName
  typeName := .string
  size := max 1 (string.value.utf8ByteSize + 1)
  targetAddress := none
  count := none
  elementType := none
  elementSize := none
  confidence := 1
  evidence := ["existing referenced string"]
  fields := []

def jumpTableType (jump : JumpTableRecord) : DataTypeRecord where
  address := jump.address
  sectionName := ((allocatedSection elf jump.address false).map (·.name)).getD ""
  typeName := .jumpTable
  size := jump.targets.length * 4
  targetAddress := none
  count := some jump.targets.length
  elementType := some .pointer
  elementSize := some 4
  confidence := 1
  evidence := ["accepted Phase 6A jump table"]
  fields := []

def stringKey (string : StringRecord) : Int ×ₗ String ×ₗ String := toLex (string.address, toLex (string.sectionName, string.value))

def jumpTableKey (jump : JumpTableRecord) : Int ×ₗ Int ×ₗ String :=
  toLex (jump.address, toLex (jump.sourceAddress, jump.sourceFunction))

def seedExistingTypes : List DataTypeRecord :=
  (disassembly.strings.insertionSort fun first second => stringKey first ≤ stringKey second).map stringType ++
    (disassembly.jumpTables.insertionSort fun first second => jumpTableKey first ≤ jumpTableKey second).map (jumpTableType elf)

end Seeds

section Targets
variable (model : ExecutableModel) (disassembly : DisassemblyResult) (elf : ElfImage)

def functionTargets : List Int := disassembly.functions ++ model.exports.flatMap fun library => library.functions.map (·.address)

def variableAddresses : List Int := (model.imports ++ model.exports).flatMap fun library => library.variables.map (·.address)

def dataSymbolAddresses : List Int := disassembly.symbols.filter fun address => (storageSection elf address).isSome

def referenceSlotAnchors : List Int :=
  (disassembly.references.map (·.targetAddress)).filter fun address => (storageSection elf address).isSome

def structAnchors (dataSymbols tableStarts : List Int) : List Int :=
  dataSymbols ++ variableAddresses model ++ tableStarts ++
    (disassembly.references.filter fun reference => reference.kind ∈ ["data", "pointer"]).map (·.targetAddress)

end Targets

section Leaves
variable (address target : Int) (sec : Section) (relocationBacked anchorBacked identityBacked tableBacked : Bool)

def leafRecord (typeName : DataTypeName) (confidence : Rat) (evidence : List String) : DataTypeRecord where
  address := address
  sectionName := sec.name
  typeName := typeName
  size := 4
  targetAddress := some target
  count := none
  elementType := none
  elementSize := none
  confidence := confidence
  evidence := evidence
  fields := []

def tableEvidence : String := "accepted repeated pointer-table pattern"

def functionPointerLeaf : Leaf :=
  let backing : String × Rat :=
    if relocationBacked then (s!"safe relocation at 0x{addressDigits address}", 1)
    else if anchorBacked then (s!"normalized symbol/reference anchor at 0x{addressDigits address}", 19 / 20)
    else (tableEvidence, 9 / 10)
  let evidence := [s!"exact function target 0x{addressDigits target}", backing.1]
  ⟨leafRecord address target sec .functionPointer backing.2
    (evidence ++ if tableBacked ∧ tableEvidence ∉ evidence then [tableEvidence] else []), relocationBacked⟩

def dataPointerLeaf : Leaf :=
  let evidence := [s!"mapped target 0x{addressDigits target}"] ++
    (if relocationBacked then [s!"safe relocation at 0x{addressDigits address}"] else []) ++
    (if anchorBacked then [s!"normalized symbol/reference anchor at 0x{addressDigits address}"] else []) ++
    (if identityBacked then [s!"exact known data identity 0x{addressDigits target}"] else []) ++
    if tableBacked then [tableEvidence] else []
  let confidence : Rat := if relocationBacked ∧ identityBacked then 1 else if anchorBacked ∧ identityBacked then 19 / 20 else 9 / 10
  ⟨leafRecord address target sec .pointer confidence evidence, relocationBacked⟩

end Leaves

end DataTyping

end PspDisasm
