import PspDisasm.Elf32
import PspDisasm.Prxreloc2

namespace PspDisasm
open Foundations

def etScePsprelexec : Nat := 0xFFA0
def shtRel : Nat := 9
def shtPrxreloc : Nat := 0x700000A0
def ptPrxreloc : Nat := 0x700000A0
def moduleInfoSection : String := ".rodata.sceModuleInfo"
def moduleInfoSize : Nat := 0x34

def relocNames : List (Nat × String) :=
  [(0, "R_MIPS_NONE"), (1, "R_MIPS_16"), (2, "R_MIPS_32"), (3, "R_MIPS_REL32"), (4, "R_MIPS_26"),
    (5, "R_MIPS_HI16"), (6, "R_MIPS_LO16"), (7, "R_MIPS_GPREL16"), (8, "R_MIPS_LITERAL"), (9, "R_MIPS_GOT16"),
    (10, "R_MIPS_PC16"), (11, "R_MIPS_CALL16"), (12, "R_MIPS_GPREL32"), (13, "R_MIPS_X_HI16"),
    (14, "R_MIPS_X_J26"), (15, "R_MIPS_X_JAL26")]

/-- `except ParseError`: the message of a parse error, while other exceptions go on. -/
def catchParseError {α : Type} : Except Failure α → Except Failure (Except String α)
  | .ok a => .ok (.ok a)
  | .error (.parseError message) => .ok (.error message)
  | .error failure => .error failure

def readAtVaddr (data : Bytes) (elf : ElfImage) (address : Int) (size : Nat) (what : String) : Except Failure Bytes :=
  match elf.vaddrToOffset address with
  | none => .error (.parseError s!"Invalid virtual address for {what}: 0x{hex address}")
  | some offset =>
    if data.length < offset ∨ data.length - offset < size then
      .error (.parseError s!"Invalid virtual address for {what}: 0x{hex address}")
    else .ok (slice data offset size)

def u32AtVaddr (data : Bytes) (elf : ElfImage) (address : Int) (what : String) : Except Failure Nat := do
  let raw ← readAtVaddr data elf address 4 what
  requireExact raw 4
  return elf.endianness.value raw

/-- The text up to the first NUL, of at most 128 bytes. -/
def cstringAtVaddr (data : Bytes) (elf : ElfImage) (address : Int) (what : String) : Except Failure String :=
  match elf.vaddrToOffset address with
  | none => .error (.parseError s!"Invalid virtual address for {what}: 0x{hex address}")
  | some offset => .ok (decodeAscii (untilNul (slice data offset 128)))

def parseModuleInfoAt (data : Bytes) (elf : ElfImage) (fileOffset : Nat) (address : Int)
    (location : ModuleInfoLocation) : Except Failure ModuleInfo := do
  raiseIf (data.length < fileOffset + moduleInfoSize) (.parseError "PSP module info extends past end of file")
  requireBuffer data fileOffset 4
  requireBuffer data (fileOffset + 0x20) 20
  let value offset width := wordAt elf.endianness data (fileOffset + offset) width
  return {
    attributes := value 0 2, version := (value 3 1, value 2 1),
    name := decodeAscii (untilNul (slice data (fileOffset + 4) 0x1C)),
    gpValue := value 0x20 4, exportsStart := value 0x24 4, exportsEnd := value 0x28 4, importsStart := value 0x2C 4,
    importsEnd := value 0x30 4, address, location }

/-- A module information that cannot be read is none, with a warning. -/
def moduleInfoOrWarning (read : Except Failure ModuleInfo) : Except Failure (Option ModuleInfo × List String) := do
  match ← catchParseError read with
  | .ok info => return (some info, [])
  | .error message => return (none, [message])

def findModuleInfo (data : Bytes) (elf : ElfImage) : Except Failure (Option ModuleInfo × List String) :=
  match elf.sections.find? (·.name = moduleInfoSection) with
  | some sec => moduleInfoOrWarning (parseModuleInfoAt data elf sec.offset sec.addr .section)
  | none =>
    match elf.programHeaders.find? (·.type = ptLoad) with
    | none => .ok (none, ["Could not locate PSP module info: no named section and no PT_LOAD segment"])
    | some firstLoad =>
      let address := firstLoad.paddr % 2 ^ 31 - firstLoad.offset
      match elf.vaddrToOffset address with
      | none => .ok (none, [s!"Could not map PSP module-info fallback address 0x{hex address}"])
      | some fileOffset => moduleInfoOrWarning (parseModuleInfoAt data elf fileOffset address .programHeaderFallback)

/-- What a library entry of a table comes to: the end of the walk, or a library to go past. -/
inductive TableStep
  | stop (warning : String)
  | library (warnings : List String) (entry : Library) (advances : 0 < entry.entryLength)

structure TableWalk where
  cursor : Int
  result : List Library
  warnings : List String
  stopped : Bool

/-- One turn of a walk over the export or import table. -/
def walkEntry (what : String) (readEntry : Int → Except Failure TableStep) (s : TableWalk) :
    Except Failure TableWalk := do
  match ← catchParseError (readEntry s.cursor) with
  | .error message =>
    return { s with
      warnings := s.warnings ++ [s!"{what} parsing stopped at 0x{hex s.cursor}: {message}"], stopped := true }
  | .ok (.stop warning) => return { s with warnings := s.warnings ++ [warning], stopped := true }
  | .ok (.library warnings entry _) =>
    return { s with
      cursor := s.cursor + entry.entryLength * 4, result := s.result ++ [entry], warnings := s.warnings ++ warnings }

def tableLoop (what : String) (stop : Int) (readEntry : Int → Except Failure TableStep) :
    WhileLoop Failure TableWalk where
  test s := !s.stopped && s.cursor ≠ 0 && s.cursor < stop
  body := walkEntry what readEntry
  measure s := if s.stopped then 0 else 1 + (stop - s.cursor).toNat
  shrinks := by
    intro s t going run
    obtain ⟨⟨running, _⟩, below⟩ : (s.stopped = false ∧ _) ∧ s.cursor < stop := by simpa using going
    obtain ⟨outcome, _, rest⟩ := bind_ok.mp run
    split at rest
    · cases rest
      simp only [running, if_true, Bool.false_eq_true, if_false]
      omega
    · cases rest
      simp only [running, if_true, Bool.false_eq_true, if_false]
      omega
    · rename_i entry advances
      cases rest
      simp only [running, Bool.false_eq_true, if_false]
      omega

def walkTable (what : String) (start stop : Int) (readEntry : Int → Except Failure TableStep) :
    Except Failure (List Library × List String) := do
  let final ← (tableLoop what stop readEntry).run ⟨start, [], [], false⟩
  return (final.result, final.warnings)

/-- One export library entry: sixteen bytes, and the NIDs and addresses that its table lists. -/
def readExport (data : Bytes) (elf : ElfImage) (stop cursor : Int) : Except Failure TableStep := do
  let raw ← readAtVaddr data elf cursor 16 "export library"
  requireExact raw 16
  let word k := elf.endianness.value (slice raw (4 * k) 4)
  let namePtr := word 0
  let flags := word 1
  let counts := word 2
  let exportsPtr := word 3
  let entryLength := counts &&& 0xFF
  let varCount := (counts >>> 8) &&& 0xFF
  let funcCount := (counts >>> 16) &&& 0xFFFF
  if long : entryLength < 4 then
    return .stop s!"Invalid export entry length {entryLength} at 0x{hex cursor}"
  else if stop < cursor + entryLength * 4 then
    return .stop s!"Export entry at 0x{hex cursor} extends past module export table"
  else
    let name ← if namePtr = 0 then .ok "syslib" else cstringAtVaddr data elf namePtr "export library name"
    let total := funcCount + varCount
    let functions ← (List.range funcCount).mapM fun i => do
      let nidAddress := exportsPtr + i * 4
      let nid ← u32AtVaddr data elf nidAddress "export function NID"
      let address ← u32AtVaddr data elf (exportsPtr + (total + i) * 4 : Nat) "export function address"
      return (⟨nid, address, .function, nidAddress⟩ : NidEntry)
    let variables' ← (List.range varCount).mapM fun i => do
      let index := funcCount + i
      let nidAddress := exportsPtr + index * 4
      let nid ← u32AtVaddr data elf nidAddress "export variable NID"
      let address ← u32AtVaddr data elf (exportsPtr + (total + index) * 4 : Nat) "export variable address"
      return (⟨nid, address, .variable, nidAddress⟩ : NidEntry)
    return .library [] ⟨name, flags, entryLength, funcCount, varCount, cursor, functions, variables'⟩
      (Nat.lt_of_lt_of_le (by decide) (Nat.not_lt.mp long))

/-- One import library entry: twenty bytes or more. A function's address is its stub of eight bytes. -/
def readImport (data : Bytes) (elf : ElfImage) (stop cursor : Int) : Except Failure TableStep := do
  let raw ← readAtVaddr data elf cursor 20 "import library"
  requireExact raw 20
  let word k := elf.endianness.value (slice raw (4 * k) 4)
  let namePtr := word 0
  let flags := word 1
  let counts := word 2
  let nidsPtr := word 3
  let funcsPtr := word 4
  let entryLength := counts &&& 0xFF
  let varCount := (counts >>> 8) &&& 0xFF
  let funcCount := (counts >>> 16) &&& 0xFFFF
  if long : entryLength < 5 then
    return .stop s!"Invalid import entry length {entryLength} at 0x{hex cursor}"
  else if stop < cursor + entryLength * 4 then
    return .stop s!"Import entry at 0x{hex cursor} extends past module import table"
  else
    let varsPtr ← if 6 ≤ entryLength then u32AtVaddr data elf (cursor + 20) "import variable table pointer" else .ok 0
    if namePtr = 0 then
      return .stop s!"Import library at 0x{hex cursor} has no name pointer"
    else
      let name ← cstringAtVaddr data elf namePtr "import library name"
      let functions ← (List.range funcCount).mapM fun i => do
        let nidAddress := nidsPtr + i * 4
        let nid ← u32AtVaddr data elf nidAddress "import function NID"
        return (⟨nid, (funcsPtr + i * 8 : Nat), .function, nidAddress⟩ : NidEntry)
      let variables' ← if varsPtr = 0 then .ok [] else (List.range varCount).mapM fun i => do
        let pair := varsPtr + i * 8
        let address ← u32AtVaddr data elf pair "import variable address"
        let nidAddress := pair + 4
        let nid ← u32AtVaddr data elf nidAddress "import variable NID"
        return (⟨nid, address, .variable, nidAddress⟩ : NidEntry)
      let warnings := if varCount ≠ 0 ∧ varsPtr = 0 then
          [s!"Import library {name} declares {varCount} variables without a variable table"]
        else []
      return .library warnings ⟨name, flags, entryLength, funcCount, varCount, cursor, functions, variables'⟩
        (Nat.lt_of_lt_of_le (by decide) (Nat.not_lt.mp long))

def walkExports (data : Bytes) (elf : ElfImage) (info : ModuleInfo) : Except Failure (List LibraryExport × List String) :=
  walkTable "Export" info.exportsStart info.exportsEnd (readExport data elf info.exportsEnd)

def walkImports (data : Bytes) (elf : ElfImage) (info : ModuleInfo) : Except Failure (List LibraryImport × List String) :=
  walkTable "Import" info.importsStart info.importsEnd (readImport data elf info.importsEnd)

/-- A record, with the file position of the entry it was read from. A record
that the second stream format encodes has no entry of its own. -/
structure TracedRelocation where
  position : Option Nat
  relocation : Relocation
deriving DecidableEq, Repr

def readTypeA (order : Endianness) (data : Bytes) (position : Nat) (sectionName : String)
    (targetSectionIndex : Option Nat) (source : RelocationSource) : Except Failure Relocation := do
  requireBuffer data position 8
  let offset := wordAt order data position 4
  let info := wordAt order data (position + 4) 4
  let type := info &&& 0xFF
  return {
    sectionName, offset, info, type, typeName := (relocNames.lookup type).getD s!"R_MIPS_{type}",
    symbolIndex := info >>> 8, targetSectionIndex, source, sourceSegmentIndex := none,
    targetSegmentIndex := none, streamOffset := none, addend := none, encodingFlags := none }

/-- The eight-byte entries of a file range. -/
def readTypeATable (order : Endianness) (data : Bytes) (start size : Nat) (sectionName : String)
    (targetSectionIndex : Option Nat) (source : RelocationSource) : Except Failure (List TracedRelocation) :=
  (List.range (size / 8)).mapM fun i => do
    let relocation ← readTypeA order data (start + i * 8) sectionName targetSectionIndex source
    return ⟨some (start + i * 8), relocation⟩

def Section.IsRelocation (sec : Section) : Prop := sec.type ∈ [shtRel, shtPrxreloc]

instance (sec : Section) : Decidable sec.IsRelocation := inferInstanceAs (Decidable (_ ∈ _))

def sectionRelocations (data : Bytes) (elf : ElfImage) (sec : Section) :
    Except Failure (List TracedRelocation × List String) :=
  if sec.IsRelocation then do
    let targetSectionIndex := if sec.info < elf.sections.length then some sec.info else none
    let records ← readTypeATable elf.endianness data sec.offset sec.size sec.name targetSectionIndex .section
    let warnings := if sec.size % 8 ≠ 0 then
        [s!"Relocation section {sec.label} has non-multiple-of-8 size"]
      else []
    return (records, warnings)
  else .ok ([], [])

def sectionRanges (elf : ElfImage) : List (Nat × Nat) :=
  (elf.sections.filter fun sec => sec.IsRelocation).map fun sec => (sec.offset, sec.size)

def headerRange (ph : ProgramHeader) : Nat × Nat := (ph.offset, ph.filesz)

/-- A relocation header that does not repeat a section's exact range. -/
def IsExtraHeader (elf : ElfImage) (ph : ProgramHeader) : Prop :=
  ph.type = ptPrxreloc ∧ headerRange ph ∉ sectionRanges elf

instance (elf : ElfImage) (ph : ProgramHeader) : Decidable (IsExtraHeader elf ph) :=
  inferInstanceAs (Decidable (_ ∧ _))

def headerRelocations (data : Bytes) (elf : ElfImage) (ph : ProgramHeader) :
    Except Failure (List TracedRelocation × List String) :=
  if IsExtraHeader elf ph then do
    let records ← readTypeATable elf.endianness data ph.offset ph.filesz "" none .programHeader
    let warnings := if ph.filesz % 8 ≠ 0 then ["PT_PRXRELOC segment has non-multiple-of-8 size"] else []
    return (records, warnings)
  else if ph.type = ptPrxreloc2 then do
    match ← catchParseError (decodePrxreloc2 data elf ph.index) with
    | .ok decoded => return (decoded.map fun relocation => ⟨none, relocation⟩, [])
    | .error message => return ([], [s!"PT_PRXRELOC2 program header {ph.index}: {message}"])
  else .ok ([], [])

def scanRelocations (data : Bytes) (elf : ElfImage) : Except Failure (List TracedRelocation × List String) := do
  let sections ← elf.sections.mapM (sectionRelocations data elf)
  let headers ← elf.programHeaders.mapM (headerRelocations data elf)
  let parts := sections ++ headers
  return (parts.flatMap (·.1), parts.flatMap (·.2))

def parseRelocations (data : Bytes) (elf : ElfImage) : Except Failure (List Relocation × List String) := do
  let (records, warnings) ← scanRelocations data elf
  return (records.map (·.relocation), warnings)

def analyzePrx (data : Bytes) (elf : ElfImage) : Except Failure PrxAnalysis := do
  let (moduleInfo, infoWarnings) ← findModuleInfo data elf
  let (exports, exportWarnings) ← match moduleInfo with
    | some info => walkExports data elf info
    | none => .ok ([], [])
  let (imports, importWarnings) ← match moduleInfo with
    | some info => walkImports data elf info
    | none => .ok ([], [])
  let (relocations, relocationWarnings) ← parseRelocations data elf
  return {
    moduleInfo, imports, exports, relocations,
    warnings := infoWarnings ++ exportWarnings ++ importWarnings ++ relocationWarnings }

def littleWords (words : List Nat) : Bytes := words.flatMap (littleBytes 4)

/-- A small module file: a loaded segment of two words, a second program header,
and a section with the first of the relocation entries. -/
def moduleFile (secondHeader entries : List Nat) : Bytes :=
  [0x7F, 0x45, 0x4C, 0x46, 1, 1, 1, 0, 0, 0, 0, 0, 0, 0, 0, 0] ++ littleBytes 2 etScePsprelexec ++ littleBytes 2 8 ++
    littleWords [1, 0, 52, 116, 0] ++ [52, 32, 2, 40, 1, 0].flatMap (littleBytes 2) ++
    littleWords [ptLoad, 156 + 4 * entries.length, 0, 0, 8, 8, 5, 4] ++ littleWords secondHeader ++
    littleWords [0, shtPrxreloc, 0, 0, 156, 8, 0, 0, 4, 8] ++ littleWords entries ++ littleWords [0x10, 0x14]

end PspDisasm
