import Mathlib.Data.Prod.Lex
import Mathlib.Data.String.Basic
import PspDisasm.Disc.ParamSfo
import PspDisasm.Foundations.LatestByKey

namespace PspDisasm
open Foundations

namespace Spim

structure EngineInfo where
  name : String
  version : String

structure InstructionRecord where
  address : Int
  word : Int
  text : String
  valid : Bool
  implemented : Bool
deriving DecidableEq

structure FunctionRecord where
  name : String
  address : Int
  size : Int
  sectionName : String
  assembly : String
  instructionCount : Nat
  instructions : List InstructionRecord
deriving DecidableEq

structure SymbolRecord where
  name : String
  address : Int
  sectionName : Option String
  kind : String
  source : String
deriving DecidableEq

structure ReferenceRecord where
  sourceAddress : Int
  targetAddress : Int
  kind : String
  sourceFunction : Option String
  targetSection : Option String
deriving DecidableEq

structure StringRecord where
  address : Int
  value : String
  sectionName : String
  referencedBy : List Int
deriving DecidableEq

structure JumpTableRecord where
  address : Int
  sourceFunction : String
  sourceAddress : Int
  targets : List Int
deriving DecidableEq

structure AssemblySection where
  name : String
  address : Int
  size : Nat
  assembly : String
deriving DecidableEq

structure DisassemblyResult where
  sourceName : String
  engines : List EngineInfo
  functions : List FunctionRecord := []
  symbols : List SymbolRecord := []
  references : List ReferenceRecord := []
  strings : List StringRecord := []
  jumpTables : List JumpTableRecord := []
  assemblySections : List AssemblySection := []
  warnings : List String := []

/-- What the engine's analyzer of a function has noted, by the offsets of the instructions in the function. -/
structure InstructionAnalyzer where
  funcCallInstrOffsets : Dict Int Int
  branchInstrOffsets : Dict Int Int
  symbolInstrOffset : Dict Int Int
  indirectFunctionCallIntrOffset : Dict Int Int
  jumpRegisterIntrOffset : Dict Int Int
  referencedJumpTableOffsets : Dict Int Int

structure EngineFunction where
  name : String
  vram : Int
  sizew : Int
  assembly : String
  instructions : List InstructionRecord
  analyzer : InstructionAnalyzer

/-- An analyzed `SectionText`. -/
structure EngineText where
  symbolList : List EngineFunction
  assembly : String

structure EngineSymbol where
  name : String
  special : Bool
  typeName : String

/-- The instruction engines, over whatever state their context has. Nothing is assumed of what they answer. -/
structure EngineModules (σ : Type) where
  spimdisasmVersion : String
  rabbitizerVersion : String
  changeGlobalSegmentRanges : (romEnd : Nat) → (vramStart vramEnd : Int) → σ
  addFunction : σ → (address : Int) → (vrom : Option Nat) → σ
  sectionText : σ → (start stop : Nat) → (vram : Int) → (name : String) → Bytes → Except String (EngineText × σ)
  symbols : σ → Dict Int EngineSymbol

/-- `section.name or f"section_{section.index}"`. -/
def sectionName (sec : Section) : String := if sec.name = "" then s!"section_{sec.index}" else sec.name

section Image
variable (elf : ElfImage)

/-- `_find_section`. -/
def findSection (address : Int) : Option Section :=
  elf.sections.find? fun sec => sec.addr ≤ address ∧ address < sec.addr + sec.size

def makeReference (sourceAddress targetAddress : Int) (kind sourceFunction : String) : ReferenceRecord where
  sourceAddress := sourceAddress
  targetAddress := targetAddress
  kind := kind
  sourceFunction := some sourceFunction
  targetSection := (findSection elf targetAddress).map sectionName

def referencesOf (function : EngineFunction) (offsets : Dict Int Int) (kind : String) : List ReferenceRecord :=
  offsets.map fun item => makeReference elf (function.vram + item.1) item.2 kind function.name

def normalizeReferences (text : EngineText) : List ReferenceRecord :=
  text.symbolList.flatMap fun function =>
    referencesOf elf function function.analyzer.funcCallInstrOffsets "call" ++
      referencesOf elf function function.analyzer.branchInstrOffsets "branch" ++
      referencesOf elf function function.analyzer.symbolInstrOffset "data"

def normalizeIndirectReferences (text : EngineText) : List ReferenceRecord :=
  text.symbolList.flatMap fun function => referencesOf elf function function.analyzer.indirectFunctionCallIntrOffset "indirect_call"

/-- The targets from one entry of a table on, while entries are left. -/
def tableTargets (offset sectionEnd : Nat) : (entries : Nat) → List Int
  | 0 => []
  | entries + 1 =>
    if sectionEnd < offset + 4 then []
    else
      let target : Int := wordAt .little elf.rawData offset 4
      match findSection elf target with
      | none => []
      | some sec => if sec.kind ≠ .executable then [] else target :: tableTargets (offset + 4) sectionEnd entries

def decodeJumpTableTargets (address : Int) (maxEntries : Nat := 256) : List Int :=
  match findSection elf address with
  | none => []
  | some sec =>
    if sec.type = 8 ∨ sec.kind = .executable then []
    else
      match elf.vaddrToOffset address with
      | none => []
      | some offset => tableTargets elf offset (min (sec.offset + sec.size) elf.rawData.length) maxEntries

def normalizeJumpTables (text : EngineText) : List JumpTableRecord :=
  text.symbolList.flatMap fun function =>
    let acceptedAddresses := function.analyzer.referencedJumpTableOffsets.values
    function.analyzer.jumpRegisterIntrOffset.filterMap fun (localOffset, tableAddress) =>
      if tableAddress ∉ acceptedAddresses then none
      else
        let targets := decodeJumpTableTargets elf tableAddress
        if targets.length < 2 then none
        else some { address := tableAddress, sourceFunction := function.name, sourceAddress := function.vram + localOffset, targets }

def normalizeFunctions (text : EngineText) (sec : Section) : List FunctionRecord :=
  text.symbolList.map fun function =>
    { name := function.name, address := function.vram, size := function.sizew * 4, sectionName := sectionName sec
      assembly := function.assembly, instructionCount := function.instructions.length, instructions := function.instructions }

/-- `str.isprintable` of a character stands for the tables of Python's Unicode database. -/
def decodeReferencedString (isPrintable : Char → Bool) (sec : Section) (address : Int) : Option String :=
  match elf.vaddrToOffset address with
  | none => none
  | some offset =>
    let endLimit := min (sec.offset + sec.size) (offset + 256)
    let window := slice elf.rawData offset (endLimit - offset)
    -- `find` answers -1 where the window has no NUL.
    if 0 ∉ window ∨ (untilNul window).length < 4 then none
    else (decodeUtf8Strict (untilNul window)).filter fun value => value ≠ "" ∧ value.toList.all isPrintable

def noteString (isPrintable : Char → Bool) (byAddress : Dict Int StringRecord) (reference : ReferenceRecord) : Dict Int StringRecord :=
  if reference.kind ∉ ["data", "pointer"] then byAddress
  else
    match findSection elf reference.targetAddress with
    | none => byAddress
    | some sec =>
      if sec.kind = .executable ∨ sec.type = 8 then byAddress
      else
        match decodeReferencedString elf isPrintable sec reference.targetAddress with
        | none => byAddress
        | some value =>
          let existing := (byAddress.get? reference.targetAddress).getD
            { address := reference.targetAddress, value, sectionName := sectionName sec, referencedBy := [] }
          byAddress.set reference.targetAddress
            { existing with referencedBy := existing.referencedBy ++ [reference.sourceAddress] }

def detectStrings (isPrintable : Char → Bool) (references : List ReferenceRecord) : List StringRecord :=
  let byAddress := references.foldl (noteString elf isPrintable) []
  sortedBy (fun record : StringRecord => toLex (record.address, record.value))
    (byAddress.values.map fun record => { record with referencedBy := sortedBy id record.referencedBy.dedup })

end Image

abbrev ReferenceKey := Int × Int × String × Option String

def ReferenceRecord.key (record : ReferenceRecord) : ReferenceKey :=
  (record.sourceAddress, record.targetAddress, record.kind, record.sourceFunction)

def deduplicateReferences (records : List ReferenceRecord) : List ReferenceRecord :=
  sortedBy (fun record : ReferenceRecord => (toLex (record.sourceAddress, toLex (record.targetAddress, record.kind)) : Int ×ₗ Int ×ₗ String))
    (latest ReferenceRecord.key records)

abbrev JumpTableKey := Int × String × Int

def JumpTableRecord.key (record : JumpTableRecord) : JumpTableKey := (record.address, record.sourceFunction, record.sourceAddress)

def JumpTableRecord.order (record : JumpTableRecord) : Int ×ₗ Int ×ₗ String :=
  toLex (record.address, toLex (record.sourceAddress, record.sourceFunction))

def deduplicateJumpTables (records : List JumpTableRecord) : List JumpTableRecord :=
  sortedBy JumpTableRecord.order (latest JumpTableRecord.key records)

section Adapter
variable {σ : Type} (engines : EngineModules σ) (isPrintable : Char → Bool) (elf : ElfImage) (model : ExecutableModel)

/-- `text.lstrip("@")`. -/
def stripAt (text : String) : String := String.ofList (text.toList.dropWhile (· = '@'))

def normalizeSymbol (seedAddresses : List Int) (item : Int × EngineSymbol) : SymbolRecord :=
  let targetSection := findSection elf item.1
  let typeName :=
    if item.2.special then stripAt item.2.typeName
    else if (targetSection.map (·.kind)) = some .executable then "code"
    else "data"
  let typeName := if typeName = "branchlabel" then "label" else typeName
  { name := item.2.name, address := item.1, sectionName := targetSection.map sectionName
    kind := if typeName = "" then "symbol" else typeName, source := if item.1 ∈ seedAddresses then "phase1" else "spimdisasm" }

def normalizeSymbols (context : σ) (seedAddresses : List Int) : List SymbolRecord :=
  sortedBy (fun record : SymbolRecord => (toLex (record.address, toLex (record.name, record.kind)) : Int ×ₗ String ×ₗ String))
    ((engines.symbols context).map (normalizeSymbol elf seedAddresses))

/-- `_seed_known_functions`: the context with the functions that the ELF names, and their addresses. -/
def seedKnownFunctions (context : σ) : σ × List Int :=
  let entry := elf.header.entry
  let start := if entry ≠ 0 ∧ (findSection elf entry).isSome then [entry] else []
  let listed := (model.imports ++ model.exports).flatMap fun library => library.functions.map (·.address)
  let code := listed.filter fun address => (findSection elf address).any fun sec => sec.kind = .executable
  ((start ++ code).foldl (fun context address => engines.addFunction context address (elf.vaddrToOffset address)) context, start ++ code)

/-- The lists of `analyze`, and the engine's context. -/
structure AnalyzeRun (σ : Type) where
  context : σ
  functions : List FunctionRecord
  references : List ReferenceRecord
  jumpTables : List JumpTableRecord
  assemblySections : List AssemblySection
  warnings : List String

def trailingWarning (sec : Section) : String :=
  s!"Executable section {sec.label} has {sec.size % 4} trailing byte(s) " ++ "that are not complete instructions."

/-- One round of the loop over the sections. -/
def analyzeSection (run : AnalyzeRun σ) (sec : Section) : Except String (AnalyzeRun σ) :=
  if sec.kind ≠ .executable ∨ sec.size = 0 then .ok run
  else
    let analyzedSize := sec.size - sec.size % 4
    let warnings := if analyzedSize ≠ sec.size then run.warnings ++ [trailingWarning sec] else run.warnings
    if analyzedSize = 0 then .ok { run with warnings }
    else
      match engines.sectionText run.context sec.offset (sec.offset + analyzedSize) sec.addr (sectionName sec) elf.rawData with
      | .error text => .error (s!"spimdisasm failed while analyzing executable section " ++
          s!"{sec.label} at 0x{addressDigits sec.addr}: {text}")
      | .ok (text, context) => .ok {
          context
          functions := run.functions ++ normalizeFunctions text sec
          references := run.references ++ (normalizeReferences elf text ++ normalizeIndirectReferences elf text)
          jumpTables := run.jumpTables ++ normalizeJumpTables elf text
          assemblySections := run.assemblySections ++ [⟨sectionName sec, sec.addr, analyzedSize, text.assembly⟩]
          warnings }

def engineInfo : List EngineInfo := [⟨"spimdisasm", engines.spimdisasmVersion⟩, ⟨"rabbitizer", engines.rabbitizerVersion⟩]

def mappedSections : List Section := elf.sections.filter fun sec => sec.addr ≠ 0 ∧ sec.size ≠ 0

/-- The context that the sections are analyzed in, and the seeded addresses. -/
def seededContext (first : Section) (rest : List Section) : σ × List Int :=
  let vramStart := rest.foldl (fun least sec => min least sec.addr) first.addr
  let vramEnd := rest.foldl (fun greatest sec => max greatest (sec.addr + (sec.size : Int))) (first.addr + (first.size : Int))
  seedKnownFunctions engines elf model (engines.changeGlobalSegmentRanges elf.rawData.length vramStart vramEnd)

/-- `SpimdisasmAdapter.analyze`, or the text of the `DisassemblyError`. -/
def analyze : Except String DisassemblyResult :=
  match mappedSections elf with
  | [] => .ok {
      sourceName := model.sourceName, engines := engineInfo engines, warnings := ["ELF contains no mapped sections to analyze."] }
  | first :: rest => do
    let (context, seedAddresses) := seededContext engines elf model first rest
    let run ← elf.sections.foldlM (analyzeSection engines elf) ⟨context, [], [], [], [], []⟩
    let references := deduplicateReferences run.references
    return {
      sourceName := model.sourceName
      engines := engineInfo engines
      functions := sortedBy (fun record : FunctionRecord => (toLex (record.address, record.name) : Int ×ₗ String)) run.functions
      symbols := normalizeSymbols engines elf run.context seedAddresses
      references
      strings := detectStrings elf isPrintable references
      jumpTables := deduplicateJumpTables run.jumpTables
      assemblySections := sortedBy (fun record : AssemblySection => (toLex (record.address, record.name) : Int ×ₗ String)) run.assemblySections
      warnings := run.warnings }

end Adapter

end Spim

end PspDisasm
