import Mathlib.Data.List.Sort
import Mathlib.Data.Prod.Lex
import Mathlib.Data.String.Basic
import PspDisasm.Foundations.Dict
import PspDisasm.GameProject

namespace PspDisasm.Linker
open Foundations

structure LocalFunction where
  name : String
  address : Int
deriving DecidableEq, Repr

structure LocalSymbol where
  name : String
  address : Int
  kind : String
deriving DecidableEq, Repr

/-- What the linker reads of a disassembly. -/
structure LocalNames where
  functions : List LocalFunction
  symbols : List LocalSymbol
deriving DecidableEq, Repr

structure ModuleAnalysisInput where
  model : ExecutableModel
  disassembly : Option LocalNames
deriving DecidableEq, Repr

/-- `Path(path).name`. -/
def pathName (path : String) : String :=
  (((path.toList.splitOn '/').map String.ofList).filter fun part => part ≠ "" ∧ part ≠ ".").getLast?.getD ""

/-- `Path(path).stem`: a dot at an end of the name does not begin a suffix. -/
def pathStem (path : String) : String :=
  let name := (pathName path).toList
  let suffix := name.reverse.takeWhile (· ≠ '.')
  let stem := (name.reverse.drop (suffix.length + 1)).reverse
  if suffix = [] ∨ stem = [] then pathName path else String.ofList stem

def moduleName (model : ExecutableModel) : String :=
  match model.moduleInfo.map fun info => strip info.name with
  | some name => if name = "" then fromSource else name
  | none => fromSource
where fromSource : String :=
  let stem := pathStem model.sourceName
  if stem = "" then model.sourceName else stem

section Labels

def sharedLabel (unit : ModuleAnalysisInput) : String :=
  let sourceName := pathName unit.model.sourceName
  let sourceName := if sourceName = "" then "module" else sourceName
  s!"{moduleName unit.model}@{sourceName}"

def numberedLabel (baseLabel : String) (ordinal : Nat) : String :=
  if ordinal = 1 then baseLabel else s!"{baseLabel}#{ordinal}"

structure Labelling where
  labels : List String
  candidateCounts : Dict String Nat
  duplicateLabels : Dict String (List String)

def labelUnit (counts : String → Nat) (labelling : Labelling) (unit : ModuleAnalysisInput) : Labelling :=
  let rawName := moduleName unit.model
  if counts rawName = 1 then { labelling with labels := labelling.labels ++ [rawName] }
  else
    let baseLabel := sharedLabel unit
    let ordinal := (labelling.candidateCounts.get? baseLabel).getD 0 + 1
    let label := numberedLabel baseLabel ordinal
    { labels := labelling.labels ++ [label]
      candidateCounts := labelling.candidateCounts.set baseLabel ordinal
      duplicateLabels := labelling.duplicateLabels.set rawName ((labelling.duplicateLabels.get? rawName).getD [] ++ [label]) }

def labelUnits (units : List ModuleAnalysisInput) : Labelling :=
  let rawNames := units.map fun unit => moduleName unit.model
  units.foldl (labelUnit fun name => rawNames.count name) ⟨[], [], []⟩

def moduleLabels (reprText : String → String) (units : List ModuleAnalysisInput) : List String × List String :=
  let labelling := labelUnits units
  (labelling.labels, (labelling.duplicateLabels.insertionSort fun first second => first.1 ≤ second.1).map fun item =>
    s!"Duplicate module name {reprText item.1} disambiguated by source file: " ++ ", ".intercalate item.2)

end Labels

structure NidSymbol where
  library : String
  nid : Nat
  name : String
  kind : NidKind
  source : String
deriving DecidableEq, Repr

structure NidDatabase where
  symbols : Dict (String × NidKind × Nat) NidSymbol
  warnings : List String
deriving DecidableEq, Repr

/-- A nid that was read from a module is a word, so that `_parse_nid` returns it as it is. -/
def NidDatabase.resolve (database : NidDatabase) (library : String) (nid : Nat) (kind : NidKind) : Option NidSymbol :=
  database.symbols.get? (strip library, kind, nid)

def kindText : NidKind → String
  | .function => "function"
  | .variable => "variable"

inductive Direction
  | «import»
  | «export»
deriving DecidableEq, Repr

def Direction.value : Direction → String
  | .import => "import"
  | .export => "export"

structure NidResolution where
  module : String
  library : String
  nid : Nat
  name : String
  kind : NidKind
  address : Int
  direction : Direction
  source : String
deriving DecidableEq, Repr

structure ModuleLink where
  importingModule : String
  exportingModule : String
  library : String
  nid : Nat
  name : String
  kind : NidKind
  importAddress : Int
  exportAddress : Int
  nameSource : String
deriving DecidableEq, Repr

/-- The confidence is in hundredths. -/
structure PropagatedSymbol where
  module : String
  address : Int
  name : String
  kind : NidKind
  library : String
  nid : Nat
  source : String
  confidence : Nat
deriving DecidableEq, Repr

structure ModuleLinkAnalysis where
  modules : List String
  resolutions : List NidResolution
  links : List ModuleLink
  propagatedSymbols : List PropagatedSymbol
  warnings : List String
deriving DecidableEq, Repr

structure LibraryEntry where
  library : String
  kind : NidKind
  entry : NidEntry
deriving DecidableEq, Repr

def iterEntries (model : ExecutableModel) (direction : Direction) : List LibraryEntry :=
  let libraries := match direction with
    | .import => model.imports
    | .export => model.exports
  libraries.flatMap fun library =>
    library.functions.map (⟨library.name, .function, ·⟩) ++ library.variables.map (⟨library.name, .variable, ·⟩)

def fallbackName (library : String) (nid : Nat) : String := s!"{library}_{hexPadded 8 nid}"

def isAutogeneratedName (name : String) : Bool :=
  let value := (strip name).toList
  let isHex (c : Char) : Bool := c.isDigit || ('a' ≤ c && c ≤ 'f') || ('A' ≤ c && c ≤ 'F')
  ["func_", "D_", "L", "label_", "jtbl_"].any fun lead =>
    lead.toList.isPrefixOf value && value.drop lead.length ≠ [] && (value.drop lead.length).all isHex

def localName (unit : ModuleAnalysisInput) (kind : NidKind) (address : Int) : Option String := do
  let disassembly ← unit.disassembly
  let function := if kind = .function then
      disassembly.functions.find? fun function => function.address = address && !isAutogeneratedName function.name
    else none
  let symbol := disassembly.symbols.find? fun symbol =>
    symbol.address = address && symbol.kind ∉ ["label", "branchlabel"] && !isAutogeneratedName symbol.name
  (function.map (·.name)).or (symbol.map (·.name))

/-- The order of a record's key among tuples of texts and numbers. -/
def resolutionKey (item : NidResolution) : String ×ₗ String ×ₗ String ×ₗ String ×ₗ Nat ×ₗ Int :=
  toLex (item.module, toLex (item.direction.value, toLex (item.library, toLex (kindText item.kind, toLex (item.nid, item.address)))))

def linkKey (item : ModuleLink) : String ×ₗ String ×ₗ String ×ₗ String ×ₗ Nat ×ₗ Int :=
  toLex (item.importingModule, toLex (item.exportingModule, toLex (item.library, toLex (kindText item.kind,
    toLex (item.nid, item.importAddress)))))

def symbolKey (item : PropagatedSymbol) : String ×ₗ Int ×ₗ String := toLex (item.module, toLex (item.address, item.name))

def tieKey (item : PropagatedSymbol) : String ×ₗ String ×ₗ String ×ₗ Nat :=
  toLex (item.name, toLex (item.source, toLex (item.library, item.nid)))

def keepBest (selected : Dict (String × Int) PropagatedSymbol) (record : PropagatedSymbol) :
    Dict (String × Int) PropagatedSymbol :=
  match selected.get? (record.module, record.address) with
  | none => selected.set (record.module, record.address) record
  | some current =>
    if current.confidence < record.confidence ∨ (record.confidence = current.confidence ∧ tieKey record < tieKey current) then
      selected.set (record.module, record.address) record
    else selected

def deduplicateProposals (records : List PropagatedSymbol) : List PropagatedSymbol :=
  (records.foldl keepBest []).values.insertionSort fun first second => symbolKey first ≤ symbolKey second

section Linking
variable (casefold reprText : String → String) (database : NidDatabase)

def isPlaceholderName (library : String) (nid : Nat) (name : String) : Bool :=
  casefold (strip name) = casefold (fallbackName (strip library) nid)

def resolution (module : String) (direction : Direction) (listed : LibraryEntry) : NidResolution :=
  let (name, source) := match database.resolve listed.library listed.entry.nid listed.kind with
    | none => (fallbackName listed.library listed.entry.nid, "unresolved")
    | some symbol => (symbol.name, symbol.source)
  { module, library := listed.library, nid := listed.entry.nid, name, kind := listed.kind, address := listed.entry.address
    direction, source }

def isStrongResolution (resolution : NidResolution) : Bool :=
  resolution.source ≠ "unresolved" && !isPlaceholderName casefold resolution.library resolution.nid resolution.name

def proposalFromResolution (resolution : NidResolution) : PropagatedSymbol :=
  { module := resolution.module, address := resolution.address, name := resolution.name, kind := resolution.kind
    library := resolution.library, nid := resolution.nid, source := resolution.source
    confidence := if isStrongResolution casefold resolution then 100 else 50 }

/-- A module with its place in the list and its label. -/
structure LabelledUnit where
  index : Nat
  unit : ModuleAnalysisInput
  label : String

structure Exporter where
  owner : LabelledUnit
  listed : LibraryEntry

def unitResolutions (owner : LabelledUnit) : List NidResolution :=
  [.import, .export].flatMap fun direction => (iterEntries owner.unit.model direction).map (resolution database owner.label direction)

/-- The other modules that export an import. -/
def exportersOf (units : List LabelledUnit) (importing : LabelledUnit) (listed : LibraryEntry) : List Exporter :=
  (units.flatMap fun owner => (iterEntries owner.unit.model .export).map (⟨owner, ·⟩)).filter fun exporter =>
    exporter.listed.library = listed.library ∧ exporter.listed.kind = listed.kind ∧
      exporter.listed.entry.nid = listed.entry.nid ∧ exporter.owner.index ≠ importing.index

/-- The resolution that the linker has kept for an entry. Of a function and a variable with one nid and one address this is
the one that comes last. -/
def keptResolution (owner : LabelledUnit) (direction : Direction) (listed : LibraryEntry) : Option NidResolution :=
  ((iterEntries owner.unit.model direction).filter fun other =>
    other.library = listed.library ∧ other.entry.nid = listed.entry.nid ∧ other.entry.address = listed.entry.address).getLast?.map
      (resolution database owner.label direction)

def strongName (kept : Option NidResolution) : Option (String × String) :=
  (kept.filter (isStrongResolution casefold)).map fun resolution => (resolution.name, resolution.source)

/-- What the linker makes of one import. -/
inductive ImportOutcome
  | unlinked
  | ambiguous (warning : String)
  | linked (link : ModuleLink)
deriving DecidableEq, Repr

def linkImport (units : List LabelledUnit) (importing : LabelledUnit) (listed : LibraryEntry) : ImportOutcome :=
  match exportersOf units importing listed with
  | [] => .unlinked
  | [exporter] =>
    let (name, nameSource) :=
      ((strongName casefold (keptResolution database importing .import listed)).or
        (strongName casefold (keptResolution database exporter.owner .export exporter.listed))).getD <|
      match localName exporter.owner.unit listed.kind exporter.listed.entry.address with
      | some name => (name, s!"module:{exporter.owner.label}")
      | none => (fallbackName listed.library listed.entry.nid, "unresolved")
    .linked
      { importingModule := importing.label, exportingModule := exporter.owner.label, library := listed.library
        nid := listed.entry.nid, name, kind := listed.kind, importAddress := listed.entry.address
        exportAddress := exporter.listed.entry.address, nameSource }
  | exporters =>
    let providers := (exporters.map (·.owner.label)).insertionSort (· ≤ ·)
    .ambiguous (s!"Ambiguous export for {importing.label} import {listed.library}/{kindText listed.kind}/0x" ++
      s!"{hexPadded 8 listed.entry.nid}: " ++ ", ".intercalate providers)

def ImportOutcome.link? : ImportOutcome → Option ModuleLink
  | .linked link => some link
  | _ => none

def ImportOutcome.warning? : ImportOutcome → Option String
  | .ambiguous warning => some warning
  | _ => none

def proposalFromLink (link : ModuleLink) : Option PropagatedSymbol :=
  if "module:".toList.isPrefixOf link.nameSource.toList then
    some
      { module := link.importingModule, address := link.importAddress, name := link.name, kind := link.kind
        library := link.library, nid := link.nid, source := link.nameSource, confidence := 95 }
  else none

def unitOutcomes (units : List LabelledUnit) (importing : LabelledUnit) : List ImportOutcome :=
  (iterEntries importing.unit.model .import).map (linkImport casefold database units importing)

def labelledUnits (units : List ModuleAnalysisInput) (labels : List String) : List LabelledUnit :=
  (units.zip labels).zipIdx.map fun item => ⟨item.2, item.1.1, item.1.2⟩

def linkModules (units : List ModuleAnalysisInput) : ModuleLinkAnalysis :=
  let (labels, identityWarnings) := moduleLabels reprText units
  let labelled := labelledUnits units labels
  let resolutions := labelled.flatMap (unitResolutions database)
  let outcomes := labelled.flatMap (unitOutcomes casefold database labelled)
  let links := outcomes.filterMap ImportOutcome.link?
  let proposals := resolutions.map (proposalFromResolution casefold) ++ links.filterMap proposalFromLink
  { modules := labels
    resolutions := resolutions.insertionSort fun first second => resolutionKey first ≤ resolutionKey second
    links := links.insertionSort fun first second => linkKey first ≤ linkKey second
    propagatedSymbols := deduplicateProposals proposals
    warnings := database.warnings ++ identityWarnings ++ outcomes.filterMap ImportOutcome.warning? }

end Linking

end PspDisasm.Linker
