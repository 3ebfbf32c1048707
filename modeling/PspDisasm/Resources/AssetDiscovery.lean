import PspDisasm.DataTyping.LeafEvidence
import PspDisasm.Engines.Spim
import PspDisasm.Foundations.KeyedMerge
import PspDisasm.Resources.ResourceExtraction

namespace PspDisasm
open Foundations

/-- What the typing reads of a disassembly. -/
def Spim.DisassemblyResult.code (disassembly : Spim.DisassemblyResult) : DataTyping.CodeResult where
  functions := disassembly.functions.map fun function => ⟨function.name, function.address⟩
  symbols := disassembly.symbols.map (·.address)
  references := disassembly.references.map fun reference =>
    { targetAddress := reference.targetAddress, kind := reference.kind, sourceAddress := reference.sourceAddress
      sourceFunction := reference.sourceFunction }
  strings := disassembly.strings.map fun record => ⟨record.address, record.value, record.sectionName⟩
  jumpTables := disassembly.jumpTables.map fun record => ⟨record.address, record.sourceFunction, record.sourceAddress, record.targets⟩

namespace AssetDiscovery
open Spim

structure TypedReferenceRecord where
  sourceAddress : Int
  targetAddress : Int
  kind : String
  sourceFunction : Option String
  targetSection : Option String
  targetType : String
  confidence : Rat
  evidence : List String
deriving DecidableEq

/-- The part of a `DataTypingResult` that the linking reads. -/
structure DataTypingResult where
  dataTypes : List DataTyping.DataTypeRecord
  typedReferences : List TypedReferenceRecord

/-- `_typed_references`. -/
def typedReference (dataTypes : List DataTyping.DataTypeRecord) (reference : ReferenceRecord) : TypedReferenceRecord :=
  let target := (byKey DataTyping.DataTypeRecord.address dataTypes).get? reference.targetAddress
  { sourceAddress := reference.sourceAddress, targetAddress := reference.targetAddress, kind := reference.kind
    sourceFunction := reference.sourceFunction, targetSection := reference.targetSection
    targetType := (target.map fun record => record.typeName.value).getD "unknown"
    confidence := (target.map (·.confidence)).getD 0, evidence := (target.map (·.evidence)).getD [] }

def analyzeDataTypes (model : ExecutableModel) (disassembly : DisassemblyResult) (elf : ElfImage) : DataTypingResult :=
  let dataTypes := (DataTyping.analyzeDataTypes model disassembly.code.disassembly elf).dataTypes
  { dataTypes, typedReferences := disassembly.references.map (typedReference dataTypes) }

structure AssetReferenceRecord where
  sourceAddress : Int
  assetAddress : Int
  sourceFunction : Option String
  referenceKind : String
  assetFormat : String
  confidence : Rat
  evidence : List String
deriving DecidableEq

structure AssetDiscoveryResult where
  sourceName : String
  assets : List AssetRecord
  references : List AssetReferenceRecord
  warnings : List String

def eligible (sec : Section) : Bool :=
  0 < sec.size ∧ sec.flags &&& shfAlloc ≠ 0 ∧ ¬sec.flags &&& shfExecinstr ≠ 0 ∧ sec.type ≠ shtNobits

def eligibleSections (elf : ElfImage) : List Section := sortedBy DataTyping.sectionKey (elf.sections.filter eligible)

abbrev AssetReferenceKey := Int × Int × String

def AssetReferenceRecord.key (record : AssetReferenceRecord) : AssetReferenceKey :=
  (record.sourceAddress, record.assetAddress, record.referenceKind)

/-- `first or second` of two names. -/
def nameOr (first second : Option String) : Option String := if first = none ∨ first = some "" then second else first

/-- `sorted(set(first) | set(second))`. -/
def evidenceUnion (first second : List String) : List String := sortedBy id (first ++ second).dedup

/-- What `_merge_reference` makes of two records of one key. -/
def AssetReferenceRecord.join (current candidate : AssetReferenceRecord) : AssetReferenceRecord :=
  { current with
    sourceFunction := nameOr current.sourceFunction candidate.sourceFunction
    confidence := max current.confidence candidate.confidence
    evidence := evidenceUnion current.evidence candidate.evidence }

section Links
variable (assets : List AssetRecord) (disassembly : DisassemblyResult) (dataTyping : DataTypingResult)

/-- `assets_by_address`. -/
def assetAt (address : Int) : Option AssetRecord := (byKey AssetRecord.address assets).get? address

def directCandidates : List AssetReferenceRecord :=
  let order (reference : ReferenceRecord) : Int ×ₗ Int ×ₗ String ×ₗ String :=
    toLex (reference.sourceAddress, toLex (reference.targetAddress, toLex (reference.kind, reference.sourceFunction.getD "")))
  (sortedBy order disassembly.references).filterMap fun reference =>
    (assetAt assets reference.targetAddress).map fun asset =>
      { sourceAddress := reference.sourceAddress, assetAddress := asset.address, sourceFunction := reference.sourceFunction
        referenceKind := "direct", assetFormat := asset.format, confidence := asset.confidence
        evidence := ["asset_exact_start", "reference_record"] }

def typedCandidates : List AssetReferenceRecord :=
  let order (reference : TypedReferenceRecord) : Int ×ₗ Int ×ₗ String ×ₗ String :=
    toLex (reference.sourceAddress, toLex (reference.targetAddress, toLex (reference.kind, reference.sourceFunction.getD "")))
  (sortedBy order dataTyping.typedReferences).filterMap fun reference =>
    (assetAt assets reference.targetAddress).map fun asset =>
      { sourceAddress := reference.sourceAddress, assetAddress := asset.address, sourceFunction := reference.sourceFunction
        referenceKind := "typed", assetFormat := asset.format, confidence := min asset.confidence reference.confidence
        evidence := evidenceUnion reference.evidence ["asset_exact_start", "typed_reference"] }

def dataCandidates : List AssetReferenceRecord :=
  let order (record : DataTyping.DataTypeRecord) : Int ×ₗ String := toLex (record.address, record.typeName.value)
  (sortedBy order dataTyping.dataTypes).filterMap fun record =>
    record.targetAddress.bind fun target => (assetAt assets target).map fun asset =>
      { sourceAddress := record.address, assetAddress := asset.address, sourceFunction := none
        referenceKind := "typed_data", assetFormat := asset.format, confidence := min asset.confidence record.confidence
        evidence := evidenceUnion record.evidence ["asset_exact_start", "typed_data"] }

def AssetReferenceRecord.order (record : AssetReferenceRecord) : Int ×ₗ Int ×ₗ String ×ₗ String :=
  toLex (record.assetAddress, toLex (record.sourceAddress, toLex (record.referenceKind, record.assetFormat)))

def linkReferences : List AssetReferenceRecord :=
  sortedBy AssetReferenceRecord.order (joined AssetReferenceRecord.key AssetReferenceRecord.join
    (directCandidates assets disassembly ++ typedCandidates assets dataTyping ++ dataCandidates assets dataTyping)).values

end Links

def analyzeAssets (model : ExecutableModel) (disassembly : DisassemblyResult) (dataTyping : DataTypingResult) (elf : ElfImage) :
    AssetDiscoveryResult :=
  let scans := (eligibleSections elf).map (scanSection elf)
  let order (asset : AssetRecord) : Int ×ₗ String := toLex (asset.address, asset.format)
  let assets := sortedBy order (scans.flatMap (·.1))
  { sourceName := model.sourceName, assets, references := linkReferences assets disassembly dataTyping
    warnings := sortedBy id (scans.flatMap (·.2)).dedup }

end AssetDiscovery

end PspDisasm
