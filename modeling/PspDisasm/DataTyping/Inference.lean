import PspDisasm.DataTyping.Records

namespace PspDisasm
open Foundations

namespace DataTyping

/-- What the scans for pointers take as known. -/
structure Targets where
  relocationSlots : List Int
  functionTargets : List Int
  knownDataTargets : List Int
deriving DecidableEq, Repr

section Tables
variable (elf : ElfImage) (targets : Targets)

/-- The word in a slot, where it is an address of the image. -/
def pointerWord (sec : Section) (slot : Int) : Option Int :=
  (safeWord elf sec slot).filter fun value => (allocatedSection elf value false).isSome

/-- The pointers in the slots from `cursor` on, up to the first slot that is none or lies in a known object. -/
def pointerRun (sec : Section) (reserved : List Span) (cursor : Int) : List (Int × Int) :=
  if cursor + 4 ≤ sec.addr + sec.size ∧ ¬insideRanges cursor reserved then
    match pointerWord elf sec cursor with
    | none => []
    | some value => (cursor, value) :: pointerRun sec reserved (cursor + 4)
  else []
termination_by (sec.addr + sec.size - cursor).toNat

def relocationCount (run : List (Int × Int)) : Nat := run.countP fun entry => entry.1 ∈ targets.relocationSlots

def identityCount (run : List (Int × Int)) : Nat :=
  run.countP fun entry => entry.2 ∈ targets.functionTargets ∨ entry.2 ∈ targets.knownDataTargets

def qualifies (run : List (Int × Int)) : Bool :=
  (3 ≤ run.length ∧ (1 ≤ relocationCount targets run ∨ 2 ≤ identityCount targets run)) ∨
    (2 ≤ run.length ∧ relocationCount targets run = run.length)

theorem qualifies_length {targets : Targets} {run : List (Int × Int)} (qualified : qualifies targets run = true) : 2 ≤ run.length := by
  rcases of_decide_eq_true qualified with ⟨long, _⟩ | ⟨long, _⟩
  · omega
  · exact long

def entryLeaf (sec : Section) (entry : Int × Int) : Leaf :=
  let relocationBacked : Bool := entry.1 ∈ targets.relocationSlots
  if entry.2 ∈ targets.functionTargets then functionPointerLeaf entry.1 entry.2 sec relocationBacked false true
  else dataPointerLeaf entry.1 entry.2 sec relocationBacked false (entry.2 ∈ targets.knownDataTargets) true

/-- The least of some confidences, which are at most 1. -/
def minConfidence (confidences : List Rat) : Rat := confidences.foldl min 1

/-- The record of a table. Its confidence has two decimals as it is. -/
def tableRecord (sec : Section) (run : List (Int × Int)) : DataTypeRecord :=
  let allFunctions : Bool := run.all fun entry => entry.2 ∈ targets.functionTargets
  let confidence := minConfidence (run.map fun entry => (entryLeaf targets sec entry).record.confidence)
  { address := (run.head?.map (·.1)).getD 0
    sectionName := sec.name
    typeName := if allFunctions then .functionPointerTable else .pointerTable
    size := run.length * 4
    targetAddress := none
    count := some run.length
    elementType := some (if allFunctions then .functionPointer else .pointer)
    elementSize := some 4
    confidence := if relocationCount targets run = run.length then confidence else min confidence (19 / 20)
    evidence := [s!"{run.length} consecutive mapped aligned pointer-like entries",
      s!"{relocationCount targets run} relocation-backed entries", s!"{identityCount targets run} exact known target identities"]
    fields := [] }

/-- The tables, the leaves and the ranges of known objects in the course of the scan. -/
structure TableScan where
  tables : List DataTypeRecord
  leaves : Dict Int Leaf
  reserved : List Span
deriving DecidableEq

def TableScan.accept (scan : TableScan) (sec : Section) (run : List (Int × Int)) : TableScan where
  tables := scan.tables ++ [tableRecord targets sec run]
  leaves := run.foldl (fun leaves entry => leaves.set entry.1 (entryLeaf targets sec entry)) scan.leaves
  reserved := scan.reserved ++ [(tableRecord targets sec run).range]

/-- The loop over the slots of a section. -/
def tableLoop (sec : Section) (scan : TableScan) (address : Int) : TableScan :=
  if address + 4 ≤ sec.addr + sec.size then
    if insideRanges address scan.reserved ∨ pointerWord elf sec address = none then tableLoop sec scan (address + 4)
    else
      let run := pointerRun elf sec scan.reserved address
      if _qualified : qualifies targets run then tableLoop sec (scan.accept targets sec run) (address + 4 * run.length)
      else tableLoop sec scan (max (address + 4) (address + 4 * run.length))
  else scan
termination_by (sec.addr + sec.size - address).toNat
decreasing_by
  · omega
  · have long : 2 ≤ (pointerRun elf sec scan.reserved address).length := qualifies_length _qualified
    omega
  · omega

/-- `(address + 3) & ~3`. -/
def alignSlot (address : Int) : Int := (address + 3) / 4 * 4

def scanPointerTables (reserved : List Span) : TableScan :=
  (storageSections elf).foldl (fun scan sec => tableLoop elf targets sec scan (alignSlot sec.addr)) ⟨[], [], reserved⟩

end Tables

section Standalone
variable (elf : ElfImage) (targets : Targets) (slotAnchors : List Int) (reserved : List Span)

/-- The leaf for a slot outside of the tables. -/
def standaloneLeaf (sec : Section) (address : Int) : Option Leaf :=
  match safeWord elf sec address with
  | none => none
  | some value =>
    let relocationBacked : Bool := address ∈ targets.relocationSlots
    let anchorBacked : Bool := address ∈ slotAnchors
    if value ∈ targets.functionTargets ∧ (relocationBacked ∨ anchorBacked) then
      some (functionPointerLeaf address value sec relocationBacked anchorBacked false)
    else
      let identityBacked : Bool := value ∈ targets.knownDataTargets
      if (allocatedSection elf value false).isNone ∨ ¬(relocationBacked ∨ (identityBacked ∧ anchorBacked)) then none
      else some (dataPointerLeaf address value sec relocationBacked anchorBacked identityBacked false)

/-- `range(start, end - 3, 4)` for a section. -/
def slotAddresses (sec : Section) : List Int :=
  let start := alignSlot sec.addr
  (List.range ((sec.addr + sec.size - start) / 4).toNat).map fun index : Nat => start + 4 * index

def standaloneStep (sec : Section) (found : List DataTypeRecord × Dict Int Leaf) (address : Int) :
    List DataTypeRecord × Dict Int Leaf :=
  if address ∈ found.2.keys ∨ insideRanges address reserved then found
  else
    match standaloneLeaf elf targets slotAnchors sec address with
    | none => found
    | some leaf => (found.1 ++ [leaf.record], found.2.set address leaf)

def scanStandaloneLeaves (leaves : Dict Int Leaf) : List DataTypeRecord × Dict Int Leaf :=
  (storageSections elf).foldl (fun found sec =>
    (slotAddresses sec).foldl (standaloneStep elf targets slotAnchors reserved sec) found) ([], leaves)

end Standalone

section Structs
variable (elf : ElfImage) (leaves : Dict Int Leaf) (strongRecords : List DataTypeRecord)

def strongRecordsOf (records : List DataTypeRecord) : List DataTypeRecord := records.filter fun record => record.typeName ∈ strongRangeTypes

def strongObjectRanges (records : List DataTypeRecord) : List Span :=
  ((strongRecordsOf records).map (·.range)).insertionSort fun first second => toLex first ≤ toLex second

def strongStarts (records : List DataTypeRecord) : List Int := ((strongRecordsOf records).map (·.address)).insertionSort (· ≤ ·)

def structLimit : Int := 64

/-- The addresses of the leaves, in order. -/
def leafAddresses : List Int := leaves.keys.insertionSort (· ≤ ·)

def fieldOf (anchor : Int) (leaf : Leaf) (address : Int) : TypedFieldRecord :=
  ⟨address - anchor, leaf.record.typeName, leaf.record.targetAddress, leaf.record.confidence, leaf.record.evidence⟩

def structFields (anchor upper : Int) : List TypedFieldRecord :=
  (leafAddresses leaves).filterMap fun address =>
    if address < anchor ∨ upper < address + 4 then none
    else ((leaves.get? address).filter fun leaf => leaf.record.typeName ∈ leafTypes).map fun leaf => fieldOf anchor leaf address

/-- `leaves[address].relocation_backed`, counted over some offsets. -/
def backedCount (anchor : Int) (offsets : List Int) : Nat :=
  offsets.countP fun offset => (leaves.get? (anchor + offset)).any (·.relocationBacked)

def backedConfidence (count : Nat) : Rat := if 2 ≤ count then 4 / 5 else if count = 1 then 3 / 4 else 13 / 20

/-- The end of the space for a structure: the limit, the end of its section, or the next known object. -/
def structUpper (sec : Section) (anchor : Int) : Int :=
  let upper := min (anchor + structLimit) (sec.addr + sec.size)
  ((strongStarts strongRecords).find? fun start => anchor < start ∧ start < upper).getD upper

def structCandidate (anchor : Int) : Option DataTypeRecord :=
  match storageSection elf anchor with
  | none => none
  | some sec =>
    if insideRanges anchor (strongObjectRanges strongRecords) then none
    else
      let fields := structFields leaves anchor (structUpper strongRecords sec anchor)
      if fields.length < 2 then none
      else
        let relocationFields := backedCount leaves anchor (fields.map (·.offset))
        some
          { address := anchor
            sectionName := sec.name
            typeName := .structCandidate
            size := min structLimit ((fields.map (·.offset + 4)).foldl max 0)
            targetAddress := none
            count := none
            elementType := none
            elementSize := none
            confidence := backedConfidence relocationFields
            evidence := [s!"anchored data object with {fields.length} accepted typed fields",
              s!"{relocationFields} relocation-backed fields"]
            fields := fields }

def inferStructCandidates (anchors : List Int) : List DataTypeRecord :=
  (anchors.dedup.insertionSort (· ≤ ·)).filterMap (structCandidate elf leaves strongRecords)

end Structs

section Arrays
variable (elf : ElfImage) (leaves : Dict Int Leaf) (strongRecords : List DataTypeRecord)

def arraySizes : List Nat := [8, 12, 16, 20, 24, 32, 48, 64]

def recordSignature (start size : Int) : List (Int × DataTypeName) :=
  (leafAddresses leaves).filterMap fun address =>
    if start ≤ address ∧ address < start + size then
      ((leaves.get? address).filter fun leaf => leaf.record.typeName ∈ leafTypes).map fun leaf => (address - start, leaf.record.typeName)
    else none

def recordConfidence (start : Int) (signature : List (Int × DataTypeName)) : Rat :=
  backedConfidence (backedCount leaves start (signature.map (·.1)))

/-- The loop over the elements behind the first one: how many there are in all, and their confidences. -/
def elementLoop (sec : Section) (anchor : Int) (elementSize : Nat) (signature : List (Int × DataTypeName)) (count : Nat)
    (confidences : List Rat) : Nat × List Rat :=
  let start := anchor + count * elementSize
  if _stop : elementSize = 0 ∨ sec.addr + sec.size < start + elementSize then (count, confidences)
  else if overlapsRanges start (start + elementSize) (strongObjectRanges strongRecords) then (count, confidences)
  else if recordSignature leaves start elementSize ≠ signature then (count, confidences)
  else elementLoop sec anchor elementSize signature (count + 1) (confidences ++ [recordConfidence leaves start signature])
termination_by (sec.addr + sec.size - (anchor + count * elementSize)).toNat
decreasing_by
  have positive : 0 < elementSize := Nat.pos_of_ne_zero (not_or.mp _stop).1
  have next : ((count + 1 : Nat) : Int) * elementSize = count * elementSize + elementSize := by push_cast; ring
  omega

def arrayCandidate (anchor : Int) (elementSize : Nat) : Option DataTypeRecord :=
  match storageSection elf anchor with
  | none => none
  | some sec =>
    if sec.addr + sec.size < anchor + elementSize * 2 then none
    else
      let signature := recordSignature leaves anchor elementSize
      if signature.length < 2 then none
      else
        let elements := elementLoop leaves strongRecords sec anchor elementSize signature 1 [recordConfidence leaves anchor signature]
        if elements.1 < 2 then none
        else some
          { address := anchor
            sectionName := sec.name
            typeName := .arrayCandidate
            size := elementSize * elements.1
            targetAddress := none
            count := some elements.1
            elementType := some .structCandidate
            elementSize := some elementSize
            -- The confidence has two decimals as it is.
            confidence := max (3 / 5) (min (3 / 4) (minConfidence elements.2 - 1 / 20))
            evidence := [s!"{elements.1} consecutive records share typed-field signature", s!"fixed element size {elementSize}"]
            fields := signature.filterMap fun field =>
              (leaves.get? (anchor + field.1)).map fun leaf => { fieldOf anchor leaf (anchor + field.1) with typeName := field.2 } }

def inferArrayCandidates (structs : List DataTypeRecord) : List DataTypeRecord :=
  structs.flatMap fun struct => arraySizes.filterMap (arrayCandidate elf leaves strongRecords struct.address)

end Arrays

section Conflicts

/-- `_candidate_key`. -/
def candidateKey (record : DataTypeRecord) : Nat ×ₗ Rat ×ₗ String ×ₗ Int ×ₗ List String :=
  toLex (record.typeName.precedence, toLex (-record.confidence, toLex (record.typeName.value, toLex (record.size, record.evidence))))

def tieKey (record : DataTypeRecord) : String ×ₗ Int ×ₗ List String :=
  toLex (record.typeName.value, toLex (record.size, record.evidence))

/-- What tells the records of one address apart. -/
def fingerprint (record : DataTypeRecord) : DataTypeRecord :=
  { record with address := 0, sectionName := "", fields := record.fields.map fun field => { field with evidence := [] } }

def uniqueRecords (records : List DataTypeRecord) : List DataTypeRecord :=
  Dict.values (records.foldl (fun unique record => Dict.set unique (fingerprint record) record) [])

/-- The records that are left for an address: those of the best precedence with the highest confidence. -/
def tiedRecords (records : List DataTypeRecord) : List DataTypeRecord :=
  let sorted := (uniqueRecords records).insertionSort fun first second => candidateKey first ≤ candidateKey second
  let same := sorted.filter fun record => some record.typeName.precedence = sorted.head?.map (·.typeName.precedence)
  let tied := same.filter fun record => same.all fun other => other.confidence ≤ record.confidence
  tied.insertionSort fun first second => tieKey first ≤ tieKey second

def conflictWarning (address : Int) (tied : List DataTypeRecord) : String :=
  s!"Resolved same-precedence type conflict at 0x{addressDigits address}: " ++
    ", ".intercalate (tied.map fun item => s!"{item.typeName.value}/0x{hex item.size}")

def candidatesAt (candidates : List DataTypeRecord) (address : Int) : List DataTypeRecord :=
  candidates.filter fun record => record.address = address

def candidateAddresses (candidates : List DataTypeRecord) : List Int :=
  (candidates.map (·.address)).dedup.insertionSort (· ≤ ·)

def chosenRecords (candidates : List DataTypeRecord) : List DataTypeRecord :=
  (candidateAddresses candidates).filterMap fun address => (tiedRecords (candidatesAt candidates address)).head?

def finalKey (record : DataTypeRecord) : Int ×ₗ Nat ×ₗ String ×ₗ Int :=
  toLex (record.address, toLex (record.typeName.precedence, toLex (record.typeName.value, record.size)))

/-- `_resolve_conflicts`: the records that are kept, and the warnings. -/
def resolveConflicts (candidates : List DataTypeRecord) : List DataTypeRecord × List String :=
  let chosen := chosenRecords candidates
  let reserved := strongObjectRanges chosen
  ((chosen.filter fun record => record.typeName ∈ strongRangeTypes ∨ ¬insideRanges record.address reserved).insertionSort
      fun first second => finalKey first ≤ finalKey second,
    (candidateAddresses candidates).filterMap fun address =>
      let tied := tiedRecords (candidatesAt candidates address)
      if 1 < tied.length then some (conflictWarning address tied) else none)

end Conflicts

section Analysis
variable (model : ExecutableModel) (disassembly : DisassemblyResult) (elf : ElfImage)

/-- What is known before the scans: the symbols and the addresses that something refers to. -/
def knownTargets : Targets where
  relocationSlots := (safeRelocationSlots model elf).1
  functionTargets := functionTargets model disassembly
  knownDataTargets := disassembly.strings.map (·.address) ++ disassembly.jumpTables.map (·.address) ++
    dataSymbolAddresses disassembly elf ++ variableAddresses model

def slotAnchors : List Int := referenceSlotAnchors disassembly elf ++ dataSymbolAddresses disassembly elf ++ variableAddresses model

def seededRanges : List Span := (seedExistingTypes disassembly elf).map (·.range)

def pointerTables : TableScan := scanPointerTables elf (knownTargets model disassembly elf) (seededRanges disassembly elf)

/-- The starts of the tables are known as well once the tables are. -/
def laterTargets : Targets :=
  let known := knownTargets model disassembly elf
  { known with knownDataTargets := known.knownDataTargets ++ (pointerTables model disassembly elf).tables.map (·.address) }

def standaloneLeaves : List DataTypeRecord × Dict Int Leaf :=
  let scan := pointerTables model disassembly elf
  scanStandaloneLeaves elf (laterTargets model disassembly elf) (slotAnchors model disassembly elf) scan.reserved scan.leaves

def strongRecords : List DataTypeRecord := seedExistingTypes disassembly elf ++ (pointerTables model disassembly elf).tables

def structs : List DataTypeRecord :=
  inferStructCandidates elf (standaloneLeaves model disassembly elf).2 (strongRecords model disassembly elf)
    (structAnchors model disassembly (dataSymbolAddresses disassembly elf)
      ((pointerTables model disassembly elf).tables.map (·.address)))

def arrays : List DataTypeRecord :=
  inferArrayCandidates elf (standaloneLeaves model disassembly elf).2 (strongRecords model disassembly elf)
    (structs model disassembly elf)

def candidates : List DataTypeRecord :=
  seedExistingTypes disassembly elf ++ (pointerTables model disassembly elf).tables ++ (standaloneLeaves model disassembly elf).1 ++
    structs model disassembly elf ++ arrays model disassembly elf

/-- The part of a `DataTypingResult` that the typing itself builds. -/
structure DataTypingResult where
  dataTypes : List DataTypeRecord
  warnings : List String

def analyzeDataTypes : DataTypingResult :=
  let resolved := resolveConflicts (candidates model disassembly elf)
  ⟨resolved.1, ((safeRelocationSlots model elf).2 ++ resolved.2).dedup.insertionSort (· ≤ ·)⟩

end Analysis

end DataTyping

end PspDisasm
