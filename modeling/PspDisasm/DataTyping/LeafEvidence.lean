import PspDisasm.DataTyping.PointerTyping

namespace PspDisasm
open Foundations

namespace DataTyping

/-- A word of storage: of an allocated section with bytes in the file that holds no code. -/
structure StoredWord (elf : ElfImage) (sec : Section) (slot target : Int) : Prop where
  listed : sec ∈ elf.sections
  allocated : 0 < sec.size ∧ sec.flags &&& shfAlloc ≠ 0
  fileBacked : sec.type ≠ shtNobits
  storage : sec.flags &&& shfExecinstr = 0
  aligned : slot % 4 = 0
  lower : sec.addr ≤ slot
  upper : slot + 4 ≤ sec.addr + sec.size
  inFile : 0 ≤ sec.offset + slot - sec.addr ∧ sec.offset + slot - sec.addr + 4 ≤ elf.rawData.length
  word : target = wordAt .little elf.rawData (sec.offset + slot - sec.addr).toNat 4

section Evidence
variable (model : ExecutableModel) (disassembly : DisassemblyResult) (elf : ElfImage)

/-- What speaks for a pointer in a slot: a relocation there, an anchor there with a target that is known, or a table
of enough pointers that the slot is in. -/
inductive Corroborated (sec : Section) (slot target : Int) : Prop
  | relocation (relocation : Relocation) : relocation ∈ model.relocations →
      safeRelocationSlot model elf relocation = some slot → Corroborated sec slot target
  | anchor : slot ∈ slotAnchors model disassembly elf →
      target ∈ functionTargets model disassembly ∨ IsKnownData model disassembly elf target → Corroborated sec slot target
  | table (first : Int) (length : Nat) : ImageTable model disassembly elf sec first length → SlotIn first length slot →
      qualifies (knownTargets model disassembly elf) (runEntries elf sec first length) = true → Corroborated sec slot target

/-- A record that types a slot as a pointer to what its word points to, with a reason for it. -/
def ConservativeLeaf (slot : Int) (record : DataTypeRecord) : Prop :=
  ∃ sec target, StoredWord elf sec slot target ∧ record.address = slot ∧ record.sectionName = sec.name ∧
    record.targetAddress = some target ∧
    ((record.typeName = .functionPointer ∧ target ∈ functionTargets model disassembly) ∨
      (record.typeName = .pointer ∧ (allocatedSection elf target false).isSome)) ∧
    Corroborated model disassembly elf sec slot target

end Evidence

section Leaves
variable {model : ExecutableModel} {disassembly : DisassemblyResult} {elf : ElfImage} {sec : Section} {slot target : Int}
  {leaf : Leaf} {record : DataTypeRecord}

theorem mem_storageSections : sec ∈ storageSections elf ↔
    sec ∈ elf.sections ∧ isAllocated sec = true ∧ sec.flags &&& shfExecinstr = 0 ∧ sec.type ≠ shtNobits := by
  rw [storageSections, List.mem_insertionSort, List.mem_filter, decide_eq_true_eq]

theorem storedWord (storage : sec ∈ storageSections elf) (read : safeWord elf sec slot = some target) :
    StoredWord elf sec slot target := by
  obtain ⟨listed, allocated, data, fileBacked⟩ := mem_storageSections.mp storage
  obtain ⟨aligned, lower, upper⟩ := safeWord_inside read
  unfold safeWord at read
  rw [if_neg (not_not.mpr aligned), if_neg (by omega)] at read
  dsimp only at read
  split at read
  · cases read
  · rename_i inFile
    exact ⟨listed, of_decide_eq_true allocated, fileBacked, data, aligned, lower, upper, by omega, (Option.some.inj read).symm⟩

theorem mem_safeRelocationSlots : slot ∈ (safeRelocationSlots model elf).1 ↔
    ∃ relocation ∈ model.relocations, safeRelocationSlot model elf relocation = some slot := by
  simp only [safeRelocationSlots, List.mem_filterMap, List.mem_insertionSort]

theorem functionLeaf_conservative {relocationBacked anchorBacked tableBacked : Bool} (storage : sec ∈ storageSections elf)
    (read : safeWord elf sec slot = some target) (known : target ∈ functionTargets model disassembly)
    (corroborated : Corroborated model disassembly elf sec slot target) : ConservativeLeaf model disassembly elf slot
      (functionPointerLeaf slot target sec relocationBacked anchorBacked tableBacked).record :=
  ⟨sec, target, storedWord storage read, rfl, rfl, rfl, Or.inl ⟨rfl, known⟩, corroborated⟩

theorem dataLeaf_conservative {relocationBacked anchorBacked identityBacked tableBacked : Bool} (storage : sec ∈ storageSections elf)
    (read : safeWord elf sec slot = some target) (mapped : (allocatedSection elf target false).isSome)
    (corroborated : Corroborated model disassembly elf sec slot target) : ConservativeLeaf model disassembly elf slot
      (dataPointerLeaf slot target sec relocationBacked anchorBacked identityBacked tableBacked).record :=
  ⟨sec, target, storedWord storage read, rfl, rfl, rfl, Or.inr ⟨rfl, mapped⟩, corroborated⟩

/-- An entry of a table is a pointer, and the table speaks for it. -/
theorem entryLeaf_conservative {first : Int} {length : Nat} {entry : Int × Int}
    (table : ImageTable model disassembly elf sec first length) (listed : entry ∈ runEntries elf sec first length) :
    ConservativeLeaf model disassembly elf entry.1 (entryLeaf (knownTargets model disassembly elf) sec entry).record := by
  obtain ⟨_, storage, qualified, free⟩ := IsTable.free table
  obtain ⟨index, below, rfl⟩ := mem_runEntries.mp listed
  obtain ⟨target, word⟩ := Option.isSome_iff_exists.mp (free index below).1
  obtain ⟨read, mapped⟩ := pointerWord_eq_some.mp word
  have member : Corroborated model disassembly elf sec (first + 4 * index) target :=
    .table first length table ⟨index, below, rfl⟩ qualified
  rw [word, Option.getD_some]
  unfold entryLeaf
  dsimp only
  split
  · rename_i known
    exact functionLeaf_conservative storage read known member
  · exact dataLeaf_conservative storage read mapped member

/-- A leaf outside of the tables has a relocation, or an anchor and a known target. -/
theorem standaloneLeaf_conservative (storage : sec ∈ storageSections elf)
    (typed : standaloneLeaf elf (laterTargets model disassembly elf) (slotAnchors model disassembly elf) sec slot = some leaf) :
    ConservativeLeaf model disassembly elf slot leaf.record := by
  have relocated : slot ∈ (laterTargets model disassembly elf).relocationSlots → ∀ target,
      Corroborated model disassembly elf sec slot target := fun backed target => by
    obtain ⟨relocation, listed, place⟩ := mem_safeRelocationSlots.mp backed
    exact .relocation relocation listed place
  unfold standaloneLeaf at typed
  split at typed
  · cases typed
  rename_i target read
  simp only [decide_eq_true_eq] at typed
  split at typed
  · rename_i evidence
    cases typed
    exact functionLeaf_conservative storage read evidence.1
      (evidence.2.elim (fun backed => relocated backed target) fun anchored => .anchor anchored (Or.inl evidence.1))
  · split at typed
    · cases typed
    · rename_i evidence
      obtain ⟨mapped, backed⟩ := not_or.mp evidence
      cases typed
      refine dataLeaf_conservative storage read (Option.isSome_iff_ne_none.mpr fun none => mapped (by simp [none])) ?_
      rcases not_not.mp backed with backed | ⟨known, anchored⟩
      · exact relocated backed target
      · exact .anchor anchored (Or.inr (mem_laterTargets.mp known))

theorem accept_get? {P : Int → Leaf → Prop} {targets : Targets} (accepted : List (Section × List (Int × Int))) (scan : TableScan)
    (old : ∀ slot leaf, scan.leaves.get? slot = some leaf → P slot leaf)
    (new : ∀ item ∈ accepted, ∀ entry ∈ item.2, P entry.1 (entryLeaf targets item.1 entry)) : ∀ slot leaf,
      (accepted.foldl (fun scan item => scan.accept targets item.1 item.2) scan).leaves.get? slot = some leaf → P slot leaf := by
  have entries : ∀ (sec : Section) (run : List (Int × Int)) (leaves : Dict Int Leaf),
      (∀ slot leaf, leaves.get? slot = some leaf → P slot leaf) → (∀ entry ∈ run, P entry.1 (entryLeaf targets sec entry)) →
        ∀ slot leaf, Dict.get? (run.foldl (fun leaves entry => leaves.set entry.1 (entryLeaf targets sec entry)) leaves) slot =
          some leaf → P slot leaf := by
    intro sec run
    induction run with
    | nil => exact fun leaves old _ => old
    | cons entry run ih =>
      intro leaves old new
      obtain ⟨first, rest⟩ := List.forall_mem_cons.mp new
      exact ih _ (Dict.forall_set old first) rest
  induction accepted generalizing scan with
  | nil => exact old
  | cons item accepted ih =>
    obtain ⟨first, rest⟩ := List.forall_mem_cons.mp new
    exact ih _ (entries item.1 item.2 scan.leaves old first) rest

/-- All leaves that the scan of the tables leaves behind. -/
theorem tableLeaves_conservative : ∀ slot leaf, (pointerTables model disassembly elf).leaves.get? slot = some leaf →
    ConservativeLeaf model disassembly elf slot leaf.record := by
  rw [pointerTables, scanPointerTables, scanSections_eq]
  refine accept_get? _ _ (fun slot leaf found => by cases found) fun item listed entry member => ?_
  obtain ⟨first, length, table, same⟩ := acceptedRuns_iff.mp listed
  rw [same] at member
  exact entryLeaf_conservative table member

/-- All leaves, those of the tables and the others. -/
theorem leaves_conservative : ∀ slot leaf, (standaloneLeaves model disassembly elf).2.get? slot = some leaf →
    ConservativeLeaf model disassembly elf slot leaf.record := by
  have sites : ∀ site ∈ scanSites elf, site.1 ∈ storageSections elf := by
    intro site listed
    obtain ⟨sec, storage, place⟩ := List.mem_flatMap.mp listed
    obtain ⟨_, _, rfl⟩ := List.mem_map.mp place
    exact storage
  rw [standaloneLeaves, scanStandaloneLeaves_eq]
  generalize (pointerTables model disassembly elf).reserved = reserved
  have start : ∀ slot leaf, (([], (pointerTables model disassembly elf).leaves) : List DataTypeRecord × Dict Int Leaf).2.get? slot =
      some leaf → ConservativeLeaf model disassembly elf slot leaf.record := tableLeaves_conservative
  generalize (([], (pointerTables model disassembly elf).leaves) : List DataTypeRecord × Dict Int Leaf) = found at start ⊢
  generalize scanSites elf = list at sites
  induction list generalizing found with
  | nil => exact start
  | cons site rest ih =>
    obtain ⟨storage, later⟩ := List.forall_mem_cons.mp sites
    refine ih _ ?_ later
    unfold standaloneStep
    dsimp only
    split
    · exact start
    · split
      · exact start
      · rename_i leaf typed
        exact Dict.forall_set start (standaloneLeaf_conservative storage typed)

end Leaves

section Uses
variable {model : ExecutableModel} {disassembly : DisassemblyResult} {elf : ElfImage} {leaves : Dict Int Leaf}
  {strongRecords : List DataTypeRecord} {anchor upper : Int} {record : DataTypeRecord} {field : TypedFieldRecord}

/-- A field is the leaf at its place. -/
def FieldIsLeaf (leaves : Dict Int Leaf) (record : DataTypeRecord) (field : TypedFieldRecord) : Prop :=
  ∃ leaf, leaves.get? (record.address + field.offset) = some leaf ∧ field.typeName = leaf.record.typeName ∧
    field.targetAddress = leaf.record.targetAddress

theorem structFields_leaf (listed : field ∈ structFields leaves anchor upper) :
    ∃ leaf, leaves.get? (anchor + field.offset) = some leaf ∧ field.typeName = leaf.record.typeName ∧
      field.targetAddress = leaf.record.targetAddress := by
  obtain ⟨address, _, typed⟩ := List.mem_filterMap.mp listed
  split at typed
  · cases typed
  · obtain ⟨leaf, found, rfl⟩ := Option.map_eq_some_iff.mp typed
    refine ⟨leaf, ?_, rfl, rfl⟩
    rw [fieldOf, add_sub_cancel]
    exact (Option.filter_eq_some_iff.mp found).1

theorem structCandidate_fields (found : structCandidate elf leaves strongRecords anchor = some record)
    (listed : field ∈ record.fields) : FieldIsLeaf leaves record field := by
  unfold structCandidate at found
  split at found
  · cases found
  split at found
  · cases found
  dsimp only at found
  split at found
  · cases found
  cases found
  exact structFields_leaf listed

theorem recordSignature_leaf {start size : Int} {entry : Int × DataTypeName} (listed : entry ∈ recordSignature leaves start size) :
    ∃ leaf, leaves.get? (start + entry.1) = some leaf ∧ entry.2 = leaf.record.typeName := by
  obtain ⟨address, _, typed⟩ := List.mem_filterMap.mp listed
  split at typed
  · obtain ⟨leaf, found, rfl⟩ := Option.map_eq_some_iff.mp typed
    refine ⟨leaf, ?_, rfl⟩
    rw [add_sub_cancel]
    exact (Option.filter_eq_some_iff.mp found).1
  · cases typed

/-- The fields of an array are those of its first element. -/
theorem arrayCandidate_fields {elementSize : Nat} (found : arrayCandidate elf leaves strongRecords anchor elementSize = some record)
    (listed : field ∈ record.fields) : FieldIsLeaf leaves record field := by
  unfold arrayCandidate at found
  split at found
  · cases found
  split at found
  · cases found
  dsimp only at found
  split at found
  · cases found
  split at found
  · cases found
  cases found
  obtain ⟨entry, signed, typed⟩ := List.mem_filterMap.mp listed
  obtain ⟨leaf, known, rfl⟩ := Option.map_eq_some_iff.mp typed
  obtain ⟨same, again, name⟩ := recordSignature_leaf signed
  cases known.symm.trans again
  refine ⟨leaf, ?_, name, rfl⟩
  rw [fieldOf, add_sub_cancel_left]
  exact known

theorem standaloneLeaf_fields {targets : Targets} {slotAnchors : List Int} {sec : Section} {slot : Int} {leaf : Leaf}
    (typed : standaloneLeaf elf targets slotAnchors sec slot = some leaf) : leaf.record.fields = [] := by
  unfold standaloneLeaf at typed
  split at typed
  · cases typed
  dsimp only at typed
  split at typed
  · cases typed
    rfl
  split at typed
  · cases typed
  · cases typed
    rfl

theorem dataTypes_subset (listed : record ∈ (analyzeDataTypes model disassembly elf).dataTypes) :
    @Origin model disassembly elf record :=
  mem_candidates.mp (chosenRecords_subset (mem_resolveConflicts.mp listed).1)

theorem dataTypes_fields (listed : record ∈ (analyzeDataTypes model disassembly elf).dataTypes) (member : field ∈ record.fields) :
    FieldIsLeaf (standaloneLeaves model disassembly elf).2 record field := by
  cases dataTypes_subset listed with
  | seed seeded =>
    rcases List.mem_append.mp seeded with string | jump
    · obtain ⟨_, _, rfl⟩ := List.mem_map.mp string
      cases member
    · obtain ⟨_, _, rfl⟩ := List.mem_map.mp jump
      cases member
  | table table =>
    obtain ⟨_, _, _, _, rfl⟩ := mem_tables.mp table
    cases member
  | leaf leaf =>
    obtain ⟨_, _, _, _, typed, rfl⟩ := standaloneLeaves_spec.origin record leaf
    rw [standaloneLeaf_fields typed] at member
    cases member
  | struct struct => exact structCandidate_fields (mem_structs struct) member
  | array array =>
    obtain ⟨struct, _, place, _, _, found⟩ := mem_arrays.mp array
    exact arrayCandidate_fields found member

theorem dataTypes_leaf (listed : record ∈ (analyzeDataTypes model disassembly elf).dataTypes) (leaf : record.typeName ∈ leafTypes) :
    ConservativeLeaf model disassembly elf record.address record := by
  have other : ∀ names : List DataTypeName, record.typeName ∈ names → (∀ name ∈ names, name ∉ leafTypes) → False :=
    fun names typed plain => plain _ typed leaf
  cases dataTypes_subset listed with
  | seed seed => exact (other [.string, .jumpTable] (List.mem_pair.mpr (seed_type seed)) (by decide)).elim
  | table table => exact (other tableTypes (table_type table) (by decide)).elim
  | leaf leaf =>
    obtain ⟨sec, found, site, _, typed, same⟩ := standaloneLeaves_spec.origin record leaf
    obtain ⟨owner, storage, place⟩ := List.mem_flatMap.mp site
    obtain ⟨_, _, pair⟩ := List.mem_map.mp place
    obtain ⟨rfl, _⟩ := Prod.ext_iff.mp pair
    have conservative := standaloneLeaf_conservative storage typed
    rwa [same] at conservative
  | struct struct => exact (other [.structCandidate] (List.mem_singleton.mpr (struct_type struct)) (by decide)).elim
  | array array => exact (other [.arrayCandidate] (List.mem_singleton.mpr (array_type array)) (by decide)).elim

/-- Each slot of a table has a leaf. -/
theorem dataTypes_table {span : Span} (listed : record ∈ (analyzeDataTypes model disassembly elf).dataTypes)
    (table : record.typeName ∈ tableTypes) (slot : span ∈ record.slots) :
    ∃ leaf, (standaloneLeaves model disassembly elf).2.get? span.1 = some leaf := by
  have other : ∀ names : List DataTypeName, record.typeName ∈ names → (∀ name ∈ names, name ∉ tableTypes) → False :=
    fun names typed plain => plain _ typed table
  cases dataTypes_subset listed with
  | seed seed => exact (other [.string, .jumpTable] (List.mem_pair.mpr (seed_type seed)) (by decide)).elim
  | table table =>
    obtain ⟨owner, first, length, image, rfl⟩ := mem_tables.mp table
    obtain ⟨place, inside, rfl⟩ := (tableRecord_slots image.spec.1).mp slot
    have key := mem_pointerTables_leaves.mpr ⟨owner, first, length, image, inside⟩
    exact Dict.get?_of_key ((standaloneLeaves_spec.keys place).mpr (Or.inl key))
  | leaf leaf => exact (other leafTypes (leaf_type leaf) (by decide)).elim
  | struct struct => exact (other [.structCandidate] (List.mem_singleton.mpr (struct_type struct)) (by decide)).elim
  | array array => exact (other [.arrayCandidate] (List.mem_singleton.mpr (array_type array)) (by decide)).elim

end Uses

structure FunctionRecord where
  name : String
  address : Int

/-- A reference with the place and the function that it is made in. -/
structure CodeReference extends ReferenceRecord where
  sourceAddress : Int
  sourceFunction : Option String

/-- What the typing and the call edges read of a disassembly. -/
structure CodeResult where
  functions : List FunctionRecord
  symbols : List Int
  references : List CodeReference
  strings : List StringRecord
  jumpTables : List JumpTableRecord

def CodeResult.disassembly (code : CodeResult) : DisassemblyResult where
  functions := code.functions.map (·.address)
  symbols := code.symbols
  references := code.references.map (·.toReferenceRecord)
  strings := code.strings
  jumpTables := code.jumpTables

structure TypedCallEdge where
  sourceFunction : String
  targetFunction : String
  sourceAddress : Int
  targetAddress : Int
  kind : String
  evidence : List String
deriving DecidableEq

section Edges
variable (code : CodeResult) (leaves : Dict Int Leaf)

/-- `{function.address: function.name for function in functions}`. -/
def functionNames : Dict Int String :=
  code.functions.foldl (fun names function => names.set function.address function.name) []

def typedCallEdge (reference : CodeReference) : Option TypedCallEdge :=
  match reference.sourceFunction with
  | none => none
  | some sourceFunction =>
    if reference.kind ≠ "indirect_call" then none
    else
      match (leaves.get? reference.targetAddress).filter fun leaf => leaf.record.typeName = .functionPointer with
      | none => none
      | some leaf =>
        match leaf.record.targetAddress with
        | none => none
        | some targetAddress =>
          ((functionNames code).get? targetAddress).map fun targetFunction =>
            { sourceFunction, targetFunction, sourceAddress := reference.sourceAddress, targetAddress
              kind := "typed_indirect"
              evidence := [s!"existing indirect_call reference targets slot 0x{addressDigits reference.targetAddress}",
                s!"slot classified as function_pointer to 0x{addressDigits targetAddress}"] }

abbrev EdgeKey := String × String × Int × Int × String

def TypedCallEdge.key (edge : TypedCallEdge) : EdgeKey :=
  (edge.sourceFunction, edge.targetFunction, edge.sourceAddress, edge.targetAddress, edge.kind)

def TypedCallEdge.order (edge : TypedCallEdge) : Int ×ₗ Int ×ₗ String ×ₗ String ×ₗ String :=
  toLex (edge.sourceAddress, toLex (edge.targetAddress, toLex (edge.sourceFunction, toLex (edge.targetFunction, edge.kind))))

/-- `_typed_call_edges`: of the edges that differ in their evidence only the last one counts. -/
def typedCallEdges : List TypedCallEdge :=
  let edges : Dict EdgeKey TypedCallEdge :=
    (code.references.filterMap (typedCallEdge code leaves)).foldl (fun edges edge => edges.set edge.key edge) []
  edges.values.insertionSort fun first second => first.order ≤ second.order

end Edges

/-- An edge is that of an indirect call through a slot that is typed as a function pointer. -/
def CallsThrough (code : CodeResult) (leaves : Dict Int Leaf) (edge : TypedCallEdge) : Prop :=
  edge.kind = "typed_indirect" ∧ ∃ reference ∈ code.references, reference.kind = "indirect_call" ∧
    reference.sourceFunction = some edge.sourceFunction ∧ reference.sourceAddress = edge.sourceAddress ∧
    ∃ leaf, leaves.get? reference.targetAddress = some leaf ∧ leaf.record.typeName = .functionPointer ∧
      leaf.record.targetAddress = some edge.targetAddress

theorem typedCallEdge_callsThrough {code : CodeResult} {leaves : Dict Int Leaf} {reference : CodeReference} {edge : TypedCallEdge}
    (listed : reference ∈ code.references) (typed : typedCallEdge code leaves reference = some edge) : CallsThrough code leaves edge := by
  unfold typedCallEdge at typed
  split at typed
  · cases typed
  rename_i sourceFunction source
  split at typed
  · cases typed
  rename_i indirect
  split at typed
  · cases typed
  rename_i leaf found
  split at typed
  · cases typed
  rename_i targetAddress target
  obtain ⟨targetFunction, _, rfl⟩ := Option.map_eq_some_iff.mp typed
  obtain ⟨known, function⟩ := Option.filter_eq_some_iff.mp found
  exact ⟨rfl, reference, listed, not_not.mp indirect, source, rfl, leaf, known, of_decide_eq_true function, target⟩

theorem mem_typedCallEdges {code : CodeResult} {leaves : Dict Int Leaf} {edge : TypedCallEdge}
    (listed : edge ∈ typedCallEdges code leaves) : CallsThrough code leaves edge := by
  rw [typedCallEdges, List.mem_insertionSort] at listed
  rcases Dict.mem_values_foldl_set listed with found | none
  · obtain ⟨reference, member, typed⟩ := List.mem_filterMap.mp found
    exact typedCallEdge_callsThrough member typed
  · cases none

/-- Whatever the sections, the relocations and the words are, the typing takes no word for a pointer without a reason. -/
theorem analyzeDataTypes_conservative (model : ExecutableModel) (code : CodeResult) (elf : ElfImage) :
    let typing := analyzeDataTypes model code.disassembly elf
    let leaves := (standaloneLeaves model code.disassembly elf).2
    (∀ slot leaf, leaves.get? slot = some leaf → ConservativeLeaf model code.disassembly elf slot leaf.record) ∧
    (∀ record ∈ typing.dataTypes, record.typeName ∈ leafTypes →
      ConservativeLeaf model code.disassembly elf record.address record) ∧
    (∀ record ∈ typing.dataTypes, record.typeName ∈ tableTypes → ∀ span ∈ record.slots,
      ∃ leaf, leaves.get? span.1 = some leaf) ∧
    (∀ record ∈ typing.dataTypes, ∀ field ∈ record.fields, FieldIsLeaf leaves record field) ∧
    ∀ edge ∈ typedCallEdges code leaves, CallsThrough code leaves edge :=
  ⟨leaves_conservative, fun _ => dataTypes_leaf, fun _ listed table _ => dataTypes_table listed table,
    fun _ listed _ => dataTypes_fields listed, fun _ => mem_typedCallEdges⟩

end DataTyping

end PspDisasm
