import PspDisasm.DataTyping.Aggregates
import Mathlib.Data.List.Pairwise

namespace PspDisasm
open Foundations

namespace DataTyping

/-- The slots that a record types as pointers. -/
def DataTypeRecord.slots (record : DataTypeRecord) : List Span :=
  if record.typeName ∈ tableTypes then
    (List.range (record.count.getD 0)).map fun index : Nat => (record.address + 4 * index, record.address + 4 * index + 4)
  else if record.typeName ∈ leafTypes then [(record.address, record.address + 4)]
  else []

section Typing
variable (model : ExecutableModel) (disassembly : DisassemblyResult) (elf : ElfImage)

/-- No pointer reaches into a seeded object, and no two tables meet. -/
structure RespectsObjects : Prop where
  slots : ∀ record ∈ (analyzeDataTypes model disassembly elf).dataTypes, ∀ slot ∈ record.slots,
    ∀ seed ∈ seededRanges disassembly elf, slot.Apart seed
  tables : (pointerTables model disassembly elf).tables.Pairwise fun first second => first.range.Apart second.range

/-- A seeded object starts behind the first byte of the slot, and none covers that byte. -/
def StraddlesSeed (slot : Int) : Prop :=
  ¬Inside (seededRanges disassembly elf) slot ∧ ∃ seed ∈ seededRanges disassembly elf, slot < seed.1 ∧ seed.1 < slot + 4

def ImageTable (owner : Section) (first : Int) (length : Nat) : Prop :=
  IsTable elf (knownTargets model disassembly elf) (storageSections elf) (Inside (seededRanges disassembly elf)) owner first length

def InTable (slot : Int) : Prop := ∃ owner first length, ImageTable model disassembly elf owner first length ∧ SlotIn first length slot

def IsKnownData (value : Int) : Prop :=
  value ∈ (knownTargets model disassembly elf).knownDataTargets ∨ ∃ owner length, ImageTable model disassembly elf owner value length

/-- The words that the scans take for pointers where no known object covers them. -/
def PointerEvidence (slot : Int) : Prop :=
  InTable model disassembly elf slot ∨ ∃ sec ∈ storageSections elf,
    BackedWord elf (knownTargets model disassembly elf) (slotAnchors model disassembly elf) (IsKnownData model disassembly elf) sec slot

end Typing

section Tables
variable {model : ExecutableModel} {disassembly : DisassemblyResult} {elf : ElfImage} {targets : Targets} {owner : Section}
  {first slot value : Int} {length : Nat} {record other : DataTypeRecord}

theorem tableRecord_place (nonempty : 0 < length) : (tableRecord targets owner (runEntries elf owner first length)).address = first ∧
    (tableRecord targets owner (runEntries elf owner first length)).count = some length := by
  simp only [tableRecord, runEntries_head nonempty, runEntries_length, Option.getD_some, and_self]

theorem tableRecord_type (run : List (Int × Int)) : (tableRecord targets owner run).typeName ∈ tableTypes := by
  dsimp only [tableRecord]
  split <;> decide

theorem tableRecord_slots (nonempty : 0 < length) {span : Span} :
    span ∈ (tableRecord targets owner (runEntries elf owner first length)).slots ↔
      ∃ slot, SlotIn first length slot ∧ span = (slot, slot + 4) := by
  obtain ⟨place, size⟩ := @tableRecord_place elf targets owner first length nonempty
  rw [DataTypeRecord.slots, if_pos (tableRecord_type _), place, size, Option.getD_some, List.mem_map]
  constructor
  · rintro ⟨index, below, rfl⟩
    exact ⟨_, ⟨index, List.mem_range.mp below, rfl⟩, rfl⟩
  · rintro ⟨_, ⟨index, below, rfl⟩, rfl⟩
    exact ⟨index, List.mem_range.mpr below, rfl⟩

theorem ImageTable.spec (table : ImageTable model disassembly elf owner first length) : 0 < length ∧ first % 4 = 0 ∧
    ∀ slot, SlotIn first length slot → slot % 4 = 0 ∧ ¬Inside (seededRanges disassembly elf) slot := by
  obtain ⟨nonempty, _, _, free⟩ := IsTable.free table
  refine ⟨nonempty, IsTable.aligned table, ?_⟩
  rintro slot ⟨index, below, rfl⟩
  exact ⟨(free index below).place.1, (free index below).2⟩

theorem slotIn_first (nonempty : 0 < length) : SlotIn first length first := ⟨0, nonempty, by omega⟩

theorem acceptedRuns_iff {run : List (Int × Int)} :
    (owner, run) ∈ acceptedRuns elf (knownTargets model disassembly elf) (storageSections elf) (seededRanges disassembly elf) ↔
      ∃ first length, ImageTable model disassembly elf owner first length ∧ run = runEntries elf owner first length :=
  mem_acceptedRuns fun _ _ => Iff.rfl

theorem pointerTables_tables : (pointerTables model disassembly elf).tables =
    (acceptedRuns elf (knownTargets model disassembly elf) (storageSections elf) (seededRanges disassembly elf)).map
      (acceptedTable (knownTargets model disassembly elf)) := by
  rw [pointerTables, scanPointerTables, scanSections_eq, accept_tables, List.nil_append]

/-- The tables that are found. -/
theorem mem_tables : record ∈ (pointerTables model disassembly elf).tables ↔ ∃ owner first length,
    ImageTable model disassembly elf owner first length ∧
      record = tableRecord (knownTargets model disassembly elf) owner (runEntries elf owner first length) := by
  rw [pointerTables_tables, List.mem_map]
  constructor
  · rintro ⟨⟨owner, run⟩, listed, rfl⟩
    obtain ⟨first, length, table, rfl⟩ := acceptedRuns_iff.mp listed
    exact ⟨owner, first, length, table, rfl⟩
  · rintro ⟨owner, first, length, table, rfl⟩
    exact ⟨(owner, _), acceptedRuns_iff.mpr ⟨first, length, table, rfl⟩, rfl⟩

theorem tables_apart :
    (pointerTables model disassembly elf).tables.Pairwise fun first second => first.range.Apart second.range := by
  rw [pointerTables_tables]
  exact List.pairwise_map.mpr acceptedRuns_apart

theorem inTable_iff (aligned : slot % 4 = 0) : InTable model disassembly elf slot ↔
    Inside ((pointerTables model disassembly elf).tables.map (·.range)) slot := by
  rw [inside_iff]
  constructor
  · rintro ⟨owner, first, length, table, inside⟩
    obtain ⟨nonempty, start, _⟩ := table.spec
    refine ⟨_, List.mem_map_of_mem (mem_tables.mpr ⟨owner, first, length, table, rfl⟩), ?_⟩
    rw [tableRecord_range nonempty]
    exact (inside_table aligned start).mpr inside
  · rintro ⟨range, listed, inside⟩
    obtain ⟨record, member, rfl⟩ := List.mem_map.mp listed
    obtain ⟨owner, first, length, table, rfl⟩ := mem_tables.mp member
    obtain ⟨nonempty, start, _⟩ := table.spec
    rw [tableRecord_range nonempty] at inside
    exact ⟨owner, first, length, table, (inside_table aligned start).mp inside⟩

theorem pointerTables_reserved : (pointerTables model disassembly elf).reserved =
    seededRanges disassembly elf ++ (pointerTables model disassembly elf).tables.map (·.range) := by
  rw [pointerTables_tables, pointerTables, scanPointerTables, scanSections_eq, accept_reserved, List.map_map]
  rfl

theorem mem_pointerTables_leaves : slot ∈ (pointerTables model disassembly elf).leaves.keys ↔ InTable model disassembly elf slot := by
  rw [pointerTables, scanPointerTables, scanSections_eq, accept_leaves]
  refine (or_iff_right List.not_mem_nil).trans ?_
  constructor
  · rintro ⟨⟨owner, run⟩, listed, entry, member, rfl⟩
    obtain ⟨first, length, table, rfl⟩ := acceptedRuns_iff.mp listed
    obtain ⟨index, below, rfl⟩ := mem_runEntries.mp member
    exact ⟨owner, first, length, table, index, below, rfl⟩
  · rintro ⟨owner, first, length, table, index, below, rfl⟩
    exact ⟨(owner, _), acceptedRuns_iff.mpr ⟨first, length, table, rfl⟩, _, mem_runEntries.mpr ⟨index, below, rfl⟩, rfl⟩

/-- What is known as data once the tables are. -/
theorem mem_laterTargets : value ∈ (laterTargets model disassembly elf).knownDataTargets ↔ IsKnownData model disassembly elf value := by
  rw [laterTargets, IsKnownData]
  dsimp only
  rw [List.mem_append, List.mem_map]
  refine or_congr_right ⟨?_, ?_⟩
  · rintro ⟨record, listed, rfl⟩
    obtain ⟨owner, first, length, table, rfl⟩ := mem_tables.mp listed
    rw [(tableRecord_place table.spec.1).1]
    exact ⟨owner, length, table⟩
  · rintro ⟨owner, length, table⟩
    exact ⟨_, mem_tables.mpr ⟨owner, value, length, table, rfl⟩, (tableRecord_place table.spec.1).1⟩

end Tables

section Candidates
variable {model : ExecutableModel} {disassembly : DisassemblyResult} {elf : ElfImage} {slot : Int} {record other : DataTypeRecord}

theorem seed_type (seed : record ∈ seedExistingTypes disassembly elf) : record.typeName = .string ∨ record.typeName = .jumpTable := by
  rcases List.mem_append.mp seed with string | jump
  · obtain ⟨_, _, rfl⟩ := List.mem_map.mp string
    exact Or.inl rfl
  · obtain ⟨_, _, rfl⟩ := List.mem_map.mp jump
    exact Or.inr rfl

theorem table_type (table : record ∈ (pointerTables model disassembly elf).tables) : record.typeName ∈ tableTypes := by
  obtain ⟨_, _, _, _, rfl⟩ := mem_tables.mp table
  exact tableRecord_type _

theorem standaloneLeaves_spec : LeafScan elf (laterTargets model disassembly elf) (slotAnchors model disassembly elf)
    (pointerTables model disassembly elf).reserved (pointerTables model disassembly elf).leaves (scanSites elf)
    (standaloneLeaves model disassembly elf) := scanStandaloneLeaves_spec

theorem leaf_type (leaf : record ∈ (standaloneLeaves model disassembly elf).1) : record.typeName ∈ leafTypes := by
  obtain ⟨_, _, _, _, typed, rfl⟩ := standaloneLeaves_spec.origin record leaf
  exact (standaloneLeaf_record typed).2

theorem mem_structs : record ∈ structs model disassembly elf → structCandidate elf (standaloneLeaves model disassembly elf).2
    (strongRecords model disassembly elf) record.address = some record := by
  intro listed
  obtain ⟨anchor, _, found⟩ := mem_inferStructCandidates.mp listed
  rw [(structCandidate_spec found).1]
  exact found

/-- An array starts where a structure does. -/
theorem mem_arrays : record ∈ arrays model disassembly elf ↔ ∃ struct ∈ structs model disassembly elf, record.address = struct.address ∧
    ∃ elementSize ∈ arraySizes, arrayCandidate elf (standaloneLeaves model disassembly elf).2 (strongRecords model disassembly elf)
      struct.address elementSize = some record := by
  rw [arrays, mem_inferArrayCandidates]
  refine exists_congr fun struct => and_congr_right fun _ => ⟨?_, And.right⟩
  rintro ⟨elementSize, size, found⟩
  exact ⟨(arrayCandidate_spec found).1, elementSize, size, found⟩

/-- Where a candidate is from. -/
inductive Origin (record : DataTypeRecord) : Prop
  | seed (listed : record ∈ seedExistingTypes disassembly elf)
  | table (listed : record ∈ (pointerTables model disassembly elf).tables)
  | leaf (listed : record ∈ (standaloneLeaves model disassembly elf).1)
  | struct (listed : record ∈ structs model disassembly elf)
  | array (listed : record ∈ arrays model disassembly elf)

theorem mem_candidates : record ∈ candidates model disassembly elf ↔ @Origin model disassembly elf record := by
  simp only [candidates, List.mem_append, or_assoc]
  constructor
  · rintro (seed | table | leaf | struct | array)
    · exact .seed seed
    · exact .table table
    · exact .leaf leaf
    · exact .struct struct
    · exact .array array
  · rintro (seed | table | leaf | struct | array)
    · exact Or.inl seed
    · exact Or.inr (Or.inl table)
    · exact Or.inr (Or.inr (Or.inl leaf))
    · exact Or.inr (Or.inr (Or.inr (Or.inl struct)))
    · exact Or.inr (Or.inr (Or.inr (Or.inr array)))

theorem struct_type (struct : record ∈ structs model disassembly elf) : record.typeName = .structCandidate :=
  (structCandidate_spec (mem_structs struct)).2.1

theorem array_type (array : record ∈ arrays model disassembly elf) : record.typeName = .arrayCandidate := by
  obtain ⟨_, _, _, _, _, found⟩ := mem_arrays.mp array
  exact (arrayCandidate_spec found).2.1

/-- The known objects are the seeds and the tables. -/
theorem mem_strongRecords : record ∈ strongRecords model disassembly elf ↔
    record ∈ candidates model disassembly elf ∧ record.typeName ∈ strongRangeTypes := by
  rw [strongRecords, List.mem_append, mem_candidates]
  constructor
  · rintro (seed | table)
    · refine ⟨.seed seed, ?_⟩
      rcases seed_type seed with string | jump
      · rw [string]
        decide
      · rw [jump]
        decide
    · exact ⟨.table table, List.mem_cons_of_mem _ (List.mem_cons_of_mem _ (table_type table))⟩
  · rintro ⟨origin, strong⟩
    have weak : ∀ names : List DataTypeName, record.typeName ∈ names → (∀ name ∈ names, name ∉ strongRangeTypes) → False :=
      fun names listed none => none _ listed strong
    cases origin with
    | seed listed => exact Or.inl listed
    | table listed => exact Or.inr listed
    | leaf listed => exact (weak leafTypes (leaf_type listed) (by decide)).elim
    | struct listed => exact (weak [.structCandidate] (List.mem_singleton.mpr (struct_type listed)) (by decide)).elim
    | array listed => exact (weak [.arrayCandidate] (List.mem_singleton.mpr (array_type listed)) (by decide)).elim

theorem strongRecordsOf_strongRecords :
    record ∈ strongRecordsOf (strongRecords model disassembly elf) ↔ record ∈ strongRecords model disassembly elf := by
  rw [mem_strongRecordsOf]
  exact and_iff_left_of_imp fun listed => (mem_strongRecords.mp listed).2

/-- The known objects cover the seeded ranges and the tables. -/
theorem inside_strongRecords : Inside (strongObjectRanges (strongRecords model disassembly elf)) slot ↔
    Inside (pointerTables model disassembly elf).reserved slot := by
  rw [pointerTables_reserved, seededRanges, ← List.map_append, ← strongRecords, inside_iff, inside_iff]
  refine exists_congr fun range => and_congr_left fun _ => ?_
  rw [mem_strongObjectRanges, List.mem_map]
  refine exists_congr fun record => ⟨fun found => ⟨found.1, found.2.2⟩, fun found => ?_⟩
  exact ⟨found.1, (mem_strongRecords.mp found.1).2, found.2⟩

end Candidates

section Kept
variable {model : ExecutableModel} {disassembly : DisassemblyResult} {elf : ElfImage} {slot : Int} {record other : DataTypeRecord}
  {span : Span}

theorem strong_inside (listed : record ∈ strongRecords model disassembly elf) :
    Inside (pointerTables model disassembly elf).reserved record.address :=
  inside_strongRecords.mp (inside_iff.mpr
    ⟨_, mem_strongObjectRanges.mpr ⟨record, listed, (mem_strongRecords.mp listed).2, rfl⟩, le_rfl, range_nonempty⟩)

theorem struct_outside (struct : record ∈ structs model disassembly elf) :
    ¬Inside (pointerTables model disassembly elf).reserved record.address := fun inside =>
  (structCandidate_spec (mem_structs struct)).2.2.1 (inside_strongRecords.mpr inside)

/-- What is not a known object does not start in one. -/
theorem weak_outside (listed : record ∈ candidates model disassembly elf) (weak : record.typeName ∉ strongRangeTypes) :
    ¬Inside (pointerTables model disassembly elf).reserved record.address := by
  cases mem_candidates.mp listed with
  | seed seed =>
    have strong : record ∈ strongRecords model disassembly elf := List.mem_append_left _ seed
    exact absurd (mem_strongRecords.mp strong).2 weak
  | table table =>
    have strong : record ∈ strongRecords model disassembly elf := List.mem_append_right _ table
    exact absurd (mem_strongRecords.mp strong).2 weak
  | leaf leaf =>
    obtain ⟨_, _, _, outside, _⟩ := standaloneLeaves_spec.origin record leaf
    exact outside
  | struct struct => exact struct_outside struct
  | array array =>
    obtain ⟨struct, start, same, _⟩ := mem_arrays.mp array
    rw [same]
    exact struct_outside start

/-- The last test of the conflict resolution drops nothing. -/
theorem mem_dataTypes : record ∈ (analyzeDataTypes model disassembly elf).dataTypes ↔
    record ∈ chosenRecords (candidates model disassembly elf) := by
  rw [analyzeDataTypes, mem_resolveConflicts, and_iff_left_iff_imp]
  intro chosen
  refine or_iff_not_imp_left.mpr fun weak inside => weak_outside (chosenRecords_subset chosen) weak ?_
  obtain ⟨range, listed, within⟩ := inside_iff.mp inside
  obtain ⟨strong, member, typed, rfl⟩ := mem_strongObjectRanges.mp listed
  have known := mem_strongRecords.mpr ⟨chosenRecords_subset member, typed⟩
  exact inside_strongRecords.mp (inside_iff.mpr ⟨_, mem_strongObjectRanges.mpr ⟨strong, known, typed, rfl⟩, within⟩)

theorem slots_nil (noTable : record.typeName ∉ tableTypes) (noLeaf : record.typeName ∉ leafTypes) : record.slots = [] := by
  rw [DataTypeRecord.slots, if_neg noTable, if_neg noLeaf]

theorem slots_leaf (leaf : record.typeName ∈ leafTypes) : record.slots = [(record.address, record.address + 4)] := by
  have noTable : record.typeName ∉ tableTypes := by
    rcases List.mem_pair.mp leaf with pointer | function
    · rw [pointer]
      decide
    · rw [function]
      decide
  rw [DataTypeRecord.slots, if_neg noTable, if_pos leaf]

theorem backedWord_later {sec : Section} :
    BackedWord elf (laterTargets model disassembly elf) (slotAnchors model disassembly elf)
        (· ∈ (laterTargets model disassembly elf).knownDataTargets) sec slot ↔
      BackedWord elf (knownTargets model disassembly elf) (slotAnchors model disassembly elf) (IsKnownData model disassembly elf) sec slot := by
  simp only [BackedWord, mem_laterTargets]
  rfl

/-- Each slot of a record begins outside of the seeds, with the evidence of a pointer. -/
theorem slot_evidence (listed : record ∈ (analyzeDataTypes model disassembly elf).dataTypes) (slots : span ∈ record.slots) :
    ∃ slot, span = (slot, slot + 4) ∧ ¬Inside (seededRanges disassembly elf) slot ∧ PointerEvidence model disassembly elf slot := by
  have none : ∀ names : List DataTypeName, record.typeName ∈ names → (∀ name ∈ names, name ∉ tableTypes ∧ name ∉ leafTypes) → False := by
    intro names typed plain
    rw [slots_nil (plain _ typed).1 (plain _ typed).2] at slots
    cases slots
  cases mem_candidates.mp (chosenRecords_subset (mem_dataTypes.mp listed)) with
  | seed seed => exact (none [.string, .jumpTable] (List.mem_pair.mpr (seed_type seed)) (by decide)).elim
  | table table =>
    obtain ⟨owner, first, length, image, rfl⟩ := mem_tables.mp table
    obtain ⟨nonempty, _, free⟩ := image.spec
    obtain ⟨slot, inside, rfl⟩ := (tableRecord_slots nonempty).mp slots
    exact ⟨slot, rfl, (free slot inside).2, Or.inl ⟨owner, first, length, image, inside⟩⟩
  | leaf leaf =>
    rw [slots_leaf (leaf_type leaf), List.mem_singleton] at slots
    obtain ⟨sec, typed, site, outside, found, _⟩ := standaloneLeaves_spec.origin record leaf
    obtain ⟨owner, stored, place⟩ := List.mem_flatMap.mp site
    obtain ⟨_, _, same⟩ := List.mem_map.mp place
    obtain ⟨rfl, _⟩ := Prod.ext_iff.mp same
    refine ⟨record.address, slots, fun seeded => outside ?_, Or.inr ⟨owner, stored, ?_⟩⟩
    · rw [pointerTables_reserved]
      exact inside_append.mpr (Or.inl seeded)
    · exact backedWord_later.mp (standaloneLeaf_isSome.mp (Option.isSome_iff_exists.mpr ⟨typed, found⟩))
  | struct struct => exact (none [.structCandidate] (List.mem_singleton.mpr (struct_type struct)) (by decide)).elim
  | array array => exact (none [.arrayCandidate] (List.mem_singleton.mpr (array_type array)) (by decide)).elim

theorem tables_unique (first : record ∈ (pointerTables model disassembly elf).tables)
    (second : other ∈ (pointerTables model disassembly elf).tables) (same : other.address = record.address) : other = record := by
  have : Std.Symm fun first second : DataTypeRecord => first.range.Apart second.range := ⟨fun _ _ => Span.Apart.symm⟩
  by_contra different
  have apart := tables_apart.forall second first different
  have wide := @range_nonempty record
  have otherWide := @range_nonempty other
  have opens : other.range.1 = record.range.1 := same
  rcases apart with before | behind <;> omega

/-- A table stays, with all of its slots. -/
theorem table_kept (table : record ∈ (pointerTables model disassembly elf).tables) :
    record ∈ (analyzeDataTypes model disassembly elf).dataTypes := by
  have strong := List.mem_append_right (seedExistingTypes disassembly elf) table
  refine mem_dataTypes.mpr (chosenRecords_alone (mem_candidates.mpr (.table table)) fun other listed same => ?_)
  by_cases weak : other.typeName ∈ strongRangeTypes
  · rcases List.mem_append.mp (mem_strongRecords.mpr ⟨listed, weak⟩) with seed | also
    · obtain ⟨owner, first, length, image, rfl⟩ := mem_tables.mp table
      obtain ⟨nonempty, _, free⟩ := image.spec
      rw [(tableRecord_place nonempty).1] at same
      refine absurd (inside_iff.mpr ⟨_, List.mem_map_of_mem seed, le_of_eq same, ?_⟩) (free first (slotIn_first nonempty)).2
      rw [← same]
      exact range_nonempty
    · exact tables_unique table also same
  · exact absurd (same ▸ strong_inside strong) (weak_outside listed weak)

/-- A word with evidence that reaches into a seed is typed all the same. -/
theorem straddling_kept (straddles : StraddlesSeed disassembly elf slot) (evidence : PointerEvidence model disassembly elf slot) :
    ∃ record ∈ (analyzeDataTypes model disassembly elf).dataTypes, (slot, slot + 4) ∈ record.slots := by
  by_cases table : InTable model disassembly elf slot
  · obtain ⟨owner, first, length, image, inside⟩ := table
    exact ⟨_, table_kept (mem_tables.mpr ⟨owner, first, length, image, rfl⟩), (tableRecord_slots image.spec.1).mpr ⟨slot, inside, rfl⟩⟩
  · obtain ⟨sec, stored, word⟩ := evidence.resolve_left table
    obtain ⟨outside, range, seeded, behind, close⟩ := straddles
    obtain ⟨seed, listed, rfl⟩ := List.mem_map.mp seeded
    have aligned := (safeWord_inside word.choose_spec.1).1
    have free : ¬Inside (pointerTables model disassembly elf).reserved slot := by
      rw [pointerTables_reserved, inside_append, ← inTable_iff aligned]
      exact not_or.mpr ⟨outside, table⟩
    have found := standaloneLeaves_spec.backed stored free (backedWord_later.mpr word)
    obtain ⟨record, leaf, rfl⟩ := List.mem_map.mp (found.resolve_left fun known => table (mem_pointerTables_leaves.mp known))
    -- There is no room for a structure before the seed.
    have noStruct : ∀ struct ∈ structs model disassembly elf, struct.address ≠ record.address := by
      intro struct member same
      obtain ⟨_, _, _, room, clipped⟩ := structCandidate_spec (mem_structs member)
      have limit := clipped seed (strongRecordsOf_strongRecords.mpr (List.mem_append_left _ listed)) (same ▸ behind)
      have start : seed.range.1 = seed.address := rfl
      omega
    refine ⟨record, mem_dataTypes.mpr (chosenRecords_alone (mem_candidates.mpr (.leaf leaf)) fun other member same => ?_), ?_⟩
    · cases mem_candidates.mp member with
      | seed known => exact absurd (same ▸ strong_inside (List.mem_append_left _ known)) free
      | table known => exact absurd (same ▸ strong_inside (List.mem_append_right _ known)) free
      | leaf known => exact List.inj_on_of_nodup_map standaloneLeaves_spec.nodup known leaf same
      | struct struct => exact absurd same (noStruct other struct)
      | array array =>
        obtain ⟨struct, start, place, _⟩ := mem_arrays.mp array
        exact absurd (place.symm.trans same) (noStruct struct start)
    · rw [slots_leaf (leaf_type leaf)]
      exact List.mem_cons_self

end Kept

section Typing
variable (model : ExecutableModel) (disassembly : DisassemblyResult) (elf : ElfImage)

/-- The pointers keep out of the seeded objects exactly when no word with the evidence of a pointer straddles the start of one. -/
theorem analyzeDataTypes_respectsObjects : RespectsObjects model disassembly elf ↔
    ∀ slot, StraddlesSeed disassembly elf slot → ¬PointerEvidence model disassembly elf slot := by
  constructor
  · intro respects slot straddles evidence
    obtain ⟨record, listed, typed⟩ := straddling_kept straddles evidence
    obtain ⟨_, seed, seeded, behind, close⟩ := straddles
    obtain ⟨known, _, rfl⟩ := List.mem_map.mp seeded
    have wide := @range_nonempty known
    rcases respects.slots record listed _ typed _ seeded with before | after
    · exact absurd before (Int.not_le.mpr close)
    · dsimp only at after
      omega
  · intro clear
    refine ⟨fun record listed span typed seed seeded => ?_, tables_apart⟩
    obtain ⟨slot, rfl, outside, evidence⟩ := slot_evidence listed typed
    by_contra meet
    obtain ⟨reaches, ends⟩ := not_or.mp meet
    refine clear slot ⟨outside, seed, seeded, ?_, Int.not_le.mp reaches⟩ evidence
    by_contra before
    exact outside (inside_iff.mpr ⟨seed, seeded, Int.not_lt.mp before, Int.not_le.mp ends⟩)

end Typing

section Sample

/-- Twelve bytes of data: a word that points to the last four of them, and a string that begins with the last byte of the word. -/
def straddlingElf : ElfImage where
  header := ⟨2, 8, 1, 0, 0, 0, 0, 52, 0, 0, 0, 0, 0⟩
  endianness := .little
  programHeaders := []
  sections := [⟨1, ".data", 1, 3, 0x41000000, 0, 12, 0, 0, 4, 0, .writable⟩]
  rawData := [0x08, 0, 0, 0x41, 0x62, 0x63, 0x64, 0, 0, 0, 0, 0]
  numbered := nofun

def straddlingModel : ExecutableModel :=
  ⟨"", .elf32, .elf, false, some .little, some straddlingElf.header, [], straddlingElf.sections, none, none, [], [],
    [⟨".rel.data", 0x41000000, 2, 2, "R_MIPS_32", 0, none, .section, none, none, none, none, none⟩], []⟩

def straddlingDisassembly : DisassemblyResult :=
  ⟨[], [], [⟨0x41000003, "data"⟩], [⟨0x41000003, "Abcd", ".data"⟩], []⟩

theorem straddlingString_reached : ¬RespectsObjects straddlingModel straddlingDisassembly straddlingElf := by
  intro respects
  have seeds : seededRanges straddlingDisassembly straddlingElf = [(0x41000003, 0x41000008)] := by decide
  have straddles : StraddlesSeed straddlingDisassembly straddlingElf 0x41000000 := by
    rw [StraddlesSeed, seeds]
    exact ⟨by decide, _, List.mem_cons_self, by decide, by decide⟩
  have evidence : PointerEvidence straddlingModel straddlingDisassembly straddlingElf 0x41000000 :=
    Or.inr ⟨_, List.mem_cons_self, 0x41000008, by decide, Or.inr ⟨by decide, Or.inl (by decide)⟩⟩
  obtain ⟨record, listed, typed⟩ := straddling_kept straddles evidence
  have apart := respects.slots record listed _ typed (0x41000003, 0x41000008) (seeds ▸ List.mem_cons_self)
  exact absurd apart (by decide)

end Sample

end DataTyping

end PspDisasm
