import PspDisasm.Engines.SpimStrings
import PspDisasm.Resources.AssetDiscovery

namespace PspDisasm
open Foundations

namespace DataTyping
variable {model : ExecutableModel} {disassembly : DisassemblyResult} {elf : ElfImage} {record : DataTypeRecord}

/-- A string or a jump table of a typing has been found by the disassembly. -/
theorem dataTypes_seed (listed : record ∈ (analyzeDataTypes model disassembly elf).dataTypes)
    (seeded : record.typeName = .string ∨ record.typeName = .jumpTable) : record ∈ seedExistingTypes disassembly elf := by
  have other : ∀ names : List DataTypeName, record.typeName ∈ names → (∀ name ∈ names, name ≠ .string ∧ name ≠ .jumpTable) → False :=
    fun names typed plain => seeded.elim (plain _ typed).1 (plain _ typed).2
  cases dataTypes_subset listed with
  | seed seed => exact seed
  | table table => exact (other tableTypes (table_type table) (by decide)).elim
  | leaf leaf => exact (other leafTypes (leaf_type leaf) (by decide)).elim
  | struct struct => exact (other [.structCandidate] (List.mem_singleton.mpr (struct_type struct)) (by decide)).elim
  | array array => exact (other [.arrayCandidate] (List.mem_singleton.mpr (array_type array)) (by decide)).elim

theorem dataTypes_string (listed : record ∈ (analyzeDataTypes model disassembly elf).dataTypes) (string : record.typeName = .string) :
    ∃ found ∈ disassembly.strings, record = stringType found := by
  rcases List.mem_append.mp (dataTypes_seed listed (Or.inl string)) with seed | seed
  · obtain ⟨found, member, rfl⟩ := List.mem_map.mp seed
    exact ⟨found, (List.mem_insertionSort _).mp member, rfl⟩
  · obtain ⟨_, _, rfl⟩ := List.mem_map.mp seed
    cases string

theorem dataTypes_jumpTable (listed : record ∈ (analyzeDataTypes model disassembly elf).dataTypes)
    (table : record.typeName = .jumpTable) : ∃ found ∈ disassembly.jumpTables, record = jumpTableType elf found := by
  rcases List.mem_append.mp (dataTypes_seed listed (Or.inr table)) with seed | seed
  · obtain ⟨_, _, rfl⟩ := List.mem_map.mp seed
    cases table
  · obtain ⟨found, member, rfl⟩ := List.mem_map.mp seed
    exact ⟨found, (List.mem_insertionSort _).mp member, rfl⟩

/-- At the address of something that the disassembly has found, the typing has a record that takes no lower precedence. -/
theorem dataTypes_at (model : ExecutableModel) (seed : record ∈ seedExistingTypes disassembly elf) :
    ∃ chosen ∈ (analyzeDataTypes model disassembly elf).dataTypes, chosen.address = record.address ∧
      (chosen.typeName = .string ∨ chosen.typeName = .jumpTable) ∧ chosen.typeName.precedence ≤ record.typeName.precedence := by
  have candidate : record ∈ candidates model disassembly elf := mem_candidates.mpr (.seed seed)
  obtain ⟨chosen, kept, here⟩ := chosenRecords_exists candidate
  have best := chosenRecords_best kept candidate here.symm
  have early : chosen.typeName = .string ∨ chosen.typeName = .jumpTable := by
    have low : record.typeName.precedence ≤ 2 := by
      rcases seed_type seed with string | table
      · rw [string]
        decide
      · rw [table]
        decide
    have bound := best.trans low
    cases named : chosen.typeName <;> simp_all [DataTypeName.precedence]
  have strong : chosen.typeName ∈ strongRangeTypes := by
    rcases early with string | table
    · rw [string]
      decide
    · rw [table]
      decide
  exact ⟨chosen, mem_resolveConflicts.mpr ⟨kept, Or.inl strong⟩, here, early, best⟩

theorem dataTypes_string_at {found : StringRecord} (listed : found ∈ disassembly.strings) :
    ∃ record ∈ (analyzeDataTypes model disassembly elf).dataTypes, record.address = found.address ∧ record.typeName = .string := by
  have seed : stringType found ∈ seedExistingTypes disassembly elf :=
    List.mem_append_left _ (List.mem_map_of_mem ((List.mem_insertionSort _).mpr listed))
  obtain ⟨record, kept, here, early, best⟩ := dataTypes_at model seed
  refine ⟨record, kept, here, early.resolve_right fun table => ?_⟩
  rw [table] at best
  have high : DataTypeName.jumpTable.precedence ≤ DataTypeName.string.precedence := best
  exact absurd high (by decide)

theorem dataTypes_jumpTable_at {found : JumpTableRecord} (listed : found ∈ disassembly.jumpTables)
    (alone : ∀ string ∈ disassembly.strings, string.address ≠ found.address) :
    ∃ record ∈ (analyzeDataTypes model disassembly elf).dataTypes, record.address = found.address ∧ record.typeName = .jumpTable := by
  have seed : jumpTableType elf found ∈ seedExistingTypes disassembly elf :=
    List.mem_append_right _ (List.mem_map_of_mem ((List.mem_insertionSort _).mpr listed))
  obtain ⟨record, kept, here, early, _⟩ := dataTypes_at model seed
  refine ⟨record, kept, here, early.resolve_left fun string => ?_⟩
  obtain ⟨text, member, rfl⟩ := dataTypes_string kept string
  exact alone text member here

end DataTyping

namespace AssetDiscovery
open Spim
variable {σ : Type} {engines : EngineModules σ} {elf : ElfImage} {model : ExecutableModel} {isPrintable : Char → Bool}
  {disassembly : DisassemblyResult} {record : DataTyping.DataTypeRecord}

/-- A typed string: a text of the file, and its size with the NUL behind it. -/
structure StringObject (elf : ElfImage) (isPrintable : Char → Bool) (record : DataTyping.DataTypeRecord) (value : String) : Prop where
  text : ∃ sec, findSection elf record.address = some sec ∧ record.sectionName = sectionName sec ∧
    TextAt elf isPrintable sec record.address value
  size : record.size = (utf8Bytes value).length + 1

/-- A typed jump table: a table of the file, with the number and the size of its targets. -/
structure TableObject (elf : ElfImage) (record : DataTyping.DataTypeRecord) (targets : List Int) : Prop where
  table : TableAt elf record.address targets
  long : 2 ≤ targets.length
  count : record.count = some targets.length
  size : record.size = targets.length * 4

/-- A reference with the type of what stands at its target, if something stands there. -/
structure TypedBy (dataTypes : List DataTyping.DataTypeRecord) (reference : ReferenceRecord) (typed : TypedReferenceRecord) : Prop where
  same : (typed.sourceAddress, typed.targetAddress, typed.kind, typed.sourceFunction, typed.targetSection) =
    (reference.sourceAddress, reference.targetAddress, reference.kind, reference.sourceFunction, reference.targetSection)
  known : ∀ record ∈ dataTypes, record.address = reference.targetAddress →
    typed.targetType = record.typeName.value ∧ typed.confidence = record.confidence ∧ typed.evidence = record.evidence
  unknown : (∀ record ∈ dataTypes, record.address ≠ reference.targetAddress) →
    typed.targetType = "unknown" ∧ typed.confidence = 0 ∧ typed.evidence = []

theorem typedReference_typedBy {dataTypes : List DataTyping.DataTypeRecord} (distinct : (dataTypes.map (·.address)).Nodup)
    (reference : ReferenceRecord) : TypedBy dataTypes reference (typedReference dataTypes reference) where
  same := rfl
  known record listed here := by
    obtain ⟨found, known⟩ := get?_byKey_of_mem listed here
    obtain ⟨there, member⟩ := get?_byKey_some known
    obtain rfl := List.inj_on_of_nodup_map distinct listed member (here.trans there.symm)
    simp only [typedReference, known, Option.map_some, Option.getD_some, and_self]
  unknown nothing := by
    have missing : (byKey DataTyping.DataTypeRecord.address dataTypes).get? reference.targetAddress = none := by
      refine Option.eq_none_iff_forall_ne_some.mpr fun found known => ?_
      obtain ⟨there, member⟩ := get?_byKey_some known
      exact nothing found member there
    simp only [typedReference, missing, Option.map_none, Option.getD_none, and_self]

theorem string_object (listed : record ∈ (analyzeDataTypes model disassembly elf).dataTypes) (string : record.typeName = .string)
    (strings : ∀ string ∈ disassembly.strings, StringNoted elf isPrintable disassembly.references string) :
    ∃ value, StringObject elf isPrintable record value := by
  obtain ⟨found, member, rfl⟩ := DataTyping.dataTypes_string listed string
  obtain ⟨source, known, rfl⟩ := List.mem_map.mp member
  obtain ⟨sec, place, _, _, name, text⟩ := (strings source known).text
  have size : source.value.utf8ByteSize = (utf8Bytes source.value).length := by
    rw [utf8Bytes, Array.length_toList]
    rfl
  refine ⟨source.value, ⟨sec, place, name, text⟩, ?_⟩
  rw [← size]
  exact max_eq_right (by omega)

theorem table_object (listed : record ∈ (analyzeDataTypes model disassembly elf).dataTypes) (table : record.typeName = .jumpTable)
    (tables : ∀ table ∈ disassembly.jumpTables, TableAt elf table.address table.targets ∧ 2 ≤ table.targets.length) :
    ∃ targets, TableObject elf record targets := by
  obtain ⟨found, member, rfl⟩ := DataTyping.dataTypes_jumpTable listed table
  obtain ⟨source, known, rfl⟩ := List.mem_map.mp member
  obtain ⟨stands, long⟩ := tables source known
  exact ⟨source.targets, stands, long, rfl, rfl⟩

/-- Whatever the engine answers, the strings and jump tables of the typing are objects of the file with their exact sizes,
all that the disassembly has found of them is typed (of a string and a table at one address the string), and each
reference gets the type of the record at its target. -/
theorem analyzeDataTypes_bornOut (analyzed : analyze engines isPrintable elf model = .ok disassembly) :
    let dataTyping := analyzeDataTypes model disassembly elf
    (∀ record ∈ dataTyping.dataTypes, record.typeName = .string → ∃ value, StringObject elf isPrintable record value) ∧
      (∀ record ∈ dataTyping.dataTypes, record.typeName = .jumpTable → ∃ targets, TableObject elf record targets) ∧
      (∀ string ∈ disassembly.strings, ∃ record ∈ dataTyping.dataTypes, record.address = string.address ∧ record.typeName = .string) ∧
      (∀ table ∈ disassembly.jumpTables, (∀ string ∈ disassembly.strings, string.address ≠ table.address) →
        ∃ record ∈ dataTyping.dataTypes, record.address = table.address ∧ record.typeName = .jumpTable) ∧
      List.Forall₂ (TypedBy dataTyping.dataTypes) disassembly.references dataTyping.typedReferences := by
  obtain ⟨texts, _, taken⟩ := analyze_fromTexts analyzed
  have strings : ∀ string ∈ disassembly.strings, StringNoted elf isPrintable disassembly.references string := fun string listed =>
    mem_detectStrings.mp (taken.strings ▸ listed)
  refine ⟨fun record listed string => string_object listed string strings, fun record listed table => ?_, ?_, ?_, ?_⟩
  · exact table_object listed table fun source known => (taken.mem_jumpTables.mp known).2
  · intro string listed
    have found : ⟨string.address, string.value, string.sectionName⟩ ∈ disassembly.code.disassembly.strings := List.mem_map.mpr ⟨string, listed, rfl⟩
    exact DataTyping.dataTypes_string_at found
  · intro table listed alone
    have found : ⟨table.address, table.sourceFunction, table.sourceAddress, table.targets⟩ ∈ disassembly.code.disassembly.jumpTables :=
      List.mem_map.mpr ⟨table, listed, rfl⟩
    refine DataTyping.dataTypes_jumpTable_at found fun string member => ?_
    obtain ⟨source, known, rfl⟩ := List.mem_map.mp member
    exact alone source known
  · refine List.forall₂_map_right_iff.mpr (List.forall₂_same.mpr fun reference _ => ?_)
    exact typedReference_typedBy DataTyping.resolveConflicts_nodup reference

theorem switchImage_bornOut : ∃ disassembly, analyze switchEngine (fun _ => true) switchImage switchModel = .ok disassembly ∧
    ∀ record ∈ (analyzeDataTypes switchModel disassembly switchImage).dataTypes, record.typeName = .jumpTable →
      ∃ targets, TableObject switchImage record targets := by
  obtain ⟨disassembly, analyzed⟩ := exists_ok switchImage_analyzed
  exact ⟨disassembly, analyzed, (analyzeDataTypes_bornOut analyzed).2.1⟩

end AssetDiscovery

end PspDisasm
