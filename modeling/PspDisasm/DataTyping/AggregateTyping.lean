import PspDisasm.DataTyping.PointerTyping
import PspDisasm.Prx

namespace PspDisasm
open Foundations

namespace DataTyping

def aggregateTypes : List DataTypeName := [.structCandidate, .arrayCandidate]

section Typing
variable (model : ExecutableModel) (disassembly : DisassemblyResult) (elf : ElfImage)

/-- No structure and no array covers a byte of a string, a jump table or a pointer table. -/
def AggregatesKeepOut : Prop :=
  ∀ record ∈ (analyzeDataTypes model disassembly elf).dataTypes, record.typeName ∈ aggregateTypes →
    ∀ strong ∈ (analyzeDataTypes model disassembly elf).dataTypes, strong.typeName ∈ strongRangeTypes →
      record.range.Apart strong.range

instance : Decidable (AggregatesKeepOut model disassembly elf) := inferInstanceAs (Decidable (∀ record ∈ _, _ → ∀ strong ∈ _, _ → _))

/-- What the stage for arrays makes of a stride. -/
def arrayOf (anchor : Int) (elementSize : Nat) : Option DataTypeRecord :=
  arrayCandidate elf (standaloneLeaves model disassembly elf).2 (strongRecords model disassembly elf) anchor elementSize

/-- The array of a stride has the highest confidence of all at its address, and comes first among those that share it. -/
def WinsAt (anchor : Int) (elementSize : Nat) (record : DataTypeRecord) : Prop :=
  arrayOf model disassembly elf anchor elementSize = some record ∧
    ∀ other ∈ arraySizes, ∀ rival, arrayOf model disassembly elf anchor other = some rival →
      rival.confidence < record.confidence ∨ (rival.confidence = record.confidence ∧ tieKey record ≤ tieKey rival)

/-- A known object starts behind the first byte of an element at the anchor. -/
def HidesObject (anchor : Int) (elementSize : Nat) : Prop :=
  ∃ strong ∈ strongRecords model disassembly elf, anchor < strong.address ∧ strong.address < anchor + elementSize

end Typing

section Tied
variable {records : List DataTypeRecord} {record best : DataTypeRecord}

theorem fingerprint_tieKey {other : DataTypeRecord} (same : fingerprint other = fingerprint record) : tieKey other = tieKey record := by
  have keys : tieKey (fingerprint other) = tieKey (fingerprint record) := by rw [same]
  exact keys

theorem tiedRecords_sorted : (tiedRecords records).Pairwise fun first second => tieKey first ≤ tieKey second := by
  have : Std.Total fun first second : DataTypeRecord => tieKey first ≤ tieKey second := ⟨fun _ _ => le_total _ _⟩
  have : IsTrans DataTypeRecord fun first second => tieKey first ≤ tieKey second := ⟨fun _ _ _ => le_trans⟩
  exact List.pairwise_insertionSort _ _

/-- The record that is kept has the highest confidence of its kind, and the least key of those with that confidence. -/
theorem tied_head (opens : (tiedRecords records).head? = some best) (listed : record ∈ records) (level : record.typeName = best.typeName) :
    record.confidence < best.confidence ∨ (record.confidence = best.confidence ∧ tieKey best ≤ tieKey record) := by
  obtain ⟨inSorted, first, highest⟩ := mem_tiedRecords.mp (List.mem_of_mem_head? opens)
  obtain ⟨other, unique, same⟩ := uniqueRecords_standing listed
  obtain ⟨sameType, sameConfidence⟩ := fingerprint_precedence same
  have otherSorted := mem_byCandidateKey.mpr unique
  have precedence : other.typeName.precedence = best.typeName.precedence := by rw [sameType, level]
  have otherFirst := (congrArg some precedence).trans first
  have bound := highest other otherSorted otherFirst
  rcases lt_or_eq_of_le bound with less | equal
  · exact Or.inl (sameConfidence ▸ less)
  · have tied : other ∈ tiedRecords records :=
      mem_tiedRecords.mpr ⟨otherSorted, otherFirst, fun rival sorted same => equal ▸ highest rival sorted same⟩
    refine Or.inr ⟨sameConfidence ▸ equal, ?_⟩
    rw [← fingerprint_tieKey same]
    obtain ⟨rest, split⟩ := List.head?_eq_some_iff.mp opens
    have order := @tiedRecords_sorted records
    rw [split] at tied order
    rcases List.mem_cons.mp tied with rfl | later
    · exact le_rfl
    · exact (List.pairwise_cons.mp order).1 other later

end Tied

section Arrays
variable {model : ExecutableModel} {disassembly : DisassemblyResult} {elf : ElfImage} {anchor : Int} {elementSize : Nat}
  {record strong : DataTypeRecord}

theorem precedence_strong {name : DataTypeName} : name.precedence ≤ 4 ↔ name ∈ strongRangeTypes := by
  cases name <;> decide

/-- The evidence of an array tells its stride. -/
theorem arraySizes_evidence : ∀ first ∈ arraySizes, ∀ second ∈ arraySizes,
    s!"fixed element size {first}" = s!"fixed element size {second}" → first = second := by
  decide

theorem arraySizes_positive : ∀ elementSize ∈ arraySizes, 0 < elementSize := by decide

/-- Two arrays of one address with one key are the same. -/
theorem arrayOf_tieKey {other : Nat} {rival : DataTypeRecord} (listed : elementSize ∈ arraySizes) (otherListed : other ∈ arraySizes)
    (found : arrayOf model disassembly elf anchor elementSize = some record)
    (alsoFound : arrayOf model disassembly elf anchor other = some rival) (same : tieKey record = tieKey rival) : record = rival := by
  obtain ⟨_, _, _, _, _, _, evidence, _⟩ := arrayCandidate_spec found
  obtain ⟨_, _, _, _, _, _, otherEvidence, _⟩ := arrayCandidate_spec alsoFound
  have texts : record.evidence = rival.evidence := congrArg (fun key => (ofLex (ofLex key).2).2) same
  rw [evidence, otherEvidence] at texts
  have stride := arraySizes_evidence _ listed _ otherListed (List.cons.inj (List.cons.inj texts).2).1
  rw [stride] at found
  exact Option.some.inj (found.symm.trans alsoFound)

theorem array_origin (array : record ∈ arrays model disassembly elf) : ∃ struct ∈ structs model disassembly elf,
    record.address = struct.address ∧ ∃ elementSize ∈ arraySizes, arrayOf model disassembly elf struct.address elementSize = some record :=
  mem_arrays.mp array

theorem array_candidate {struct : DataTypeRecord} (start : struct ∈ structs model disassembly elf) (listed : elementSize ∈ arraySizes)
    (found : arrayOf model disassembly elf struct.address elementSize = some record) :
    record ∈ candidatesAt (candidates model disassembly elf) struct.address := by
  have place := (arrayCandidate_spec found).1
  exact mem_candidatesAt.mpr ⟨mem_candidates.mpr (.array (mem_arrays.mpr ⟨struct, start, place, elementSize, listed, found⟩)), place⟩

/-- The array that is kept at an address is the one that wins there. -/
theorem kept_wins {struct : DataTypeRecord} (start : struct ∈ structs model disassembly elf) (place : record.address = struct.address)
    (found : arrayOf model disassembly elf struct.address elementSize = some record)
    (kept : record ∈ chosenRecords (candidates model disassembly elf)) : WinsAt model disassembly elf struct.address elementSize record := by
  refine ⟨found, fun other listed rival alsoFound => ?_⟩
  have opens := mem_chosenRecords.mp kept
  rw [place] at opens
  refine tied_head opens (array_candidate start listed alsoFound) ?_
  rw [(arrayCandidate_spec found).2.1, (arrayCandidate_spec alsoFound).2.1]

/-- The array that wins is kept. -/
theorem wins_kept {struct : DataTypeRecord} (start : struct ∈ structs model disassembly elf) (listed : elementSize ∈ arraySizes)
    (wins : WinsAt model disassembly elf struct.address elementSize record) : record ∈ chosenRecords (candidates model disassembly elf) := by
  obtain ⟨found, best⟩ := wins
  have here := array_candidate start listed found
  obtain ⟨place, typed, _⟩ := arrayCandidate_spec found
  obtain ⟨kept, chosen, same⟩ := chosenRecords_exists (mem_candidatesAt.mp here).1
  rw [place] at same
  have precedence := chosenRecords_best chosen (mem_candidatesAt.mp here).1 (place.trans same.symm)
  rw [typed] at precedence
  -- Nothing but an array takes precedence over the structure here.
  have array : ∃ other ∈ arraySizes, arrayOf model disassembly elf struct.address other = some kept := by
    have weak : kept.typeName ∉ strongRangeTypes := by
      intro strong
      have inside := strong_inside (mem_strongRecords.mpr ⟨chosenRecords_subset chosen, strong⟩)
      rw [same] at inside
      exact struct_outside start inside
    have level : kept.typeName = .arrayCandidate := by
      cases name : kept.typeName <;> rw [name] at weak precedence <;> revert weak precedence <;> decide
    cases mem_candidates.mp (chosenRecords_subset chosen) with
    | seed seed => exact absurd (level ▸ seed_type seed) (by decide)
    | table table => exact absurd (level ▸ table_type table) (by decide)
    | leaf leaf => exact absurd (level ▸ leaf_type leaf) (by decide)
    | struct struct => exact absurd (level ▸ struct_type struct) (by decide)
    | array array =>
      obtain ⟨owner, _, ownerPlace, other, stride, alsoFound⟩ := array_origin array
      exact ⟨other, stride, by rwa [← ownerPlace, same] at alsoFound⟩
  obtain ⟨other, stride, alsoFound⟩ := array
  have opens := mem_chosenRecords.mp chosen
  rw [same] at opens
  have level : record.typeName = kept.typeName := by rw [typed, (arrayCandidate_spec alsoFound).2.1]
  have ahead := tied_head opens here level
  have behind := best other stride kept alsoFound
  have key : tieKey record = tieKey kept := by
    rcases ahead with less | ⟨equal, below⟩
    · rcases behind with more | ⟨equal, _⟩
      · exact absurd less more.not_gt
      · exact absurd equal less.ne'
    · rcases behind with more | ⟨_, above⟩
      · exact absurd equal more.ne'
      · exact le_antisymm above below
  rw [arrayOf_tieKey listed stride found alsoFound key]
  exact chosen

/-- At the start of each known object, one of the known objects is kept. -/
theorem strong_kept (known : strong ∈ strongRecords model disassembly elf) : ∃ kept ∈ chosenRecords (candidates model disassembly elf),
    kept.typeName ∈ strongRangeTypes ∧ kept.address = strong.address := by
  obtain ⟨listed, typed⟩ := mem_strongRecords.mp known
  obtain ⟨kept, chosen, same⟩ := chosenRecords_exists listed
  have precedence := chosenRecords_best chosen listed same.symm
  exact ⟨kept, chosen, precedence_strong.mp (precedence.trans (precedence_strong.mpr typed)), same⟩

theorem arrayOf_apart {struct : DataTypeRecord} (start : struct ∈ structs model disassembly elf) (listed : elementSize ∈ arraySizes)
    (found : arrayOf model disassembly elf struct.address elementSize = some record)
    (known : strong ∈ strongRecords model disassembly elf) : record.range.Apart strong.range ↔
      ¬(struct.address < strong.address ∧ strong.address < struct.address + elementSize) :=
  arrayCandidate_apart found (fun inside => struct_outside start (inside_strongRecords.mp inside)) (arraySizes_positive _ listed)
    (strongRecordsOf_strongRecords.mpr known)

end Arrays

section Typing
variable (model : ExecutableModel) (disassembly : DisassemblyResult) (elf : ElfImage)

end Typing

section Sample

/-- Records of 24 bytes with two relocated pointers each, and a string in the first of them. -/
def hidingElf : ElfImage where
  header := ⟨2, 8, 1, 0, 0, 0, 0, 52, 0, 0, 0, 0, 0⟩
  endianness := .little
  programHeaders := []
  sections := [⟨1, ".data", 1, 3, 0x2000, 0, 52, 0, 0, 4, 0, .writable⟩]
  rawData := littleWords [0x2030, 0, 0x2030, 0x64636261, 0, 0, 0x2030, 0, 0x2030, 0, 0, 0, 0]
  numbered := .nil

def hidingModel : ExecutableModel :=
  ⟨"", .elf32, .elf, false, some .little, some hidingElf.header, [], hidingElf.sections, none, none, [], [],
    [0x2000, 0x2008, 0x2018, 0x2020].map fun slot => ⟨".rel.data", slot, 2, 2, "R_MIPS_32", 0, none, .section, none, none, none, none, none⟩, []⟩

def hidingDisassembly : DisassemblyResult :=
  ⟨[], [0x2000], [⟨0x200C, "data"⟩], [⟨0x200C, "abcd", ".data"⟩], []⟩

end Sample

end DataTyping

end PspDisasm
