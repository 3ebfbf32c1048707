import PspDisasm.Foundations.RecordTables
import PspDisasm.LoadViewFrame
import PspDisasm.Prx
import PspDisasm.Prxreloc2Errors

namespace PspDisasm
open Foundations

theorem catchParseError_total {α : Type} {x : Except Failure α} (documented : ParseErrorsOnly x) :
    ∃ outcome, catchParseError x = .ok outcome ∧ (∀ a, outcome = .ok a → x = .ok a) := by
  cases x with
  | ok a =>
    refine ⟨.ok a, rfl, ?_⟩
    rintro _ ⟨⟩
    rfl
  | error failure =>
    have parse := documented failure rfl
    cases failure with
    | parseError message => exact ⟨.error message, rfl, by simp⟩
    | _ => cases parse

/-- The record says what the eight bytes at its position hold. -/
def ReadFrom (order : Endianness) (data : Bytes) (position : Nat) (relocation : Relocation) : Prop :=
  relocation.offset = wordAt order data position 4 ∧ relocation.info = wordAt order data (position + 4) 4 ∧
    relocation.type = relocation.info &&& 0xFF

/-- A record is read from an entry of the file, or decoded from a compressed stream. -/
def Traced (order : Endianness) (data : Bytes) (record : TracedRelocation) : Prop :=
  (record.relocation.source = .programHeaderRel2 ∧ record.position = none) ∨
    (record.relocation.source ≠ .programHeaderRel2 ∧
      ∃ position, record.position = some position ∧ ReadFrom order data position record.relocation)

/-- A batch of records: where each comes from, and the entries that were read for it. -/
def Covers (order : Endianness) (data : Bytes) (positions : List Nat) (records : List TracedRelocation) : Prop :=
  (∀ record ∈ records, Traced order data record) ∧ records.filterMap (·.position) = positions

section Covers
variable {order : Endianness} {data : Bytes}

theorem Covers.nil : Covers order data [] [] := ⟨List.forall_mem_nil _, rfl⟩

theorem Covers.append {positions more : List Nat} {records later : List TracedRelocation}
    (first : Covers order data positions records) (second : Covers order data more later) :
    Covers order data (positions ++ more) (records ++ later) := by
  refine ⟨?_, ?_⟩
  · intro record member
    rcases List.mem_append.mp member with inFirst | inSecond
    · exact first.1 record inFirst
    · exact second.1 record inSecond
  · rw [List.filterMap_append, first.2, second.2]

/-- Batch by batch, the entries of a scan are those of its parts. -/
theorem Covers.flatMap {α β : Type} {positions : α → List Nat} {records : β → List TracedRelocation} {xs : List α}
    {ys : List β} (parts : List.Forall₂ (fun x y => Covers order data (positions x) (records y)) xs ys) :
    Covers order data (xs.flatMap positions) (ys.flatMap records) := by
  induction parts with
  | nil => exact .nil
  | cons head _ ih =>
    rw [List.flatMap_cons, List.flatMap_cons]
    exact head.append ih

end Covers

theorem readTypeA_total (order : Endianness) {data : Bytes} {position : Nat} (sectionName : String)
    (targetSectionIndex : Option Nat) (source : RelocationSource) (inFile : position + 8 ≤ data.length) :
    ∃ relocation, readTypeA order data position sectionName targetSectionIndex source = .ok relocation ∧
      relocation.source = source ∧ ReadFrom order data position relocation := by
  have enough : requireBuffer data position 8 = .ok () := raiseIf_ok.mpr (Nat.not_lt.mpr inFile)
  refine ⟨_, by rw [readTypeA, enough]; rfl, rfl, rfl, rfl, rfl⟩

theorem readTypeATable_total (order : Endianness) {data : Bytes} {start size : Nat} (sectionName : String)
    (targetSectionIndex : Option Nat) {source : RelocationSource} (typeA : source ≠ .programHeaderRel2)
    (inFile : size = 0 ∨ start + size ≤ data.length) :
    ∃ records, readTypeATable order data start size sectionName targetSectionIndex source = .ok records ∧
      Covers order data (recordStarts 8 (start, size)) records := by
  have each : ∀ i ∈ List.range (size / 8), ∃ record,
      (do
        let relocation ← readTypeA order data (start + i * 8) sectionName targetSectionIndex source
        return (⟨some (start + i * 8), relocation⟩ : TracedRelocation)) = Except.ok record ∧
      Covers order data [start + i * 8] [record] := by
    intro i member
    have inside := List.mem_range.mp member
    have room : start + i * 8 + 8 ≤ data.length := by omega
    obtain ⟨relocation, read, from', content⟩ := readTypeA_total order sectionName targetSectionIndex source room
    refine ⟨⟨some (start + i * 8), relocation⟩, by rw [read]; rfl, ?_, rfl⟩
    intro record single
    rw [List.mem_singleton.mp single]
    exact Or.inr ⟨from' ▸ typeA, _, rfl, content⟩
  obtain ⟨records, read, parts⟩ := mapM_total each
  refine ⟨records, read, ?_⟩
  have covered := Covers.flatMap parts
  rwa [List.flatMap_singleton', ← List.map_eq_flatMap] at covered

/-- All file ranges that hold uncompressed relocation entries. -/
def relocationRanges (elf : ElfImage) : List (Nat × Nat) :=
  sectionRanges elf ++ (elf.programHeaders.filter fun ph => ph.type = ptPrxreloc).map headerRange

/-- The ranges that the scan goes through. -/
def scannedRanges (elf : ElfImage) : List (Nat × Nat) :=
  sectionRanges elf ++ (elf.programHeaders.filter fun ph => IsExtraHeader elf ph).map headerRange

def sectionPositions (sec : Section) : List Nat :=
  if sec.IsRelocation then recordStarts 8 (sec.offset, sec.size) else []

def headerPositions (elf : ElfImage) (ph : ProgramHeader) : List Nat :=
  if IsExtraHeader elf ph then recordStarts 8 (headerRange ph) else []

section Scan
variable {data : Bytes} {elf : ElfImage}

theorem sectionRelocations_total (parsed : elf.ParsedFrom data) (sec : Section) (member : sec ∈ elf.sections) :
    ∃ part, sectionRelocations data elf sec = .ok part ∧
      Covers elf.endianness data (sectionPositions sec) part.1 := by
  unfold sectionRelocations sectionPositions
  split
  · rename_i relocates
    have stored : sec.type ≠ shtNobits := by
      rintro nobits
      rw [Section.IsRelocation, nobits] at relocates
      exact absurd relocates (by decide)
    have typeA : RelocationSource.section ≠ .programHeaderRel2 := by decide
    obtain ⟨records, read, covered⟩ := readTypeATable_total elf.endianness sec.name
      (if sec.info < elf.sections.length then some sec.info else none) typeA (parsed.sectionInFile sec member stored)
    dsimp only
    rw [read]
    exact ⟨_, rfl, covered⟩
  · exact ⟨_, rfl, .nil⟩

theorem headerRelocations_total (parsed : elf.ParsedFrom data) (ph : ProgramHeader)
    (member : ph ∈ elf.programHeaders) :
    ∃ part, headerRelocations data elf ph = .ok part ∧
      Covers elf.endianness data (headerPositions elf ph) part.1 := by
  by_cases extra : IsExtraHeader elf ph
  · have typeA : RelocationSource.programHeader ≠ .programHeaderRel2 := by decide
    obtain ⟨records, read, covered⟩ := readTypeATable_total elf.endianness "" none typeA
      (parsed.headerInFile ph member)
    rw [headerRelocations, if_pos extra, headerPositions, if_pos extra, read]
    exact ⟨_, rfl, covered⟩
  · rw [headerRelocations, if_neg extra, headerPositions, if_neg extra]
    split
    · obtain ⟨outcome, caught, value⟩ := catchParseError_total
        (decodePrxreloc2_parseErrors data elf ph.index)
      rw [caught]
      cases outcome with
      | error message => exact ⟨_, rfl, .nil⟩
      | ok decoded =>
        refine ⟨_, rfl, ?_, ?_⟩
        · intro record listed
          obtain ⟨relocation, inDecoded, rfl⟩ := List.mem_map.mp listed
          exact Or.inl ⟨decodePrxreloc2_sources (value decoded rfl) relocation inDecoded, rfl⟩
        · rw [List.filterMap_map]
          exact List.filterMap_eq_nil_iff.mpr fun _ _ => rfl
    · exact ⟨_, rfl, .nil⟩

theorem flatMap_filter_map {α β γ : Type} (P : α → Prop) [DecidablePred P] (range : α → β) (records : β → List γ)
    (xs : List α) : (xs.flatMap fun x => if P x then records (range x) else []) =
      ((xs.filter fun x => P x).map range).flatMap records := by
  induction xs with
  | nil => rfl
  | cons x xs ih =>
    rw [List.flatMap_cons, ih]
    by_cases listed : P x
    · rw [if_pos listed, List.filter_cons_of_pos (by simpa using listed), List.map_cons, List.flatMap_cons]
    · rw [if_neg listed, List.filter_cons_of_neg (by simpa using listed), List.nil_append]

/-- The scan of a parsed image always returns, with one record for each entry of each scanned range. -/
theorem scanRelocations_total (parsed : elf.ParsedFrom data) :
    ∃ records warnings, scanRelocations data elf = .ok (records, warnings) ∧
      Covers elf.endianness data ((scannedRanges elf).flatMap (recordStarts 8)) records := by
  obtain ⟨sections, sectionsRead, sectionParts⟩ := mapM_total fun sec member =>
    sectionRelocations_total parsed sec member
  obtain ⟨headers, headersRead, headerParts⟩ := mapM_total fun ph member =>
    headerRelocations_total parsed ph member
  refine ⟨(sections ++ headers).flatMap (·.1), (sections ++ headers).flatMap (·.2), ?_, ?_⟩
  · rw [scanRelocations, sectionsRead, headersRead]
    rfl
  · have sectionEntries : elf.sections.flatMap sectionPositions = (sectionRanges elf).flatMap (recordStarts 8) :=
      flatMap_filter_map _ (fun sec : Section => (sec.offset, sec.size)) _ elf.sections
    have headerEntries := flatMap_filter_map (IsExtraHeader elf) headerRange (recordStarts 8) elf.programHeaders
    have covered := (Covers.flatMap sectionParts).append (Covers.flatMap headerParts)
    rw [sectionEntries, show elf.programHeaders.flatMap (headerPositions elf) = _ from headerEntries] at covered
    rw [scannedRanges, List.flatMap_append, List.flatMap_append]
    exact covered

/-- A skipped header has its entries in the section whose range it repeats. -/
theorem mem_scanned_iff {p : Nat} : p ∈ (scannedRanges elf).flatMap (recordStarts 8) ↔
    ∃ range ∈ relocationRanges elf, p ∈ recordStarts 8 range := by
  rw [List.mem_flatMap]
  constructor
  · rintro ⟨range, listed, entry⟩
    refine ⟨range, ?_, entry⟩
    rcases List.mem_append.mp listed with inSections | inHeaders
    · exact List.mem_append_left _ inSections
    · obtain ⟨ph, member, rfl⟩ := List.mem_map.mp inHeaders
      obtain ⟨present, extra⟩ := List.mem_filter.mp member
      have relocates : ph.type = ptPrxreloc := (of_decide_eq_true extra).1
      exact List.mem_append_right _ (List.mem_map_of_mem (List.mem_filter.mpr ⟨present, decide_eq_true relocates⟩))
  · rintro ⟨range, listed, entry⟩
    by_cases inSections : range ∈ sectionRanges elf
    · exact ⟨range, List.mem_append_left _ inSections, entry⟩
    · refine ⟨range, List.mem_append_right _ ?_, entry⟩
      rcases List.mem_append.mp listed with absurdly | inHeaders
      · exact absurd absurdly inSections
      · obtain ⟨ph, member, rfl⟩ := List.mem_map.mp inHeaders
        obtain ⟨present, relocates⟩ := List.mem_filter.mp member
        have extra : IsExtraHeader elf ph := ⟨of_decide_eq_true relocates, inSections⟩
        exact List.mem_map_of_mem (List.mem_filter.mpr ⟨present, decide_eq_true extra⟩)

/-- The loop over the relocations writes once per record, and no two of its
turns are for the same entry of the file. -/
def AppliedOnce (data : Bytes) (elf : ElfImage) (records : List TracedRelocation) (view : RelocatedLoadView) : Prop :=
  (∃ writes, view.elf.rawData = writeAll writes data ∧
    List.Forall₂ (fun record w => WritesWord elf data.length record.relocation w) records writes) ∧
  ∀ (i j p : Nat) (first second : TracedRelocation), records[i]? = some first → records[j]? = some second →
    first.position = some p → second.position = some p → i = j

/-- One record for each entry position of the relocation ranges, none sharing a
byte with another, and no entry applied more than once in a load view. -/
def EntriesOnce (data : Bytes) (elf : ElfImage) : Prop :=
  ∃ records warnings, scanRelocations data elf = .ok (records, warnings) ∧
    parseRelocations data elf = .ok (records.map (·.relocation), warnings) ∧
    (∀ record ∈ records, Traced elf.endianness data record) ∧
    (∀ p, p ∈ records.filterMap (·.position) ↔ ∃ range ∈ relocationRanges elf, p ∈ recordStarts 8 range) ∧
    (records.filterMap (·.position)).Pairwise (RecordApart 8) ∧
    ∀ model loadAddress view, model.relocations = records.map (·.relocation) →
      buildRelocatedLoadView data elf model loadAddress = .ok view → AppliedOnce data elf records view

theorem view_writes {model : ExecutableModel} {loadAddress : Int} {view : RelocatedLoadView}
    (built : buildRelocatedLoadView data elf model loadAddress = .ok view) :
    ∃ writes, view.elf.rawData = writeAll writes data ∧
      List.Forall₂ (WritesWord elf data.length) model.relocations writes := by
  obtain ⟨final, run⟩ := buildRelocatedLoadView_ok built
  obtain ⟨_, _, _, ran, _, relocated, _⟩ := runLoadView_ok run
  obtain ⟨writes, words, same⟩ := relocateWords_writes ran
  exact ⟨writes, by rw [relocated, same]; rfl, words⟩

theorem index_unique {records : List TracedRelocation}
    (apart : (records.filterMap (·.position)).Pairwise (RecordApart 8)) {i j p : Nat} {first second : TracedRelocation}
    (atFirst : records[i]? = some first) (atSecond : records[j]? = some second) (position : first.position = some p)
    (samePosition : second.position = some p) : i = j := by
  rw [List.pairwise_filterMap, List.pairwise_iff_getElem] at apart
  obtain ⟨insideFirst, rfl⟩ := List.getElem?_eq_some_iff.mp atFirst
  obtain ⟨insideSecond, rfl⟩ := List.getElem?_eq_some_iff.mp atSecond
  have itself : ¬RecordApart 8 p p := by
    unfold RecordApart
    omega
  by_contra different
  rcases Nat.lt_or_gt_of_ne different with before | after
  · exact itself (apart i j insideFirst insideSecond before p position p samePosition)
  · exact itself (apart j i insideSecond insideFirst after p samePosition p position)

/-- Each entry is decoded once exactly when the complete entries of the scanned
ranges do not overlap: only a header with a section's exact range is skipped. -/
theorem parseRelocations_once_iff (parsed : parseElf32 data = .ok elf) :
    EntriesOnce data elf ↔ (scannedRanges elf).Pairwise (TablesApart 8) := by
  obtain ⟨records, warnings, scanned, traced, positions⟩ := scanRelocations_total (parseElf32_parsedFrom parsed)
  rw [← recordStarts_flatMap_pairwise, ← positions]
  constructor
  · rintro ⟨_, _, again, _, _, _, apart, _⟩
    cases scanned.symm.trans again
    exact apart
  · intro apart
    refine ⟨records, warnings, scanned, by rw [parseRelocations, scanned]; rfl, traced, ?_, apart, ?_⟩
    · intro p
      rw [positions, mem_scanned_iff]
    · intro model loadAddress view order built
      obtain ⟨writes, raw, words⟩ := view_writes built
      rw [order, List.forall₂_map_left_iff] at words
      exact ⟨⟨writes, raw, words⟩, fun _ _ _ _ _ atFirst atSecond => index_unique apart atFirst atSecond⟩

end Scan

/-- The section of this file holds the first of its two relocation entries. A
relocation segment of the given size starts with that entry. -/
def prxFile (segmentSize : Nat) : Bytes := moduleFile [ptPrxreloc, 156, 0, 0, segmentSize, 0, 0, 4] [0, 2, 4, 2]

theorem prxFile_once : ∃ elf, parseElf32 (prxFile 8) = .ok elf ∧ EntriesOnce (prxFile 8) elf := by
  obtain ⟨elf, parsed⟩ := exists_ok (x := parseElf32 (prxFile 8)) (by decide +kernel)
  have seen : scannedRanges <$> parseElf32 (prxFile 8) = .ok [(156, 8)] := by decide +kernel
  rw [parsed] at seen
  have ranges : scannedRanges elf = _ := Except.ok.inj seen
  refine ⟨elf, parsed, (parseRelocations_once_iff parsed).mpr ?_⟩
  rw [ranges]
  decide

/-- Where two relocation ranges overlap, their entries are aligned to each other. -/
def EntriesAligned (elf : ElfImage) : Prop :=
  ∀ range ∈ relocationRanges elf, ∀ other ∈ relocationRanges elf,
    range.1 < other.1 + other.2 → other.1 < range.1 + range.2 → range.1 % 8 = other.1 % 8

/-- The entry of the section is decoded again as the first entry of the larger segment. -/
theorem parseRelocations_repeats_entry :
    ¬∀ (data : Bytes) (elf : ElfImage), parseElf32 data = .ok elf → EntriesAligned elf → EntriesOnce data elf := by
  intro once
  obtain ⟨elf, parsed⟩ := exists_ok (x := parseElf32 (prxFile 16)) (by decide +kernel)
  have ranges : relocationRanges <$> parseElf32 (prxFile 16) = .ok [(156, 8), (156, 16)] := by decide +kernel
  have scan : (parseElf32 (prxFile 16) >>= fun elf => (fun scanned => scanned.1.filterMap (·.position)) <$>
      scanRelocations (prxFile 16) elf) = Except.ok [156, 156, 164] := by decide +kernel
  rw [parsed] at ranges scan
  have same : relocationRanges elf = _ := Except.ok.inj ranges
  obtain ⟨records, _, scanned, _, _, _, apart, _⟩ := once _ elf parsed (by
    unfold EntriesAligned
    rw [same]
    decide)
  rw [bind_ok] at scan
  obtain ⟨_, again, rest⟩ := scan
  cases again
  rw [scanned] at rest
  have positions : records.filterMap (·.position) = [156, 156, 164] := Except.ok.inj rest
  rw [positions, List.pairwise_cons] at apart
  have repeated := apart.1 156 (by decide)
  unfold RecordApart at repeated
  omega

end PspDisasm
