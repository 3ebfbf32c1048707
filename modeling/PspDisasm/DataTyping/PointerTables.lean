import PspDisasm.DataTyping.PointerRuns

namespace PspDisasm
open Foundations

namespace DataTyping

/-- A slot is one of `length` slots from `first` on. -/
def SlotIn (first : Int) (length : Nat) (slot : Int) : Prop := ∃ index < length, slot = first + 4 * index

section Tables
variable (elf : ElfImage) (targets : Targets)

/-- A maximal run of free pointers that is taken for a table. -/
def SectionTable (sec : Section) (blocked : Int → Prop) (first : Int) (length : Nat) : Prop :=
  MaximalRun elf sec blocked first length ∧ qualifies targets (runEntries elf sec first length) = true

/-- The tables of some sections. A slot of a table is blocked for the sections after its own. -/
def IsTable : List Section → (Int → Prop) → Section → Int → Nat → Prop
  | [], _, _, _, _ => False
  | sec :: rest, blocked, owner, first, length =>
    (owner = sec ∧ SectionTable elf targets sec blocked first length) ∨
      IsTable rest (fun slot => blocked slot ∨ ∃ start size, SectionTable elf targets sec blocked start size ∧ SlotIn start size slot)
        owner first length

def sectionTables (sec : Section) (reserved : List Span) : List (List (Int × Int)) :=
  (runsFrom elf sec reserved (alignSlot sec.addr)).filter (qualifies targets)

/-- The runs that the scan accepts, each with its section. -/
def acceptedRuns : List Section → List Span → List (Section × List (Int × Int))
  | [], _ => []
  | sec :: rest, reserved =>
    (sectionTables elf targets sec reserved).map (sec, ·) ++
      acceptedRuns rest (reserved ++ (sectionTables elf targets sec reserved).map fun run => (tableRecord targets sec run).range)

/-- The table of an accepted run. -/
def acceptedTable (accepted : Section × List (Int × Int)) : DataTypeRecord := tableRecord targets accepted.1 accepted.2

end Tables

section Scan
variable {elf : ElfImage} {targets : Targets} {sec : Section} {sections : List Section} {reserved : List Span}
  {blocked other : Int → Prop} {first slot : Int} {length : Nat} {scan : TableScan}

theorem accept_foldl (runs : List (List (Int × Int))) (scan : TableScan) :
    (runs.foldl (fun scan run => scan.accept targets sec run) scan).reserved =
      scan.reserved ++ runs.map fun run => (tableRecord targets sec run).range := by
  induction runs generalizing scan with
  | nil => rw [List.foldl_nil, List.map_nil, List.append_nil]
  | cons run runs ih => rw [List.foldl_cons, ih, TableScan.accept, List.append_assoc, List.map_cons, List.singleton_append]

theorem scanSections_eq (scan : TableScan) :
    sections.foldl (fun scan sec => tableLoop elf targets sec scan (alignSlot sec.addr)) scan =
      (acceptedRuns elf targets sections scan.reserved).foldl (fun scan accepted => scan.accept targets accepted.1 accepted.2) scan := by
  induction sections generalizing scan with
  | nil => rfl
  | cons sec sections ih =>
    rw [List.foldl_cons, tableLoop_eq scan [] (alignSlot_spec sec.addr).1 (List.append_nil _).symm (List.forall_mem_nil _), ih,
      acceptedRuns, List.foldl_append, List.foldl_map, accept_foldl]
    rfl

theorem accept_tables (accepted : List (Section × List (Int × Int))) (scan : TableScan) :
    (accepted.foldl (fun scan accepted => scan.accept targets accepted.1 accepted.2) scan).tables =
      scan.tables ++ accepted.map (acceptedTable targets) := by
  induction accepted generalizing scan with
  | nil => rw [List.foldl_nil, List.map_nil, List.append_nil]
  | cons item accepted ih =>
    rw [List.foldl_cons, ih, TableScan.accept, List.append_assoc, List.map_cons, List.singleton_append]
    rfl

theorem accept_reserved (accepted : List (Section × List (Int × Int))) (scan : TableScan) :
    (accepted.foldl (fun scan accepted => scan.accept targets accepted.1 accepted.2) scan).reserved =
      scan.reserved ++ accepted.map fun item => (acceptedTable targets item).range := by
  induction accepted generalizing scan with
  | nil => rw [List.foldl_nil, List.map_nil, List.append_nil]
  | cons item accepted ih =>
    rw [List.foldl_cons, ih, TableScan.accept, List.append_assoc, List.map_cons, List.singleton_append]
    rfl

theorem mem_keys_set {κ β : Type} [DecidableEq κ] {dict : Dict κ β} {key other : κ} {value : β} :
    other ∈ (dict.set key value).keys ↔ other = key ∨ other ∈ dict.keys := by
  rw [Dict.keys_set]
  split
  · rename_i listed
    exact ⟨Or.inr, fun either => either.elim (fun same => same ▸ listed) id⟩
  · rw [List.mem_append, List.mem_singleton, or_comm]

theorem mem_keys_foldl_set {β : Type} (leaf : Int × Int → β) (run : List (Int × Int)) (leaves : Dict Int β) :
    slot ∈ Dict.keys (run.foldl (fun leaves entry => Dict.set leaves entry.1 (leaf entry)) leaves) ↔
      slot ∈ leaves.keys ∨ ∃ entry ∈ run, entry.1 = slot := by
  induction run generalizing leaves with
  | nil => simp
  | cons entry run ih =>
    rw [List.foldl_cons, ih, mem_keys_set]
    simp only [List.mem_cons, exists_eq_or_imp]
    constructor
    · rintro ((rfl | old) | later)
      · exact Or.inr (Or.inl rfl)
      · exact Or.inl old
      · exact Or.inr (Or.inr later)
    · rintro (old | rfl | later)
      · exact Or.inl (Or.inr old)
      · exact Or.inl (Or.inl rfl)
      · exact Or.inr later

theorem accept_leaves (accepted : List (Section × List (Int × Int))) (scan : TableScan) :
    slot ∈ (accepted.foldl (fun scan accepted => scan.accept targets accepted.1 accepted.2) scan).leaves.keys ↔
      slot ∈ scan.leaves.keys ∨ ∃ item ∈ accepted, ∃ entry ∈ item.2, entry.1 = slot := by
  induction accepted generalizing scan with
  | nil => simp
  | cons item accepted ih =>
    rw [List.foldl_cons, ih, TableScan.accept, mem_keys_foldl_set, or_assoc]
    simp only [List.mem_cons, exists_eq_or_imp]

end Scan

section Refinement
variable {elf : ElfImage} {targets : Targets} {sec owner : Section} {sections : List Section} {reserved : List Span}
  {blocked other : Int → Prop} {first slot : Int} {length : Nat} {run : List (Int × Int)}

/-- What is blocked matters at the aligned slots only. -/
theorem freePointer_congr (same : ∀ slot, slot % 4 = 0 → (blocked slot ↔ other slot)) :
    FreePointer elf sec blocked slot ↔ FreePointer elf sec other slot := by
  constructor
  · exact fun free => ⟨free.1, fun taken => free.2 ((same slot free.place.1).mpr taken)⟩
  · exact fun free => ⟨free.1, fun taken => free.2 ((same slot free.place.1).mp taken)⟩

theorem maximalRun_congr (same : ∀ slot, slot % 4 = 0 → (blocked slot ↔ other slot)) :
    MaximalRun elf sec blocked first length ↔ MaximalRun elf sec other first length := by
  constructor
  · rintro ⟨nonempty, free, before, behind⟩
    exact ⟨nonempty, fun index below => (freePointer_congr same).mp (free index below), fun free => before ((freePointer_congr same).mpr free),
      fun free => behind ((freePointer_congr same).mpr free)⟩
  · rintro ⟨nonempty, free, before, behind⟩
    exact ⟨nonempty, fun index below => (freePointer_congr same).mpr (free index below), fun free => before ((freePointer_congr same).mp free),
      fun free => behind ((freePointer_congr same).mp free)⟩

theorem MaximalRun.aligned (maximal : MaximalRun elf sec blocked first length) : first % 4 = 0 := by
  have start := maximal.free 0 maximal.nonempty
  rw [Nat.cast_zero, Int.mul_zero, Int.add_zero] at start
  exact start.place.1

theorem mem_sectionTables : run ∈ sectionTables elf targets sec reserved ↔
    ∃ first length, SectionTable elf targets sec (Inside reserved) first length ∧ run = runEntries elf sec first length := by
  rw [sectionTables, List.mem_filter, mem_sectionRuns]
  constructor
  · rintro ⟨⟨first, length, maximal, rfl⟩, qualified⟩
    exact ⟨first, length, ⟨maximal, qualified⟩, rfl⟩
  · rintro ⟨first, length, ⟨maximal, qualified⟩, rfl⟩
    exact ⟨⟨first, length, maximal, rfl⟩, qualified⟩

/-- The range of a table holds the aligned slots of its entries. -/
theorem inside_table {start : Int} {size : Nat} (aligned : slot % 4 = 0) (startAligned : start % 4 = 0) :
    (start ≤ slot ∧ slot < start + 4 * size) ↔ SlotIn start size slot := by
  constructor
  · intro inside
    exact ⟨((slot - start) / 4).toNat, by omega, by omega⟩
  · rintro ⟨index, below, rfl⟩
    omega

theorem inside_sectionTables (aligned : slot % 4 = 0) :
    Inside ((sectionTables elf targets sec reserved).map fun run => (tableRecord targets sec run).range) slot ↔
      ∃ start size, SectionTable elf targets sec (Inside reserved) start size ∧ SlotIn start size slot := by
  rw [inside_iff]
  constructor
  · rintro ⟨range, member, inside⟩
    obtain ⟨run, listed, rfl⟩ := List.mem_map.mp member
    obtain ⟨start, size, table, rfl⟩ := mem_sectionTables.mp listed
    rw [tableRecord_range table.1.nonempty] at inside
    exact ⟨start, size, table, (inside_table aligned table.1.aligned).mp inside⟩
  · rintro ⟨start, size, table, inside⟩
    refine ⟨_, List.mem_map_of_mem (mem_sectionTables.mpr ⟨start, size, table, rfl⟩), ?_⟩
    rw [tableRecord_range table.1.nonempty]
    exact (inside_table aligned table.1.aligned).mpr inside

/-- The scan accepts the tables of the sections. -/
theorem mem_acceptedRuns (same : ∀ slot, slot % 4 = 0 → (blocked slot ↔ Inside reserved slot)) :
    (owner, run) ∈ acceptedRuns elf targets sections reserved ↔
      ∃ first length, IsTable elf targets sections blocked owner first length ∧ run = runEntries elf owner first length := by
  induction sections generalizing blocked reserved with
  | nil => simp [acceptedRuns, IsTable]
  | cons sec sections ih =>
    have tables : ∀ start size, SectionTable elf targets sec blocked start size ↔
        SectionTable elf targets sec (Inside reserved) start size := by
      intro start size
      rw [SectionTable, SectionTable, maximalRun_congr same]
    have later : ∀ slot, slot % 4 = 0 → ((blocked slot ∨ ∃ start size, SectionTable elf targets sec blocked start size ∧
        SlotIn start size slot) ↔ Inside (reserved ++ (sectionTables elf targets sec reserved).map
          fun run => (tableRecord targets sec run).range) slot) := by
      intro slot aligned
      rw [inside_append, inside_sectionTables aligned, same slot aligned]
      simp only [tables]
    rw [acceptedRuns, List.mem_append, ih later, List.mem_map]
    simp only [IsTable, or_and_right, exists_or, Prod.mk.injEq]
    refine or_congr_left ⟨?_, ?_⟩
    · rintro ⟨_, listed, rfl, rfl⟩
      obtain ⟨first, length, table, rfl⟩ := mem_sectionTables.mp listed
      exact ⟨first, length, ⟨rfl, (tables first length).mpr table⟩, rfl⟩
    · rintro ⟨first, length, ⟨rfl, table⟩, rfl⟩
      exact ⟨_, mem_sectionTables.mpr ⟨first, length, (tables first length).mp table, rfl⟩, rfl, rfl⟩

/-- The slots of a table are free of what was blocked at first. -/
theorem IsTable.free (table : IsTable elf targets sections blocked owner first length) :
    0 < length ∧ owner ∈ sections ∧ qualifies targets (runEntries elf owner first length) = true ∧
      ∀ index < length, FreePointer elf owner blocked (first + 4 * index) := by
  induction sections generalizing blocked with
  | nil => cases table
  | cons sec sections ih =>
    rcases table with ⟨rfl, maximal, qualified⟩ | later
    · exact ⟨maximal.nonempty, List.mem_cons_self, qualified, maximal.free⟩
    · obtain ⟨nonempty, member, qualified, free⟩ := ih later
      exact ⟨nonempty, List.mem_cons_of_mem _ member, qualified, fun index below =>
        ⟨(free index below).1, fun taken => (free index below).2 (Or.inl taken)⟩⟩

theorem IsTable.aligned (table : IsTable elf targets sections blocked owner first length) : first % 4 = 0 := by
  obtain ⟨nonempty, _, _, free⟩ := table.free
  have start := free 0 nonempty
  rw [Nat.cast_zero, Int.mul_zero, Int.add_zero] at start
  exact start.place.1

end Refinement

section Apart
variable {elf : ElfImage} {targets : Targets} {sec : Section} {sections : List Section} {reserved : List Span} {address : Int}

/-- The runs of a section lie one behind the other. -/
theorem runsFrom_pairwise (aligned : address % 4 = 0)
    (fresh : ¬FreePointer elf sec (Inside reserved) (address - 4) ∨ ¬FreePointer elf sec (Inside reserved) address) :
    (runsFrom elf sec reserved address).Pairwise fun earlier later =>
      (tableRecord targets sec earlier).range.2 ≤ (tableRecord targets sec later).range.1 := by
  induction left : (sec.addr + sec.size - address).toNat using Nat.strongRecOn generalizing address with
  | ind n ih =>
    by_cases room : address + 4 ≤ sec.addr + sec.size
    · by_cases free : FreePointer elf sec (Inside reserved) address
      · obtain ⟨length, same, inner, ended⟩ := @pointerRun_spec elf sec reserved address
        have positive : 0 < length := by
          by_contra none
          rw [Nat.eq_zero_of_not_pos none] at ended
          exact ended (by simpa using free)
        rw [runsFrom_run free, same, runEntries_length]
        refine List.pairwise_cons.mpr ⟨fun later member => ?_, ih _ (by omega) (by omega) (Or.inr ended) rfl⟩
        obtain ⟨first, size, behind, maximal, rfl⟩ := (mem_runsFrom (by omega) (Or.inr ended)).mp member
        rw [tableRecord_range positive, tableRecord_range maximal.nonempty]
        exact behind
      · rw [runsFrom_skip free room]
        exact ih _ (by omega) (by omega) (Or.inl (by rwa [Int.add_sub_cancel])) rfl
    · rw [runsFrom_stop room]
      exact .nil

/-- Two blocks of aligned slots are apart when no slot of the one is in the other. -/
theorem apart_of_slots {first start : Int} {length size : Nat} (firstAligned : first % 4 = 0) (startAligned : start % 4 = 0)
    (positive : 0 < length) (nonempty : 0 < size) (outside : ∀ index < size, ¬(first ≤ start + 4 * index ∧ start + 4 * (index : Int) < first + 4 * length)) :
    Span.Apart (first, first + 4 * length) (start, start + 4 * size) := by
  by_contra meet
  obtain ⟨before, behind⟩ := not_or.mp meet
  dsimp only at before behind
  by_cases order : first ≤ start
  · exact outside 0 nonempty (by omega)
  · exact outside ((first - start) / 4).toNat (by omega) (by omega)

/-- All tables are apart. -/
theorem acceptedRuns_apart : (acceptedRuns elf targets sections reserved).Pairwise fun earlier later =>
    (acceptedTable targets earlier).range.Apart (acceptedTable targets later).range := by
  induction sections generalizing reserved with
  | nil => exact .nil
  | cons sec sections ih =>
    rw [acceptedRuns]
    refine List.pairwise_append.mpr ⟨?_, ih, ?_⟩
    · have fresh : ¬FreePointer elf sec (Inside reserved) (alignSlot sec.addr - 4) := by
        intro free
        have place := free.place
        have start := alignSlot_spec sec.addr
        omega
      have ordered := @runsFrom_pairwise elf targets sec reserved _ (alignSlot_spec sec.addr).1 (Or.inl fresh)
      exact List.pairwise_map.mpr ((ordered.filter _).imp Or.inl)
    · rintro earlier before ⟨owner, run⟩ behind
      obtain ⟨run', listed, rfl⟩ := List.mem_map.mp before
      obtain ⟨first, length, table, rfl⟩ := mem_sectionTables.mp listed
      obtain ⟨start, size, laterTable, rfl⟩ := (mem_acceptedRuns fun _ _ => Iff.rfl).mp behind
      obtain ⟨nonempty, _, _, free⟩ := laterTable.free
      rw [acceptedTable, acceptedTable, tableRecord_range table.1.nonempty, tableRecord_range nonempty]
      refine apart_of_slots table.1.aligned laterTable.aligned table.1.nonempty nonempty fun index below inside => (free index below).2 ?_
      refine inside_append.mpr (Or.inr (inside_iff.mpr ⟨_, List.mem_map_of_mem listed, ?_⟩))
      rw [tableRecord_range table.1.nonempty]
      exact inside

end Apart

end DataTyping

end PspDisasm
