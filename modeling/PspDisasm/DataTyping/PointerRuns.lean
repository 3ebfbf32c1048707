import PspDisasm.DataTyping.Inference

namespace PspDisasm
open Foundations

namespace DataTyping

section Words
variable {elf : ElfImage} {sec : Section} {slot value : Int}

theorem safeWord_inside (read : safeWord elf sec slot = some value) :
    slot % 4 = 0 ∧ sec.addr ≤ slot ∧ slot + 4 ≤ sec.addr + sec.size := by
  unfold safeWord at read
  split at read
  · cases read
  · rename_i aligned
    split at read
    · cases read
    · rename_i inside
      obtain ⟨lower, upper⟩ := not_or.mp inside
      exact ⟨not_not.mp aligned, Int.not_lt.mp lower, Int.not_lt.mp upper⟩

theorem pointerWord_eq_some :
    pointerWord elf sec slot = some value ↔ safeWord elf sec slot = some value ∧ (allocatedSection elf value false).isSome := by
  simp only [pointerWord, Option.filter_eq_some_iff]

theorem alignSlot_spec (address : Int) : alignSlot address % 4 = 0 ∧ address ≤ alignSlot address ∧ alignSlot address < address + 4 := by
  unfold alignSlot
  omega

end Words

section Runs
variable (elf : ElfImage) (sec : Section) (blocked : Int → Prop)

/-- A slot that holds an address of the image, outside of what is blocked. -/
def FreePointer (slot : Int) : Prop := (pointerWord elf sec slot).isSome ∧ ¬blocked slot

/-- The entries of `length` slots from `first` on. -/
def runEntries (first : Int) : Nat → List (Int × Int)
  | 0 => []
  | length + 1 => (first, (pointerWord elf sec first).getD 0) :: runEntries (first + 4) length

/-- A run of free pointers that goes on neither before nor behind it. -/
structure MaximalRun (first : Int) (length : Nat) : Prop where
  nonempty : 0 < length
  free : ∀ index < length, FreePointer elf sec blocked (first + 4 * index)
  before : ¬FreePointer elf sec blocked (first - 4)
  behind : ¬FreePointer elf sec blocked (first + 4 * length)

/-- The runs from an address on, whether they qualify or not. -/
def runsFrom (reserved : List Span) (address : Int) : List (List (Int × Int)) :=
  if address + 4 ≤ sec.addr + sec.size then
    if insideRanges address reserved ∨ pointerWord elf sec address = none then runsFrom reserved (address + 4)
    else
      let run := pointerRun elf sec reserved address
      run :: runsFrom reserved (max (address + 4) (address + 4 * run.length))
  else []
termination_by (sec.addr + sec.size - address).toNat

end Runs

section Runs
variable {elf : ElfImage} {sec : Section} {blocked : Int → Prop} {reserved : List Span} {address first slot : Int} {length : Nat}

def Inside (ranges : List Span) (address : Int) : Prop := insideRanges address ranges = true

instance : Decidable (Inside reserved address) := inferInstanceAs (Decidable (_ = true))

theorem inside_iff : Inside reserved slot ↔ ∃ range ∈ reserved, range.1 ≤ slot ∧ slot < range.2 := by
  simp only [Inside, insideRanges, List.any_eq_true, decide_eq_true_eq]

theorem inside_append {more : List Span} : Inside (reserved ++ more) slot ↔ Inside reserved slot ∨ Inside more slot := by
  simp only [inside_iff, List.mem_append, or_and_right, exists_or]

theorem FreePointer.place (free : FreePointer elf sec blocked slot) :
    slot % 4 = 0 ∧ sec.addr ≤ slot ∧ slot + 4 ≤ sec.addr + sec.size := by
  obtain ⟨value, word⟩ := Option.isSome_iff_exists.mp free.1
  exact safeWord_inside (pointerWord_eq_some.mp word).1

/-- The test of the code for a slot that opens or continues a run. -/
theorem freePointer_iff : FreePointer elf sec (Inside reserved) slot ↔
    ¬(insideRanges slot reserved = true ∨ pointerWord elf sec slot = none) := by
  rw [not_or, FreePointer, Inside, Option.isSome_iff_ne_none, and_comm]

theorem pointerRun_free (free : FreePointer elf sec (Inside reserved) address) : pointerRun elf sec reserved address =
    (address, (pointerWord elf sec address).getD 0) :: pointerRun elf sec reserved (address + 4) := by
  obtain ⟨value, word⟩ := Option.isSome_iff_exists.mp free.1
  rw [pointerRun, if_pos ⟨free.place.2.2, free.2⟩, word]
  rfl

theorem pointerRun_stop (stop : ¬FreePointer elf sec (Inside reserved) address) : pointerRun elf sec reserved address = [] := by
  rw [pointerRun]
  split
  · rename_i going
    have none : pointerWord elf sec address = none := by
      by_contra some
      exact stop ⟨Option.isSome_iff_ne_none.mpr some, going.2⟩
    rw [none]
  · rfl

/-- A run goes on to the first slot that is not free. -/
theorem pointerRun_spec (address : Int) : ∃ length, pointerRun elf sec reserved address = runEntries elf sec address length ∧
    (∀ index < length, FreePointer elf sec (Inside reserved) (address + 4 * index)) ∧
      ¬FreePointer elf sec (Inside reserved) (address + 4 * length) := by
  induction left : (sec.addr + sec.size - address).toNat using Nat.strongRecOn generalizing address with
  | ind n ih =>
    by_cases free : FreePointer elf sec (Inside reserved) address
    · have room := free.place.2.2
      obtain ⟨length, same, inner, ended⟩ := ih _ (by omega) (address + 4) rfl
      refine ⟨length + 1, by rw [pointerRun_free free, same]; rfl, fun index below => ?_, ?_⟩
      · cases index with
        | zero => simpa using free
        | succ index =>
          have later := inner index (by omega)
          rwa [show address + 4 + 4 * (index : Int) = address + 4 * (index + 1 : Nat) by push_cast; ring] at later
      · rwa [show address + 4 * ((length + 1 : Nat) : Int) = address + 4 + 4 * length by push_cast; ring]
    · exact ⟨0, pointerRun_stop free, fun index below => absurd below (Nat.not_lt_zero _), by simpa using free⟩

@[simp] theorem runEntries_length : (runEntries elf sec first length).length = length := by
  induction length generalizing first with
  | zero => rfl
  | succ length ih => rw [runEntries, List.length_cons, ih]

theorem mem_runEntries {entry : Int × Int} : entry ∈ runEntries elf sec first length ↔
    ∃ index < length, entry = (first + 4 * index, (pointerWord elf sec (first + 4 * index)).getD 0) := by
  induction length generalizing first with
  | zero => simp [runEntries]
  | succ length ih =>
    rw [runEntries, List.mem_cons, ih]
    constructor
    · rintro (rfl | ⟨index, below, rfl⟩)
      · exact ⟨0, Nat.succ_pos _, by simp⟩
      · refine ⟨index + 1, Nat.succ_lt_succ below, ?_⟩
        rw [show first + 4 + 4 * (index : Int) = first + 4 * (index + 1 : Nat) by push_cast; ring]
    · rintro ⟨index, below, rfl⟩
      cases index with
      | zero => exact Or.inl (by simp)
      | succ index =>
        refine Or.inr ⟨index, Nat.lt_of_succ_lt_succ below, ?_⟩
        rw [show first + 4 + 4 * (index : Int) = first + 4 * (index + 1 : Nat) by push_cast; ring]

theorem runEntries_head (nonempty : 0 < length) : (runEntries elf sec first length).head?.map (·.1) = some first := by
  cases length with
  | zero => cases nonempty
  | succ length => rfl

/-- Two maximal runs that begin alike are one. -/
theorem MaximalRun.unique {other : Nat} (run : MaximalRun elf sec blocked first length) (again : MaximalRun elf sec blocked first other) :
    length = other := by
  rcases Nat.lt_trichotomy length other with shorter | same | longer
  · exact absurd (again.free length shorter) run.behind
  · exact same
  · exact absurd (run.free other longer) again.behind

end Runs

section Scan
variable {elf : ElfImage} {targets : Targets} {sec : Section} {reserved more : List Span} {address first : Int} {length : Nat}

theorem runsFrom_skip (taken : ¬FreePointer elf sec (Inside reserved) address) (room : address + 4 ≤ sec.addr + sec.size) :
    runsFrom elf sec reserved address = runsFrom elf sec reserved (address + 4) := by
  rw [runsFrom, if_pos room, if_pos (not_not.mp fun open_ => taken (freePointer_iff.mpr open_))]

theorem runsFrom_stop (full : ¬address + 4 ≤ sec.addr + sec.size) : runsFrom elf sec reserved address = [] := by
  rw [runsFrom, if_neg full]

theorem runsFrom_run (free : FreePointer elf sec (Inside reserved) address) :
    runsFrom elf sec reserved address = pointerRun elf sec reserved address ::
      runsFrom elf sec reserved (address + 4 * (pointerRun elf sec reserved address).length) := by
  have positive : 1 ≤ (pointerRun elf sec reserved address).length := by
    rw [pointerRun_free free, List.length_cons]
    omega
  rw [runsFrom, if_pos free.place.2.2, if_neg (freePointer_iff.mp free)]
  dsimp only
  rw [max_eq_right (by omega)]

/-- The runs from an address on are the maximal ones that begin there or later. -/
theorem mem_runsFrom (aligned : address % 4 = 0)
    (fresh : ¬FreePointer elf sec (Inside reserved) (address - 4) ∨ ¬FreePointer elf sec (Inside reserved) address)
    {run : List (Int × Int)} : run ∈ runsFrom elf sec reserved address ↔
      ∃ first length, address ≤ first ∧ MaximalRun elf sec (Inside reserved) first length ∧ run = runEntries elf sec first length := by
  induction left : (sec.addr + sec.size - address).toNat using Nat.strongRecOn generalizing address with
  | ind n ih =>
    by_cases room : address + 4 ≤ sec.addr + sec.size
    · by_cases free : FreePointer elf sec (Inside reserved) address
      · obtain ⟨length, same, inner, ended⟩ := @pointerRun_spec elf sec reserved address
        have before := fresh.resolve_right (not_not.mpr free)
        have positive : 0 < length := by
          by_contra none
          rw [Nat.eq_zero_of_not_pos none] at ended
          exact ended (by simpa using free)
        have here : MaximalRun elf sec (Inside reserved) address length := ⟨positive, inner, before, ended⟩
        rw [runsFrom_run free, same, runEntries_length, List.mem_cons, ih _ (by omega) (by omega) (Or.inr ended) rfl]
        constructor
        · rintro (rfl | ⟨first, size, later, maximal, rfl⟩)
          · exact ⟨address, length, le_rfl, here, rfl⟩
          · exact ⟨first, size, by omega, maximal, rfl⟩
        · rintro ⟨first, size, later, maximal, rfl⟩
          have start := maximal.free 0 maximal.nonempty
          have place := start.place
          by_cases same : first = address
          · subst same
            rw [maximal.unique here]
            exact Or.inl rfl
          · refine Or.inr ⟨first, size, ?_, maximal, rfl⟩
            by_contra inside
            have distance : (first - 4 - address) % 4 = 0 ∧ 0 ≤ first - 4 - address := by omega
            have index := inner ((first - 4 - address) / 4).toNat (by omega)
            rw [show address + 4 * (((first - 4 - address) / 4).toNat : Int) = first - 4 by omega] at index
            exact maximal.before index
      · rw [runsFrom_skip free room, ih _ (by omega) (by omega) (Or.inl (by rwa [Int.add_sub_cancel])) rfl]
        constructor
        · rintro ⟨first, size, later, maximal, rfl⟩
          exact ⟨first, size, by omega, maximal, rfl⟩
        · rintro ⟨first, size, later, maximal, rfl⟩
          have start := maximal.free 0 maximal.nonempty
          rw [Nat.cast_zero, Int.mul_zero, Int.add_zero] at start
          have place := start.place
          refine ⟨first, size, ?_, maximal, rfl⟩
          by_contra inside
          have same : first = address := by omega
          exact free (same ▸ start)
    · rw [runsFrom_stop room]
      refine iff_of_false List.not_mem_nil ?_
      rintro ⟨first, size, later, maximal, _⟩
      have start := maximal.free 0 maximal.nonempty
      have place := start.place
      omega

/-- The runs of a section are its maximal runs of free pointers. -/
theorem mem_sectionRuns {run : List (Int × Int)} : run ∈ runsFrom elf sec reserved (alignSlot sec.addr) ↔
    ∃ first length, MaximalRun elf sec (Inside reserved) first length ∧ run = runEntries elf sec first length := by
  obtain ⟨aligned, lower, upper⟩ := alignSlot_spec sec.addr
  have fresh : ¬FreePointer elf sec (Inside reserved) (alignSlot sec.addr - 4) := by
    intro free
    have place := free.place
    omega
  rw [mem_runsFrom aligned (Or.inl fresh)]
  constructor
  · rintro ⟨first, length, _, maximal, rfl⟩
    exact ⟨first, length, maximal, rfl⟩
  · rintro ⟨first, length, maximal, rfl⟩
    have start := maximal.free 0 maximal.nonempty
    have place := start.place
    exact ⟨first, length, by omega, maximal, rfl⟩

/-- Ranges that end at or before an address do not matter for a run from there on. -/
theorem pointerRun_congr (behind : ∀ range ∈ more, range.2 ≤ address) :
    pointerRun elf sec (reserved ++ more) address = pointerRun elf sec reserved address := by
  induction left : (sec.addr + sec.size - address).toNat using Nat.strongRecOn generalizing address with
  | ind n ih =>
    have same : FreePointer elf sec (Inside (reserved ++ more)) address ↔ FreePointer elf sec (Inside reserved) address := by
      have apart : ¬Inside more address := by
        rw [inside_iff]
        rintro ⟨range, member, _, upper⟩
        have ended := behind range member
        omega
      rw [FreePointer, FreePointer, inside_append, or_iff_left apart]
    by_cases free : FreePointer elf sec (Inside reserved) address
    · have place := free.place
      rw [pointerRun_free free, pointerRun_free (same.mpr free),
        ih _ (by omega) (fun range member => by have ended := behind range member; omega) rfl]
    · rw [pointerRun_stop free, pointerRun_stop fun other => free (same.mp other)]

theorem tableRecord_range (nonempty : 0 < length) :
    (tableRecord targets sec (runEntries elf sec first length)).range = (first, first + 4 * length) := by
  have size : max 1 ((length : Int) * 4) = 4 * length := by omega
  simp only [DataTypeRecord.range, tableRecord, runEntries_head nonempty, runEntries_length, Option.getD_some, size]

/-- The loop accepts the runs that qualify, one after the other. -/
theorem tableLoop_eq (scan : TableScan) (more : List Span) (aligned : address % 4 = 0) (known : scan.reserved = reserved ++ more)
    (behind : ∀ range ∈ more, range.2 ≤ address) : tableLoop elf targets sec scan address =
      ((runsFrom elf sec reserved address).filter (qualifies targets)).foldl (fun scan run => scan.accept targets sec run) scan := by
  induction left : (sec.addr + sec.size - address).toNat using Nat.strongRecOn generalizing address scan more with
  | ind n ih =>
    have outside : ∀ later, address ≤ later → ∀ range ∈ more, range.2 ≤ later := fun later order range member =>
      (behind range member).trans order
    by_cases room : address + 4 ≤ sec.addr + sec.size
    · have same : FreePointer elf sec (Inside scan.reserved) address ↔ FreePointer elf sec (Inside reserved) address := by
        have apart : ¬Inside more address := by
          rw [inside_iff]
          rintro ⟨range, member, _, upper⟩
          have ended := behind range member
          omega
        rw [known, FreePointer, FreePointer, inside_append, or_iff_left apart]
      by_cases free : FreePointer elf sec (Inside reserved) address
      · have run := @pointerRun_congr elf sec reserved more address behind
        obtain ⟨length, entries, inner, ended⟩ := @pointerRun_spec elf sec reserved address
        have positive : 0 < length := by
          by_contra none
          rw [Nat.eq_zero_of_not_pos none] at ended
          exact ended (by simpa using free)
        rw [tableLoop, if_pos room, if_neg (freePointer_iff.mp (same.mpr free)), runsFrom_run free, known, run, entries]
        simp only [runEntries_length]
        by_cases qualified : qualifies targets (runEntries elf sec address length) = true
        · rw [dif_pos qualified, List.filter_cons_of_pos qualified, List.foldl_cons]
          refine ih _ (by omega) _ (more ++ [(address, address + 4 * length)]) (by omega) ?_ ?_ rfl
          · rw [TableScan.accept, tableRecord_range positive, known, List.append_assoc]
          · rw [List.forall_mem_append, List.forall_mem_singleton]
            exact ⟨outside _ (by omega), le_rfl⟩
        · rw [dif_neg qualified, List.filter_cons_of_neg qualified, max_eq_right (by omega)]
          exact ih _ (by omega) scan more (by omega) known (outside _ (by omega)) rfl
      · rw [runsFrom_skip free room, tableLoop, if_pos room, if_pos (not_not.mp fun open_ => free (same.mp (freePointer_iff.mpr open_)))]
        exact ih _ (by omega) scan more (by omega) known (outside _ (by omega)) rfl
    · rw [runsFrom_stop room, tableLoop, if_neg room]
      rfl

end Scan

end DataTyping

end PspDisasm
