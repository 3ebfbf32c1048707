import Mathlib.Data.List.Infix
import Mathlib.Logic.Function.Basic

namespace Foundations
universe u v
variable {κ : Type u} {β : Type v}

/-- The files of a disk, by path. -/
abbrev Disk (κ : Type u) (β : Type v) := κ → Option β

/-- What a program does to a disk in one step that is done or not done at a crash. -/
inductive DiskOp (κ : Type u) (β : Type v)
  | write (path : κ) (contents : β)
  | replace (source target : κ)
  | remove (path : κ)

def DiskOp.touches : DiskOp κ β → κ → Prop
  | .write path _, other => other = path
  | .replace source target, other => other = source ∨ other = target
  | .remove path, other => other = path

/-- A file is written under a temporary name and then put in its place. -/
def atomicWrite (temp path : κ) (torn contents : β) : List (DiskOp κ β) :=
  [.write temp torn, .write temp contents, .replace temp path]

section Begun
variable {ops more done : List (DiskOp κ β)} {path temp : κ} {torn contents : β}

theorem atomicWrite_touches {op : DiskOp κ β} (member : op ∈ atomicWrite temp path torn contents) {other : κ}
    (notTemp : other ≠ temp) (notPath : other ≠ path) : ¬op.touches other := by
  simp only [atomicWrite, List.mem_cons, List.not_mem_nil, or_false] at member
  rcases member with rfl | rfl | rfl
  · exact notTemp
  · exact notTemp
  · exact not_or.mpr ⟨notTemp, notPath⟩

/-- Until its last step, an atomic write touches only the temporary file. -/
theorem atomicWrite_begun (begun : done <+: atomicWrite temp path torn contents) :
    done = atomicWrite temp path torn contents ∨ ∀ op ∈ done, ∀ other, other ≠ temp → ¬op.touches other := by
  have split : atomicWrite temp path torn contents = [.write temp torn, .write temp contents] ++ [.replace temp path] := rfl
  rw [split] at begun ⊢
  rcases List.prefix_concat_iff.mp begun with whole | early
  · exact Or.inl whole
  · refine Or.inr fun op member other notTemp => ?_
    have listed := early.subset member
    simp only [List.mem_cons, List.not_mem_nil, or_false] at listed
    rcases listed with rfl | rfl
    · exact notTemp
    · exact notTemp

/-- A program that was stopped has either stopped in its first part or finished it. -/
theorem begun_append (begun : done <+: ops ++ more) : done <+: ops ∨ ∃ rest, rest <+: more ∧ ops ++ rest = done := by
  by_cases short : done.length ≤ ops.length
  · exact Or.inl (List.prefix_of_prefix_length_le begun (List.prefix_append ops more) short)
  · obtain ⟨rest, finished⟩ :=
      List.prefix_of_prefix_length_le (List.prefix_append ops more) begun (by omega)
    rw [← finished] at begun
    exact Or.inr ⟨rest, (List.prefix_append_right_inj ops).mp begun, finished⟩

end Begun

section Run
variable [DecidableEq κ] {ops more : List (DiskOp κ β)} {disk : Disk κ β} {path temp : κ} {torn contents : β}

def DiskOp.apply : DiskOp κ β → Disk κ β → Disk κ β
  | .write path contents, disk => Function.update disk path (some contents)
  | .replace source target, disk => Function.update (Function.update disk target (disk source)) source none
  | .remove path, disk => Function.update disk path none

def runOps (ops : List (DiskOp κ β)) (disk : Disk κ β) : Disk κ β := ops.foldl (fun disk op => op.apply disk) disk

theorem runOps_append : runOps (ops ++ more) disk = runOps more (runOps ops disk) := List.foldl_append

theorem apply_untouched {op : DiskOp κ β} (other : ¬op.touches path) : op.apply disk path = disk path := by
  cases op with
  | write target contents => exact Function.update_of_ne other _ _
  | replace source target =>
    obtain ⟨notSource, notTarget⟩ := not_or.mp other
    rw [DiskOp.apply, Function.update_of_ne notSource, Function.update_of_ne notTarget]
  | remove target => exact Function.update_of_ne other _ _

/-- A file that no step touches stays as it is. -/
theorem runOps_untouched (others : ∀ op ∈ ops, ¬op.touches path) : runOps ops disk path = disk path := by
  induction ops generalizing disk with
  | nil => rfl
  | cons op ops ih =>
    obtain ⟨first, rest⟩ := List.forall_mem_cons.mp others
    change runOps ops (op.apply disk) path = disk path
    rw [ih rest, apply_untouched first]

theorem runOps_atomicWrite (apart : path ≠ temp) :
    runOps (atomicWrite temp path torn contents) disk path = some contents := by
  simp [runOps, atomicWrite, DiskOp.apply, Function.update_of_ne apart]

end Run

/-- Files put in their places one after the other, each by an atomic write. -/
def atomicWrites (temp : κ → κ) (torn : β) (writes : List (κ × β)) : List (DiskOp κ β) :=
  writes.flatMap fun file => atomicWrite (temp file.1) file.1 torn file.2

section Writes
variable {temp : κ → κ} {torn : β} {writes : List (κ × β)} {done rest : List (DiskOp κ β)} {path : κ}

theorem mem_atomicWrites : .replace (temp path) path ∈ atomicWrites temp torn writes ↔ path ∈ writes.map Prod.fst := by
  simp only [atomicWrites, List.mem_flatMap, List.mem_map]
  constructor
  · rintro ⟨file, listed, member⟩
    simp only [atomicWrite, List.mem_cons, List.not_mem_nil, or_false, reduceCtorEq, false_or,
      DiskOp.replace.injEq] at member
    exact ⟨file, listed, member.2.symm⟩
  · rintro ⟨file, listed, rfl⟩
    exact ⟨file, listed, by simp [atomicWrite]⟩

/-- Where the writes are stopped, some first ones are complete, and of the next one only its temporary file is there. -/
theorem atomicWrites_begun (begun : done <+: atomicWrites temp torn writes) :
    ∃ count rest, done = atomicWrites temp torn (writes.take count) ++ rest ∧
      ∀ op ∈ rest, ∀ other, (∀ file ∈ writes, other ≠ temp file.1) → ¬op.touches other := by
  induction writes generalizing done with
  | nil =>
    obtain rfl := List.prefix_nil.mp begun
    exact ⟨0, [], rfl, fun _ member => absurd member List.not_mem_nil⟩
  | cons file writes ih =>
    rw [atomicWrites, List.flatMap_cons] at begun
    rcases begun_append begun with within | ⟨last, later, rfl⟩
    · rcases atomicWrite_begun within with rfl | early
      · refine ⟨1, [], ?_, fun _ member => absurd member List.not_mem_nil⟩
        simp [atomicWrites]
      · exact ⟨0, done, rfl, fun op member other apart => early op member other (apart file (List.mem_cons_self ..))⟩
    · obtain ⟨count, rest, rfl, spares⟩ := ih later
      refine ⟨count + 1, rest, ?_, fun op member other apart => ?_⟩
      · simp [atomicWrites]
      · exact spares op member other fun file listed => apart file (List.mem_cons_of_mem _ listed)

variable [DecidableEq κ] {disk other : Disk κ β}

/-- The disk with these files, each put there at once. -/
def putAll (writes : List (κ × β)) (disk : Disk κ β) : Disk κ β :=
  writes.foldl (fun disk file => Function.update disk file.1 (some file.2)) disk

theorem putAll_congr (same : disk path = other path) : putAll writes disk path = putAll writes other path := by
  induction writes generalizing disk other with
  | nil => exact same
  | cons file writes ih =>
    have put : Function.update disk file.1 (some file.2) path = Function.update other file.1 (some file.2) path := by
      by_cases here : path = file.1
      · rw [here, Function.update_self, Function.update_self]
      · rw [Function.update_of_ne here, Function.update_of_ne here, same]
    exact ih put

theorem runOps_atomicWrites (apart : ∀ file ∈ writes, path ≠ temp file.1) :
    runOps (atomicWrites temp torn writes) disk path = putAll writes disk path := by
  induction writes generalizing disk with
  | nil => rfl
  | cons file writes ih =>
    obtain ⟨notTemp, others⟩ := List.forall_mem_cons.mp apart
    have put : runOps (atomicWrite (temp file.1) file.1 torn file.2) disk path =
        Function.update disk file.1 (some file.2) path := by
      by_cases here : path = file.1
      · subst here
        rw [runOps_atomicWrite notTemp, Function.update_self]
      · rw [Function.update_of_ne here, runOps_untouched fun _ member => atomicWrite_touches member notTemp here]
    rw [atomicWrites, List.flatMap_cons, runOps_append, ← atomicWrites, ih others]
    exact putAll_congr put

/-- What a stopped sequence of atomic writes shows of a file, and which of the replacements it has made. -/
theorem stoppedWrites (begun : done <+: atomicWrites temp torn writes) :
    ∃ count, ∀ path, (∀ file ∈ writes, path ≠ temp file.1) →
      (∀ disk, runOps done disk path = putAll (writes.take count) disk path) ∧
      (.replace (temp path) path ∈ done ↔ path ∈ (writes.take count).map Prod.fst) := by
  obtain ⟨count, rest, rfl, spares⟩ := atomicWrites_begun begun
  refine ⟨count, fun path apart => ⟨fun disk => ?_, ?_⟩⟩
  · rw [runOps_append, runOps_untouched fun op member => spares op member path apart]
    exact runOps_atomicWrites fun file listed => apart file (List.mem_of_mem_take listed)
  · rw [List.mem_append, mem_atomicWrites]
    refine or_iff_left fun member => ?_
    exact spares _ member path apart (Or.inr rfl)

end Writes

end Foundations
