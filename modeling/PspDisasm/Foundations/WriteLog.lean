import PspDisasm.Foundations.Dict
import PspDisasm.Foundations.Raising

namespace Foundations
universe u v w

/-- The writes to a store, in their order. -/
abbrev WriteLog (κ : Type u) (β : Type v) := List (κ × β)

namespace WriteLog
variable {κ : Type u} {β : Type v} [DecidableEq κ] {log before later : WriteLog κ β} {files : Dict κ β} {path : κ}
  {value : β}

/-- A store behind the writes of a log. -/
def applyTo (log : WriteLog κ β) (files : Dict κ β) : Dict κ β := log.foldl (fun files write => files.set write.1 write.2) files

/-- What was written to a path last. -/
def last? (log : WriteLog κ β) (path : κ) : Option β := (log.reverse.find? fun write => write.1 = path).map Prod.snd

@[simp] theorem applyTo_nil : applyTo [] files = files := rfl

theorem applyTo_singleton (write : κ × β) : applyTo [write] files = files.set write.1 write.2 := rfl

theorem applyTo_append : (log ++ later).applyTo files = later.applyTo (log.applyTo files) := List.foldl_append

theorem last?_append : (log ++ later).last? path = (later.last? path).or (log.last? path) := by
  simp only [last?, List.reverse_append, List.find?_append, Option.map_or]

theorem last?_singleton : last? [(path, value)] path = some value := by
  simp [last?]

theorem mem_of_last? (found : log.last? path = some value) : (path, value) ∈ log := by
  obtain ⟨⟨other, written⟩, first, same⟩ := Option.map_eq_some_iff.mp found
  have here := List.find?_some first
  obtain rfl : other = path := of_decide_eq_true here
  obtain rfl : written = value := same
  exact List.mem_reverse.mp (List.mem_of_find?_eq_some first)

theorem last?_eq_none : log.last? path = none ↔ ∀ write ∈ log, write.1 ≠ path := by
  simp [last?]

/-- A store shows the last write to a path, or what it had there before. -/
theorem get?_applyTo : (log.applyTo files).get? path = (log.last? path).or (files.get? path) := by
  induction log generalizing files with
  | nil => rfl
  | cons write log ih =>
    have step : applyTo (write :: log) files = applyTo log (files.set write.1 write.2) := rfl
    have split : last? (write :: log) path = (last? log path).or (last? [write] path) := @last?_append _ _ _ [write] log path
    rw [step, ih, split, Option.or_assoc, Dict.get?_set]
    congr 1
    by_cases here : write.1 = path
    · simp [last?, here]
    · simp [last?, here]

/-- Where nothing is written, nothing changes. -/
theorem get?_elsewhere (elsewhere : ∀ write ∈ log, write.1 ≠ path) : (log.applyTo files).get? path = files.get? path := by
  rw [get?_applyTo, last?_eq_none.mpr elsewhere]
  rfl

/-- A write stands if and only if the last one behind it to its path, if there is one, wrote the same. -/
theorem get?_written : ((before ++ (path, value) :: later).applyTo files).get? path = some value ↔
    ∀ other, later.last? path = some other → other = value := by
  have split : before ++ (path, value) :: later = before ++ ([(path, value)] ++ later) := rfl
  rw [get?_applyTo, split, last?_append, last?_append, last?_singleton]
  cases later.last? path <;> simp

/-- Writes to a path that all agree stand. -/
theorem get?_agreed (member : (path, value) ∈ log) (agreed : ∀ other, (path, other) ∈ log → other = value) :
    (log.applyTo files).get? path = some value := by
  rw [get?_applyTo]
  cases found : log.last? path with
  | none => exact absurd rfl (last?_eq_none.mp found _ member)
  | some other => rw [agreed other (mem_of_last? found), Option.some_or]

end WriteLog

section Runs
variable {ε : Type u} {σ : Type v} {α : Type w} {f : σ → α → Except ε σ} {s t : σ} {xs : List α}

/-- What every turn of a fold keeps holds behind the last one. -/
theorem foldlM_keeps (Inv : σ → Prop) (ran : xs.foldlM f s = .ok t) (start : Inv s)
    (keep : ∀ x ∈ xs, ∀ s t, Inv s → f s x = .ok t → Inv t) : Inv t := by
  induction xs generalizing s with
  | nil =>
    cases ran
    exact start
  | cons x xs ih =>
    obtain ⟨first, rest⟩ := List.forall_mem_cons.mp keep
    rw [List.foldlM_cons] at ran
    obtain ⟨next, turn, ran⟩ := bind_ok.mp ran
    exact ih ran (first s next start turn) rest

end Runs

end Foundations
