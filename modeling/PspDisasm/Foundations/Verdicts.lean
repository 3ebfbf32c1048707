import PspDisasm.Foundations.Raising

namespace Foundations
universe u v
variable {ε : Type u} {α β : Type v}

/-- How a step of a reader ends: it reads, it refuses by an expected exception, or it breaks off by another one. -/
inductive Verdict
  | reads
  | refused
  | breaks
deriving DecidableEq, Repr

namespace Verdict

def andThen : Verdict → Verdict → Verdict
  | .reads, next => next
  | first, _ => first

/-- The verdict on steps that are taken in turn: that of the first one that does not read. -/
def first : List Verdict → Verdict
  | [] => .reads
  | step :: steps => step.andThen (first steps)

@[simp] theorem reads_andThen (next : Verdict) : Verdict.reads.andThen next = next := rfl

@[simp] theorem refused_andThen (next : Verdict) : Verdict.refused.andThen next = .refused := rfl

@[simp] theorem breaks_andThen (next : Verdict) : Verdict.breaks.andThen next = .breaks := rfl

@[simp] theorem andThen_reads (step : Verdict) : step.andThen .reads = step := by
  cases step <;> rfl

theorem andThen_assoc (a b c : Verdict) : (a.andThen b).andThen c = a.andThen (b.andThen c) := by
  cases a <;> rfl

theorem first_cons (step : Verdict) (steps : List Verdict) : first (step :: steps) = step.andThen (first steps) := rfl

@[simp] theorem first_singleton (step : Verdict) : first [step] = step := andThen_reads step

/-- Steps break off when one of them does and all before it read. -/
theorem first_breaks {steps : List Verdict} : first steps = .breaks ↔ ∃ before after, steps = before ++ .breaks :: after ∧ ∀ step ∈ before, step = .reads := by
  induction steps with
  | nil => simp [first]
  | cons step steps ih =>
    rw [first_cons]
    constructor
    · intro broken
      cases step with
      | reads =>
        obtain ⟨before, after, rfl, read⟩ := ih.mp broken
        exact ⟨.reads :: before, after, rfl, List.forall_mem_cons.mpr ⟨rfl, read⟩⟩
      | refused => cases broken
      | breaks => exact ⟨[], steps, rfl, fun _ listed => absurd listed List.not_mem_nil⟩
    · rintro ⟨before, after, same, read⟩
      cases before with
      | nil =>
        cases same
        rfl
      | cons head before =>
        obtain ⟨rfl, rfl⟩ := List.cons.inj same
        obtain ⟨rfl, later⟩ := List.forall_mem_cons.mp read
        exact ih.mpr ⟨before, after, rfl, later⟩

end Verdict

section Readers
variable (expected : ε → Bool)

def verdict : Except ε α → Verdict
  | .ok _ => .reads
  | .error raised => if expected raised then .refused else .breaks

variable {expected} {x : Except ε α}

@[simp] theorem verdict_ok (a : α) : verdict expected (.ok a : Except ε α) = .reads := rfl

@[simp] theorem verdict_pure (a : α) : verdict expected (pure a : Except ε α) = .reads := rfl

@[simp] theorem verdict_map (f : α → β) : verdict expected (f <$> x) = verdict expected x := by
  cases x <;> rfl

/-- What follows a step may depend on what was read, its verdict may not. -/
theorem verdict_bind {f : α → Except ε β} {next : Verdict} (rest : ∀ a, x = .ok a → verdict expected (f a) = next) :
    verdict expected (x >>= f) = (verdict expected x).andThen next := by
  cases x with
  | ok a => exact rest a rfl
  | error raised =>
    rw [error_bind, verdict, verdict]
    cases expected raised <;> rfl

theorem verdict_mapM (f : α → Except ε β) (items : List α) :
    verdict expected (items.mapM f) = .first (items.map fun item => verdict expected (f item)) := by
  induction items with
  | nil => rfl
  | cons item items ih =>
    rw [List.mapM_cons, List.map_cons, Verdict.first_cons, ← ih]
    refine verdict_bind fun a _ => ?_
    have rest : verdict expected (items.mapM f >>= fun read => pure (a :: read)) = (verdict expected (items.mapM f)).andThen .reads :=
      verdict_bind fun _ _ => rfl
    rw [rest, Verdict.andThen_reads]

/-- A reader raises only expected exceptions when it does not break off. -/
theorem raisesOnly_iff_verdict : RaisesOnly (fun raised => expected raised = true) x ↔ verdict expected x ≠ .breaks := by
  cases x with
  | ok a => exact iff_of_true (raisesOnly_value a) (by simp)
  | error raised =>
    rw [raisesOnly_error, verdict]
    cases expected raised <;> simp

end Readers

end Foundations
