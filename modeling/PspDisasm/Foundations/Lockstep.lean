import PspDisasm.Foundations.Effects

namespace Foundations
universe u
variable {ε ε' σ τ α β : Type u} {ι : Type u}

/-- Two stateful runs end alike: both return, in related states, or both raise. -/
inductive SameEnd (R : σ → τ → Prop) : EStateM.Result ε σ α → EStateM.Result ε' τ β → Prop
  | returned {a b s t} : R s t → SameEnd R (.ok a s) (.ok b t)
  | raised {failure other s t} : SameEnd R (.error failure s) (.error other t)

/-- From related states two computations end alike. -/
def Lockstep (R : σ → τ → Prop) (x : EStateM ε σ α) (y : EStateM ε' τ β) : Prop := ∀ s t, R s t → SameEnd R (x s) (y t)

namespace Lockstep
variable {R : σ → τ → Prop} {x : EStateM ε σ α} {y : EStateM ε' τ β} {s : σ} {t : τ}

theorem pure (a : α) (b : β) : Lockstep R (pure a : EStateM ε σ α) (pure b : EStateM ε' τ β) :=
  fun _ _ related => .returned related

theorem bind {α' β' : Type u} {f : α → EStateM ε σ α'} {g : β → EStateM ε' τ β'} (first : Lockstep R x y)
    (next : ∀ a b, Lockstep R (f a) (g b)) : Lockstep R (x >>= f) (y >>= g) := by
  intro s t related
  have ended := first s t related
  cases left : x s with
  | ok a s' =>
    cases right : y t with
    | ok b t' =>
      rw [left, right] at ended
      cases ended with
      | returned later =>
        rw [bind_after left, bind_after right]
        exact next a b s' t' later
    | error other t' =>
      rw [left, right] at ended
      cases ended
  | error failure s' =>
    cases right : y t with
    | ok b t' =>
      rw [left, right] at ended
      cases ended
    | error other t' =>
      rw [bind_raised left, bind_raised right]
      exact .raised

theorem forM {f : ι → EStateM ε σ PUnit} {g : ι → EStateM ε' τ PUnit} {items : List ι}
    (each : ∀ item ∈ items, Lockstep R (f item) (g item)) : Lockstep R (items.forM f) (items.forM g) := by
  induction items with
  | nil => exact pure _ _
  | cons item items ih =>
    obtain ⟨head, tail⟩ := List.forall_mem_cons.mp each
    exact bind head fun _ _ => ih tail

theorem mapM {f : ι → EStateM ε σ α} {g : ι → EStateM ε' τ β} {items : List ι}
    (each : ∀ item ∈ items, Lockstep R (f item) (g item)) : Lockstep R (items.mapM f) (items.mapM g) := by
  induction items with
  | nil => exact pure _ _
  | cons item items ih =>
    obtain ⟨head, tail⟩ := List.forall_mem_cons.mp each
    rw [List.mapM_cons, List.mapM_cons]
    exact bind head fun _ _ => bind (ih tail) fun _ _ => pure _ _

/-- When one of them returns, so does the other. -/
theorem returns {a : α} {final : σ} (lockstep : Lockstep R x y) (related : R s t) (ran : x s = .ok a final) :
    ∃ b last, y t = .ok b last ∧ R final last := by
  have ended := lockstep s t related
  rw [ran] at ended
  cases other : y t with
  | ok b last =>
    rw [other] at ended
    cases ended with
    | returned later => exact ⟨b, last, rfl, later⟩
  | error failure last =>
    rw [other] at ended
    cases ended

theorem returned {b : β} {last : τ} (lockstep : Lockstep R x y) (related : R s t) (ran : y t = .ok b last) :
    ∃ a final, x s = .ok a final ∧ R final last := by
  have ended := lockstep s t related
  rw [ran] at ended
  cases other : x s with
  | ok a final =>
    rw [other] at ended
    cases ended with
    | returned later => exact ⟨a, final, rfl, later⟩
  | error failure final =>
    rw [other] at ended
    cases ended

end Lockstep

end Foundations
