import PspDisasm.Foundations.WhileLoop

namespace Foundations
universe u v
variable {ε : Type u} {α α' β β' : Type v} {σ τ : Type v} {raised : ε}

/-- Two runs end alike: with related results, or with the same exception. -/
inductive Alike (R : α → α' → Prop) : Except ε α → Except ε α' → Prop
  | returned {a a'} : R a a' → Alike R (.ok a) (.ok a')
  | raised (failure : ε) : Alike R (.error failure) (.error failure)

namespace Alike
variable {R : α → α' → Prop} {S : β → β' → Prop}

theorem bind {x : Except ε α} {x' : Except ε α'} {f : α → Except ε β} {f' : α' → Except ε β'} (first : Alike R x x')
    (next : ∀ a a', R a a' → Alike S (f a) (f' a')) : Alike S (x >>= f) (x' >>= f') := by
  cases first with
  | returned related => exact next _ _ related
  | raised failure => exact .raised failure

/-- A part that both runs share may return anything, the same in both. -/
theorem bind_same {x : Except ε α} {f : α → Except ε β} {f' : α → Except ε β'}
    (next : ∀ a, Alike S (f a) (f' a)) : Alike S (x >>= f) (x >>= f') := by
  cases x with
  | ok a => exact next a
  | error failure => exact .raised failure

theorem eq {x x' : Except ε α} (alike : Alike Eq x x') : x = x' := by
  cases alike with
  | returned same => rw [same]
  | raised => rfl

end Alike

/-- Two loops that test alike and turn alike run alike. -/
theorem WhileLoop.run_alike {loop : WhileLoop ε σ} {other : WhileLoop ε τ} {R : σ → τ → Prop}
    (test : ∀ s t, R s t → loop.test s = other.test t) (turn : ∀ s t, R s t → Alike R (loop.body s) (other.body t))
    {s : σ} {t : τ} (related : R s t) : Alike R (loop.run s) (other.run t) := by
  induction s using loop.run_induction generalizing t with
  | done s stop =>
    rw [run_done stop, run_done ((test s t related).symm.trans stop)]
    exact .returned related
  | raise s failure going failed =>
    have alike := turn s t related
    rw [failed] at alike
    cases same : other.body t with
    | ok _ =>
      rw [same] at alike
      cases alike
    | error _ =>
      rw [same] at alike
      cases alike
      rw [run_raise going failed, run_raise ((test s t related).symm.trans going) same]
      exact .raised failure
  | turn s next going ran ih =>
    have alike := turn s t related
    rw [ran] at alike
    cases same : other.body t with
    | ok _ =>
      rw [same] at alike
      cases alike with
      | returned further =>
        rw [run_turn going ran, run_turn ((test s t related).symm.trans going) same]
        exact ih further
    | error _ =>
      rw [same] at alike
      cases alike

end Foundations
