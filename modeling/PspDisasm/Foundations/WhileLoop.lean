import PspDisasm.Foundations.Raising

namespace Foundations
universe u v

/-- A `while` loop whose body may raise. Every turn that completes shrinks
the measure, so a run always ends, normally or by raising. -/
structure WhileLoop (ε : Type u) (σ : Type v) where
  test : σ → Bool
  body : σ → Except ε σ
  measure : σ → Nat
  shrinks : ∀ {s t}, test s = true → body s = .ok t → measure t < measure s

namespace WhileLoop
variable {ε : Type u} {σ : Type v} {loop : WhileLoop ε σ} {s t final : σ} {raised : ε}

def run (loop : WhileLoop ε σ) (s : σ) : Except ε σ :=
  if _going : loop.test s = true then
    match _turn : loop.body s with
    | .ok t => loop.run t
    | .error raised => .error raised
  else .ok s
termination_by loop.measure s
decreasing_by exact loop.shrinks _going _turn

theorem run_done (stop : loop.test s = false) : loop.run s = .ok s := by
  rw [run, dif_neg (by simp [stop])]

theorem run_turn (going : loop.test s = true) (turn : loop.body s = .ok t) : loop.run s = loop.run t := by
  rw [run, dif_pos going]
  split
  · rename_i next same
    cases turn.symm.trans same
    rfl
  · rename_i failure
    cases turn.symm.trans failure

theorem run_raise (going : loop.test s = true) (failure : loop.body s = .error raised) :
    loop.run s = .error raised := by
  rw [run, dif_pos going]
  split
  · rename_i same
    cases failure.symm.trans same
  · rename_i other same
    cases failure.symm.trans same
    rfl

/-- Induction along the turns of a loop: a property of states that a stopped
state has, and that a state inherits from the next one, holds of every state. -/
theorem run_induction {motive : σ → Prop} (done : ∀ s, loop.test s = false → motive s)
    (raise : ∀ s raised, loop.test s = true → loop.body s = .error raised → motive s)
    (turn : ∀ s t, loop.test s = true → loop.body s = .ok t → motive t → motive s) (s : σ) : motive s := by
  induction size : loop.measure s using Nat.strongRecOn generalizing s with
  | ind n ih =>
    cases going : loop.test s with
    | false => exact done s going
    | true =>
      cases outcome : loop.body s with
      | error raised => exact raise s raised going outcome
      | ok t =>
        have smaller := loop.shrinks going outcome
        exact turn s t going outcome (ih _ (size ▸ smaller) t rfl)

/-- The invariant rule. What every turn preserves holds at the exit, where
the test is false. -/
theorem run_invariant (Inv : σ → Prop) (keep : ∀ s t, loop.test s = true → loop.body s = .ok t → Inv s → Inv t)
    (start : Inv s) (ran : loop.run s = .ok final) : Inv final ∧ loop.test final = false := by
  induction s using loop.run_induction with
  | done s stop =>
    rw [run_done stop] at ran
    cases ran
    exact ⟨start, stop⟩
  | raise s raised going failure =>
    rw [run_raise going failure] at ran
    cases ran
  | turn s t going outcome ih =>
    rw [run_turn going outcome] at ran
    exact ih (keep s t going outcome start) ran

/-- A raised exception leaves the loop from a state where the invariant holds. -/
theorem run_raises (Inv : σ → Prop) (keep : ∀ s t, loop.test s = true → loop.body s = .ok t → Inv s → Inv t)
    (start : Inv s) (ran : loop.run s = .error raised) :
    ∃ t, Inv t ∧ loop.test t = true ∧ loop.body t = .error raised := by
  induction s using loop.run_induction with
  | done s stop =>
    rw [run_done stop] at ran
    cases ran
  | raise s other going failure =>
    rw [run_raise going failure] at ran
    cases ran
    exact ⟨s, start, going, failure⟩
  | turn s t going outcome ih =>
    rw [run_turn going outcome] at ran
    exact ih (keep s t going outcome start) ran

theorem run_raisesOnly {P : ε → Prop} (each : ∀ s, RaisesOnly P (loop.body s)) : RaisesOnly P (loop.run s) := by
  intro raised failed
  obtain ⟨t, _, _, failure⟩ := run_raises (fun _ => True) (fun _ _ _ _ _ => trivial) trivial failed
  exact each t raised failure

/-- The states that a run from `s` comes to, at the start of each turn and at its end. -/
inductive Reaches (loop : WhileLoop ε σ) (s : σ) : σ → Prop
  | start : Reaches loop s s
  | turn {t u : σ} : Reaches loop s t → loop.test t = true → loop.body t = .ok u → Reaches loop s u

theorem Reaches.from_turn {u : σ} (going : loop.test s = true) (turn : loop.body s = .ok t) (reached : loop.Reaches t u) :
    loop.Reaches s u := by
  induction reached with
  | start => exact .turn .start going turn
  | turn _ going outcome ih => exact .turn ih going outcome

/-- Loops whose bodies agree wherever a run comes to make the same run. -/
theorem run_congr {other : WhileLoop ε σ} (sameTest : ∀ t, other.test t = loop.test t)
    (agree : ∀ t, loop.Reaches s t → loop.test t = true → other.body t = loop.body t) : other.run s = loop.run s := by
  induction s using loop.run_induction with
  | done s stop => rw [run_done stop, run_done ((sameTest s).trans stop)]
  | raise s raised going failure =>
    rw [run_raise going failure, run_raise ((sameTest s).trans going) ((agree s .start going).trans failure)]
  | turn s t going outcome ih =>
    rw [run_turn going outcome, run_turn ((sameTest s).trans going) ((agree s .start going).trans outcome)]
    exact ih fun u reached => agree u (reached.from_turn going outcome)

end WhileLoop

end Foundations
