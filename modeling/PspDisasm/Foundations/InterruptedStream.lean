import Mathlib.Data.List.Basic
import Mathlib.Logic.Function.Iterate
import PspDisasm.Foundations.Effects

namespace Foundations

/-- A stream with interruptions: what can be read before the next one, and the parts behind it. -/
structure Parts (α : Type) where
  lead : List α
  later : List (List α)

namespace Parts
variable {α : Type} {p : Parts α} {size more : Nat}

/-- What is left of the stream, without its interruptions. -/
def stream (p : Parts α) : List α := p.lead ++ p.later.flatten

/-- What is left behind the next interruption. -/
def skip (p : Parts α) : Parts α := ⟨p.later.headD [], p.later.tail⟩

def drop (size : Nat) (p : Parts α) : Parts α := ⟨p.lead.drop size, p.later⟩

@[simp] theorem skip_drop : (p.drop size).skip = p.skip := rfl

@[simp] theorem drop_drop : (p.drop size).drop more = p.drop (size + more) := by
  simp only [drop, List.drop_drop]

@[simp] theorem length_drop : (p.drop size).lead.length = p.lead.length - size := List.length_drop ..

theorem stream_drop (within : size ≤ p.lead.length) : (p.drop size).stream = p.stream.drop size := by
  simp only [drop, stream, List.drop_append_of_le_length within]

theorem stream_skip : p.skip.stream = p.later.flatten := by
  rcases p with ⟨lead, later⟩
  cases later with
  | nil => rfl
  | cons part later => rfl

theorem stream_skip_le : p.skip.stream.length ≤ p.stream.length := by
  rw [stream_skip, stream, List.length_append]
  omega

/-- All parts, the one being read first. -/
def all (p : Parts α) : List (List α) := p.lead :: p.later

/-- What is left of some parts, in the middle of one of them. -/
def Within (whole : List (List α)) (p : Parts α) : Prop :=
  ∃ before front, whole = before ++ (front ++ p.lead) :: p.later

theorem within_all : Within p.all p := ⟨[], [], rfl⟩

theorem Within.drop {whole : List (List α)} (within : Within whole p) : Within whole (p.drop size) := by
  obtain ⟨before, front, split⟩ := within
  refine ⟨before, front ++ p.lead.take size, ?_⟩
  rw [split, Parts.drop, List.append_assoc, List.take_append_drop]

/-- Behind an interruption the next part starts, if there is one. -/
theorem Within.skip {whole : List (List α)} (within : Within whole p) :
    Within whole p.skip ∧ (p.skip.lead ≠ [] → ∃ before, whole = before ++ p.skip.lead :: p.skip.later) := by
  obtain ⟨before, front, split⟩ := within
  rcases p with ⟨lead, later⟩
  cases later with
  | nil =>
    refine ⟨⟨before, front ++ lead, ?_⟩, fun nonempty => absurd rfl nonempty⟩
    rw [split, Parts.skip, List.headD_nil, List.append_nil, List.tail_nil]
  | cons part later =>
    have starts : whole = before ++ [front ++ lead] ++ part :: later := by
      rw [split, List.append_assoc, List.singleton_append]
    exact ⟨⟨_, [], starts⟩, fun _ => ⟨_, starts⟩⟩

/-- An element sequence ahead that ends before the next interruption can be read off. -/
theorem take_lead {part rest : List α} (ahead : p.stream = part ++ rest) (within : part.length ≤ p.lead.length) :
    p.lead.take part.length = part := by
  have taken : p.stream.take part.length = part := by rw [ahead, List.take_left]
  rwa [stream, List.take_append_of_le_length within] at taken

end Parts

/-- The computation needs `size` more elements of the stream. It takes just these and returns or raises
`result`, unless an interruption comes first: then it fails, and what it had taken is lost. -/
def Settles {ε σ α β : Type} (parts : σ → Parts α) (x : EStateM ε σ β) (s : σ) (size : Nat)
    (result : Except ε β) : Prop :=
  if size ≤ (parts s).lead.length then ∃ t, x s = lifted result t ∧ parts t = (parts s).drop size
  else ∃ failure t, x s = .error failure t ∧ parts t = (parts s).skip

namespace Settles
variable {ε σ α β γ : Type} {parts : σ → Parts α} {x : EStateM ε σ β} {f : β → EStateM ε σ γ}
  {s : σ} {size more : Nat} {b : β} {result : Except ε β}

theorem taken (settled : Settles parts x s size result) (within : size ≤ (parts s).lead.length) :
    ∃ t, x s = Foundations.lifted result t ∧ parts t = (parts s).drop size := by
  rwa [Settles, if_pos within] at settled

theorem interrupted (settled : Settles parts x s size result) (short : (parts s).lead.length < size) :
    ∃ failure t, x s = .error failure t ∧ parts t = (parts s).skip := by
  rwa [Settles, if_neg (by omega)] at settled

theorem of_taken {t : σ} (within : size ≤ (parts s).lead.length) (ran : x s = Foundations.lifted result t)
    (after : parts t = (parts s).drop size) : Settles parts x s size result := by
  rw [Settles, if_pos within]
  exact ⟨t, ran, after⟩

theorem of_interrupted {t : σ} {failure : ε} (short : (parts s).lead.length < size)
    (ran : x s = .error failure t) (after : parts t = (parts s).skip) : Settles parts x s size result := by
  rw [Settles, if_neg (by omega)]
  exact ⟨failure, t, ran, after⟩

/-- The result matters only where no interruption comes first. -/
theorem congr {other : Except ε β} (settled : Settles parts x s size result)
    (same : size ≤ (parts s).lead.length → result = other) : Settles parts x s size other := by
  unfold Settles at *
  split
  · rename_i within
    rwa [if_pos within, same within] at settled
  · rename_i short
    rwa [if_neg short] at settled

theorem lifted : Settles parts (lifted result) s 0 result := by
  rw [Settles, if_pos (Nat.zero_le _)]
  exact ⟨s, rfl, rfl⟩

theorem pure : Settles parts (pure b : EStateM ε σ β) s 0 (.ok b) := by
  rw [Settles, if_pos (Nat.zero_le _)]
  exact ⟨s, rfl, rfl⟩

theorem bind {result : Except ε γ} (first : Settles parts x s size (.ok b))
    (second : ∀ t, x s = .ok b t → size ≤ (parts s).lead.length → parts t = (parts s).drop size →
      Settles parts (f b) t more result) : Settles parts (x >>= f) s (size + more) result := by
  by_cases within : size ≤ (parts s).lead.length
  · obtain ⟨t, ran, after⟩ := first.taken within
    have rest := second t ran within after
    have length : (parts t).lead.length = (parts s).lead.length - size := by rw [after, Parts.length_drop]
    rw [Settles, bind_after ran]
    split
    · obtain ⟨final, ended, last⟩ := rest.taken (by omega)
      exact ⟨final, ended, by rw [last, after, Parts.drop_drop]⟩
    · obtain ⟨failure, final, ended, last⟩ := rest.interrupted (by omega)
      exact ⟨failure, final, ended, by rw [last, after, Parts.skip_drop]⟩
  · obtain ⟨failure, t, ran, after⟩ := first.interrupted (by omega)
    rw [Settles, if_neg (by omega)]
    exact ⟨failure, t, bind_raised ran, after⟩

theorem raised {failure : ε} (first : Settles parts x s size (.error failure)) :
    Settles parts (x >>= f) s size (.error failure) := by
  unfold Settles
  split
  · rename_i within
    obtain ⟨t, ran, after⟩ := first.taken within
    exact ⟨t, bind_raised ran, after⟩
  · obtain ⟨other, t, ran, after⟩ := first.interrupted (by omega)
    exact ⟨other, t, bind_raised ran, after⟩

section Guards
variable {bad : Prop} [Decidable bad] {failure : ε} {rest : Unit → EStateM ε σ γ} {result : Except ε γ}

theorem guard_raised (holds : bad) :
    Settles parts (Foundations.lifted (raiseIf bad failure) >>= rest) s 0 (.error failure) := by
  apply raised
  rw [raiseIf, if_pos holds]
  exact lifted

theorem guard_passed (fails : ¬bad) (settled : Settles parts (rest ()) s size result) :
    Settles parts (Foundations.lifted (raiseIf bad failure) >>= rest) s size result := by
  rw [raiseIf, if_neg fails]
  exact settled

end Guards
end Settles

/-- From every state on, the computation settles in one way or another. -/
def Steady {ε σ α β : Type} (parts : σ → Parts α) (x : EStateM ε σ β) : Prop :=
  ∀ s, ∃ size result, Settles parts x s size result

namespace Steady
variable {ε σ α β γ : Type} {parts : σ → Parts α} {x : EStateM ε σ β} {f : β → EStateM ε σ γ} {b : β}
  {result : Except ε β}

theorem lifted : Steady parts (lifted result) := fun _ => ⟨0, result, .lifted⟩

theorem pure : Steady parts (pure b : EStateM ε σ β) := fun _ => ⟨0, .ok b, .pure⟩

/-- Behind a first step that settles, the whole needs at least what the first step needs. -/
theorem bind_from {s : σ} {size : Nat} (first : Settles parts x s size result) (second : ∀ b, Steady parts (f b)) :
    ∃ more result, Settles parts (x >>= f) s (size + more) result := by
  cases result with
  | error failure => exact ⟨0, .error failure, first.raised⟩
  | ok b =>
    by_cases within : size ≤ (parts s).lead.length
    · obtain ⟨t, ran, _⟩ := first.taken within
      obtain ⟨more, result, settled⟩ := second b t
      refine ⟨more, result, first.bind fun other same _ _ => ?_⟩
      cases ran.symm.trans same
      exact settled
    · obtain ⟨failure, _, _, _⟩ := first.interrupted (by omega)
      refine ⟨0, .error failure, first.bind fun _ _ fits _ => ?_⟩
      exact absurd fits within

theorem bind (first : Steady parts x) (second : ∀ b, Steady parts (f b)) : Steady parts (x >>= f) := by
  intro s
  obtain ⟨size, result, settled⟩ := first s
  obtain ⟨more, whole, rest⟩ := bind_from settled second
  exact ⟨size + more, whole, rest⟩

end Steady

section Calls
variable {ε σ α β : Type} {parts : σ → Parts α} {x : EStateM ε σ β} {s : σ}

/-- The state after so many calls, however each of them ended. -/
def stateAfter (x : EStateM ε σ β) (count : Nat) (s : σ) : σ := (fun t => finalState (x t))^[count] s

def returned (x : EStateM ε σ β) (s : σ) : List β :=
  match x s with
  | .ok b _ => [b]
  | .error _ _ => []

/-- What so many calls return, in order. A call that raises returns nothing. -/
def resultsAfter (x : EStateM ε σ β) : Nat → σ → List β
  | 0, _ => []
  | count + 1, s => resultsAfter x count s ++ returned x (stateAfter x count s)

theorem stateAfter_succ (count : Nat) : stateAfter x (count + 1) s = finalState (x (stateAfter x count s)) :=
  Function.iterate_succ_apply' ..

theorem stateAfter_add (first second : Nat) :
    stateAfter x (first + second) s = stateAfter x second (stateAfter x first s) := by
  rw [Nat.add_comm, stateAfter, Function.iterate_add_apply]
  rfl

theorem returned_ok {b : β} {t : σ} (ran : x s = .ok b t) : returned x s = [b] := by rw [returned, ran]

theorem returned_raised {failure : ε} {t : σ} (ran : x s = .error failure t) : returned x s = [] := by
  rw [returned, ran]

theorem Settles.final {size : Nat} {result : Except ε β} (settled : Settles parts x s size result)
    (within : size ≤ (parts s).lead.length) : parts (finalState (x s)) = (parts s).drop size := by
  obtain ⟨t, ran, after⟩ := settled.taken within
  rw [ran, ← after]
  cases result <;> rfl

theorem Settles.final_interrupted {size : Nat} {result : Except ε β} (settled : Settles parts x s size result)
    (short : (parts s).lead.length < size) : parts (finalState (x s)) = (parts s).skip := by
  obtain ⟨failure, t, ran, after⟩ := settled.interrupted short
  rwa [ran]

/-- A computation that never settles on nothing is interrupted in the end. -/
theorem reaches_skip (hungry : ∀ s, ∃ size result, 0 < size ∧ Settles parts x s size result) :
    ∃ count, parts (stateAfter x count s) = (parts s).skip := by
  induction counted : (parts s).lead.length using Nat.strong_induction_on generalizing s with
  | _ left ih =>
    obtain ⟨size, result, positive, settled⟩ := hungry s
    by_cases within : size ≤ (parts s).lead.length
    · have after := settled.final within
      have shorter : (parts (finalState (x s))).lead.length < left := by
        rw [after, Parts.length_drop]
        omega
      obtain ⟨count, reached⟩ := ih _ shorter rfl
      refine ⟨1 + count, ?_⟩
      rw [stateAfter_add]
      exact reached.trans (by rw [after, Parts.skip_drop])
    · exact ⟨1, settled.final_interrupted (by omega)⟩

/-- Some call starts exactly at the start of each part. -/
theorem reaches_part (hungry : ∀ s, ∃ size result, 0 < size ∧ Settles parts x s size result)
    {before after : List (List α)} {part : List α}
    (listed : (parts s).lead :: (parts s).later = before ++ part :: after) :
    ∃ count, parts (stateAfter x count s) = ⟨part, after⟩ := by
  induction before generalizing s with
  | nil =>
    obtain ⟨rfl, rfl⟩ := List.cons.inj listed
    exact ⟨0, rfl⟩
  | cons first before ih =>
    have later : (parts s).later = before ++ part :: after := (List.cons.inj listed).2
    obtain ⟨count, reached⟩ := reaches_skip hungry (s := s)
    have listed : (parts s).skip.lead :: (parts s).skip.later = before ++ part :: after := by
      rw [← later, Parts.skip]
      cases behind : (parts s).later with
      | nil => simp [behind] at later
      | cons => rfl
    obtain ⟨more, found⟩ := ih (reached ▸ listed)
    exact ⟨count + more, by rw [stateAfter_add, found]⟩

end Calls
end Foundations
