import Mathlib.Order.Defs.Unbundled
import PspDisasm.Foundations.Raising

namespace Foundations
universe u
variable {ε σ τ α β : Type u}

/-- The state in which a computation ends, normally or by raising. -/
def finalState : EStateM.Result ε σ α → σ
  | .ok _ s => s
  | .error _ s => s

/-- What a computation returns or raises, without its state. -/
def outcome : EStateM.Result ε σ α → Except ε α
  | .ok a _ => .ok a
  | .error raised _ => .error raised

/-- A pure computation that may raise, in a stateful one. -/
def lifted (outcome : Except ε α) : EStateM ε σ α := fun s =>
  match outcome with
  | .ok a => .ok a s
  | .error raised => .error raised s

/-- `contextlib.suppress(Exception)` around a block. -/
def suppressing (x : EStateM ε σ PUnit) : EStateM ε σ PUnit := fun s => .ok ⟨⟩ (finalState (x s))

/-- `try … except` whose handlers only raise another exception in place of the first. -/
def translating (handler : ε → ε) (x : EStateM ε σ α) : EStateM ε σ α := fun s =>
  match x s with
  | .ok a t => .ok a t
  | .error raised t => .error (handler raised) t

/-- `try … finally`: an exception of the last block hides the outcome of the first. -/
def finallyDo (x : EStateM ε σ α) (last : EStateM ε σ PUnit) : EStateM ε σ α := fun s =>
  match x s with
  | .ok a t =>
    match last t with
    | .ok _ final => .ok a final
    | .error raised final => .error raised final
  | .error raised t =>
    match last t with
    | .ok _ final => .error raised final
    | .error other final => .error other final

/-- A computation on a part of the state. -/
def onPart (get : σ → τ) (set : τ → σ → σ) (x : EStateM ε τ α) : EStateM ε σ α := fun s =>
  match x (get s) with
  | .ok a t => .ok a (set t s)
  | .error raised t => .error raised (set t s)

section Outcomes
variable {x : EStateM ε σ α} {f : α → EStateM ε σ β} {s t final : σ} {a : α} {b : β} {raised : ε}

theorem outcome_ok {result : EStateM.Result ε σ α} : outcome result = .ok a ↔ ∃ t, result = .ok a t := by
  cases result with
  | ok b t => simp [outcome]
  | error raised t => simp [outcome]

theorem outcome_isOk (succeeds : (outcome (x s)).isOk = true) : ∃ a, x s = .ok a (finalState (x s)) := by
  cases ran : x s with
  | ok a t => exact ⟨a, rfl⟩
  | error raised t =>
    rw [ran] at succeeds
    cases succeeds

theorem effect_bind_ok :
    (x >>= f) s = .ok b final ↔ ∃ a t, x s = .ok a t ∧ f a t = .ok b final := by
  show EStateM.bind x f s = _ ↔ _
  unfold EStateM.bind
  cases x s with
  | ok a t => simp [and_assoc]
  | error raised t => simp

theorem bind_after (first : x s = .ok a t) : (x >>= f) s = f a t := by
  show EStateM.bind x f s = _
  rw [EStateM.bind, first]

theorem bind_raised (first : x s = .error raised t) : (x >>= f) s = .error raised t := by
  show EStateM.bind x f s = _
  rw [EStateM.bind, first]

theorem map_after {g : α → β} (first : x s = .ok a t) : (g <$> x) s = .ok (g a) t := by
  show EStateM.map g x s = _
  rw [EStateM.map, first]

theorem map_raised {g : α → β} (first : x s = .error raised t) : (g <$> x) s = .error raised t := by
  show EStateM.map g x s = _
  rw [EStateM.map, first]

@[simp] theorem effect_pure_ok {result : α} : (pure a : EStateM ε σ α) s = .ok result t ↔ a = result ∧ s = t := by
  show EStateM.Result.ok a s = _ ↔ _
  simp

@[simp] theorem effect_get_ok {state : σ} : (get : EStateM ε σ σ) s = .ok state t ↔ state = s ∧ t = s := by
  show EStateM.Result.ok s s = _ ↔ _
  simp [eq_comm]

@[simp] theorem effect_modify_ok {g : σ → σ} {done : PUnit} :
    (modify g : EStateM ε σ PUnit) s = .ok done t ↔ t = g s := by
  show EStateM.Result.ok PUnit.unit (g s) = _ ↔ _
  simp [eq_comm]

@[simp] theorem lifted_ok {outcome : Except ε α} :
    (lifted outcome : EStateM ε σ α) s = .ok a t ↔ outcome = .ok a ∧ s = t := by
  unfold lifted
  cases outcome with
  | ok a => simp
  | error raised => simp

theorem translating_ok {handler : ε → ε} : translating handler x s = .ok a t ↔ x s = .ok a t := by
  unfold translating
  cases x s with
  | ok a t => simp
  | error raised t => simp

theorem finallyDo_ok {last : EStateM ε σ PUnit} :
    finallyDo x last s = .ok a final ↔ ∃ t, x s = .ok a t ∧ last t = .ok ⟨⟩ final := by
  unfold finallyDo
  cases x s with
  | ok b t =>
    cases ended : last t <;> simp [ended, and_assoc]
  | error raised t =>
    cases ended : last t <;> simp [ended]

theorem finallyDo_raised {last : EStateM ε σ PUnit} (first : x s = .error raised t) :
    ∃ other, finallyDo x last s = .error other (finalState (last t)) := by
  cases ended : last t with
  | ok done final => exact ⟨raised, by simp [finallyDo, first, ended, finalState]⟩
  | error other final => exact ⟨other, by simp [finallyDo, first, ended, finalState]⟩

theorem onPart_ok {get : σ → τ} {set : τ → σ → σ} {part : EStateM ε τ α} :
    onPart get set part s = .ok a final ↔ ∃ t, part (get s) = .ok a t ∧ final = set t s := by
  unfold onPart
  cases part (get s) with
  | ok b t => simp [eq_comm, and_assoc]
  | error raised t => simp

theorem finalState_bind_ok (first : x s = .ok a t) : finalState ((x >>= f) s) = finalState (f a t) := by
  rw [bind_after first]

theorem finalState_bind_raised (first : x s = .error raised t) : finalState ((x >>= f) s) = t := by
  rw [bind_raised first]
  rfl

/-- A guard at the start ends the computation before anything has happened. -/
@[simp] theorem finalState_guard {ε σ β : Type} {bad : Prop} [Decidable bad] {raised : ε} {s : σ}
    {rest : Unit → EStateM ε σ β} :
    finalState ((lifted (raiseIf bad raised) >>= rest) s) = if bad then s else finalState (rest () s) := by
  unfold raiseIf
  split <;> rfl

@[simp] theorem finalState_discard {done : β} : finalState ((x >>= fun _ => pure done) s) = finalState (x s) := by
  cases first : x s with
  | ok a t =>
    rw [bind_after first]
    rfl
  | error raised t =>
    rw [bind_raised first]
    rfl

@[simp] theorem finalState_map {g : α → β} : finalState ((g <$> x) s) = finalState (x s) := by
  show finalState (EStateM.map g x s) = _
  unfold EStateM.map
  cases x s <;> rfl

@[simp] theorem finalState_translating {handler : ε → ε} :
    finalState (translating handler x s) = finalState (x s) := by
  unfold translating
  cases x s <;> rfl

@[simp] theorem finalState_finallyDo {last : EStateM ε σ PUnit} :
    finalState (finallyDo x last s) = finalState (last (finalState (x s))) := by
  unfold finallyDo
  cases outcome : x s with
  | ok a t =>
    show _ = finalState (last t)
    cases ended : last t <;> simp [finalState, ended]
  | error raised t =>
    show _ = finalState (last t)
    cases ended : last t <;> simp [finalState, ended]

@[simp] theorem finalState_onPart {get : σ → τ} {set : τ → σ → σ} {part : EStateM ε τ α} :
    finalState (onPart get set part s) = set (finalState (part (get s))) s := by
  unfold onPart
  cases part (get s) <;> rfl

end Outcomes

/-- A part of the state stays the same. -/
def Leaves (part : σ → τ) (s t : σ) : Prop := part t = part s

instance (part : σ → τ) : IsPreorder σ (Leaves part) where
  refl _ := rfl
  trans _ _ _ first second := second.trans first

/-- An invariant goes over from one state to the other. -/
def Keeps (Inv : σ → Prop) (s t : σ) : Prop := Inv s → Inv t

instance (Inv : σ → Prop) : IsPreorder σ (Keeps Inv) where
  refl _ := id
  trans _ _ _ first second := second ∘ first

/-- However the computation ends, its last state is related to its first. -/
def Maintains (R : σ → σ → Prop) (x : EStateM ε σ α) : Prop := ∀ s, R s (finalState (x s))

namespace Maintains
variable {R S : σ → σ → Prop} {x : EStateM ε σ α} {f : α → EStateM ε σ β}

theorem ok {s t : σ} {a : α} (maintained : Maintains R x) (ran : x s = .ok a t) : R s t := by
  have related := maintained s
  rwa [ran] at related

theorem modify {g : σ → σ} (related : ∀ s, R s (g s)) :
    Maintains R (modify g : EStateM ε σ PUnit) := related

theorem onPart {P : τ → τ → Prop} {get : σ → τ} {set : τ → σ → σ} {part : EStateM ε τ α}
    (lens : ∀ t s, get (set t s) = t) (maintained : Maintains P part) :
    Maintains (fun s t => P (get s) (get t)) (onPart get set part) := by
  intro s
  rw [finalState_onPart, lens]
  exact maintained (get s)

theorem translating {handler : ε → ε} (maintained : Maintains R x) : Maintains R (translating handler x) := by
  intro s
  rw [finalState_translating]
  exact maintained s

theorem suppressing {x : EStateM ε σ PUnit} (maintained : Maintains R x) : Maintains R (suppressing x) :=
  maintained

theorem map {g : α → β} (maintained : Maintains R x) : Maintains R (g <$> x) := by
  intro s
  rw [finalState_map]
  exact maintained s

section Preorder
variable [IsPreorder σ R]

theorem pure (a : α) : Maintains R (pure a : EStateM ε σ α) := fun s => refl_of R s

theorem getState : Maintains R (get : EStateM ε σ σ) := fun s => refl_of R s

theorem lifted (outcome : Except ε α) : Maintains R (lifted outcome : EStateM ε σ α) := by
  intro s
  cases outcome with
  | ok a => exact refl_of R s
  | error raised => exact refl_of R s

/-- What follows the first part of a sequence starts where that part ends. -/
theorem after (x : EStateM ε σ α) (rest : ∀ a, Maintains R (f a)) (s : σ) :
    R (finalState (x s)) (finalState ((x >>= f) s)) := by
  cases outcome : x s with
  | ok a t =>
    rw [bind_after outcome]
    exact rest a t
  | error raised t =>
    rw [bind_raised outcome]
    exact refl_of R t

theorem bind (first : Maintains R x) (rest : ∀ a, Maintains R (f a)) : Maintains R (x >>= f) :=
  fun s => trans_of R (first s) (after x rest s)

theorem finallyDo {last : EStateM ε σ PUnit} (first : Maintains R x) (ending : Maintains R last) :
    Maintains R (finallyDo x last) := by
  intro s
  rw [finalState_finallyDo]
  exact trans_of R (first s) (ending _)

theorem mapM {g : α → EStateM ε σ β} (each : ∀ a, Maintains R (g a)) (items : List α) :
    Maintains R (items.mapM g) := by
  induction items with
  | nil => exact pure []
  | cons item items ih =>
    rw [List.mapM_cons]
    refine (each item).bind ?_
    intro b
    refine ih.bind ?_
    intro rest
    exact pure (b :: rest)

theorem forM {g : α → EStateM ε σ PUnit} (each : ∀ a, Maintains R (g a)) (items : List α) :
    Maintains R (items.forM g) := by
  induction items with
  | nil => exact pure PUnit.unit
  | cons item items ih => exact (each item).bind fun _ => ih

end Preorder

end Maintains

end Foundations
