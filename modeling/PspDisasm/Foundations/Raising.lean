import Mathlib.Data.List.Forall2
import Mathlib.Tactic.Linarith

namespace Foundations
universe u v w
variable {ε : Type u} {α β : Type v} {raised : ε}

theorem bind_ok {x : Except ε α} {f : α → Except ε β} {b : β} :
    (x >>= f) = .ok b ↔ ∃ a, x = .ok a ∧ f a = .ok b := by
  cases x with
  | error failure => simp [bind, Except.bind]
  | ok a => simp [bind, Except.bind]

theorem bind_error {x : Except ε α} {f : α → Except ε β} :
    (x >>= f) = .error raised ↔ x = .error raised ∨ ∃ a, x = .ok a ∧ f a = .error raised := by
  cases x with
  | error failure => simp [bind, Except.bind]
  | ok a => simp [bind, Except.bind]

@[simp] theorem ok_bind (a : α) (f : α → Except ε β) : (Except.ok a >>= f) = f a := rfl

@[simp] theorem error_bind (f : α → Except ε β) : (Except.error raised >>= f) = .error raised := rfl

theorem exists_ok {x : Except ε α} (succeeds : x.isOk = true) : ∃ a, x = .ok a := by
  cases x with
  | error failure => cases succeeds
  | ok a => exact ⟨a, rfl⟩

theorem map_ok {f : α → β} {x : Except ε α} {b : β} : f <$> x = .ok b ↔ ∃ a, x = .ok a ∧ f a = b := by
  cases x with
  | error failure => simp [Functor.map, Except.map]
  | ok a => simp [Functor.map, Except.map]

/-- A map that takes different values to different values does so inside of a result as well. -/
theorem map_ok_injective {f : α → β} (injective : Function.Injective f) {x y : Except ε α}
    (same : f <$> x = f <$> y) : x = y := by
  cases x with
  | error failure =>
    cases y with
    | error other => exact congrArg Except.error (Except.error.inj same)
    | ok value => cases same
  | ok value =>
    cases y with
    | error other => cases same
    | ok other => exact congrArg Except.ok (injective (Except.ok.inj same))

theorem mapError_ok {δ : Type w} {f : ε → δ} {x : Except ε α} {a : α} : x.mapError f = .ok a ↔ x = .ok a := by
  cases x <;> simp [Except.mapError]

theorem toOption_map_ok {f : α → β} {x : Except ε α} {b : β} (found : x.toOption.map f = some b) : ∃ a, x = .ok a ∧ f a = b := by
  cases x with
  | error failure => cases found
  | ok a => exact ⟨a, rfl, Option.some.inj found⟩

/-- Computations that return the same, whatever they raise, go on in the same way. -/
theorem toOption_bind_congr {x y : Except ε α} {f g : α → Except ε β} (first : x.toOption = y.toOption)
    (next : ∀ a, x = .ok a → (f a).toOption = (g a).toOption) : (x >>= f).toOption = (y >>= g).toOption := by
  cases x with
  | error failure =>
    cases y with
    | error failure => rfl
    | ok a => cases first
  | ok a =>
    cases y with
    | error failure => cases first
    | ok b =>
      cases Option.some.inj first
      exact next a rfl

/-- A check that raises when `bad` holds and otherwise lets the computation go on. -/
def raiseIf (bad : Prop) [Decidable bad] (raised : ε) : Except ε Unit :=
  if bad then .error raised else .ok ()

@[simp] theorem raiseIf_ok {bad : Prop} [Decidable bad] {done : Unit} :
    raiseIf bad raised = .ok done ↔ ¬bad := by
  unfold raiseIf
  split <;> simp_all

@[simp] theorem raiseIf_error {bad : Prop} [Decidable bad] {other : ε} :
    raiseIf bad raised = .error other ↔ bad ∧ raised = other := by
  unfold raiseIf
  split <;> simp_all

theorem mapM_ok {f : α → Except ε β} {xs : List α} {ys : List β} :
    xs.mapM f = .ok ys ↔ List.Forall₂ (fun x y => f x = .ok y) xs ys := by
  induction xs generalizing ys with
  | nil => simp [pure, Except.pure, eq_comm]
  | cons x xs ih =>
    rw [List.mapM_cons, bind_ok, List.forall₂_cons_left_iff]
    constructor
    · rintro ⟨y, head, tail⟩
      obtain ⟨rest, run, same⟩ := bind_ok.mp tail
      cases same
      exact ⟨y, rest, head, ih.mp run, rfl⟩
    · rintro ⟨y, rest, head, tail, rfl⟩
      exact ⟨y, head, bind_ok.mpr ⟨rest, ih.mpr tail, rfl⟩⟩

theorem forall₂_getElem? {xs : List α} {ys : List β} {R : α → β → Prop} (pairs : List.Forall₂ R xs ys)
    {i : Nat} {y : β} (found : ys[i]? = some y) : ∃ x, xs[i]? = some x ∧ R x y := by
  induction pairs generalizing i with
  | nil => simp at found
  | @cons x z xs ys related _ ih =>
    cases i with
    | zero =>
      cases Option.some.inj found
      exact ⟨x, rfl, related⟩
    | succ i => exact ih found

theorem forall₂_mem {xs : List α} {ys : List β} {R : α → β → Prop} (pairs : List.Forall₂ R xs ys)
    {y : β} (member : y ∈ ys) : ∃ x ∈ xs, R x y := by
  obtain ⟨i, found⟩ := List.mem_iff_getElem?.mp member
  obtain ⟨x, at_i, related⟩ := forall₂_getElem? pairs found
  exact ⟨x, List.mem_of_getElem? at_i, related⟩

theorem forM_ok {f : α → Except ε PUnit} {xs : List α} : xs.forM f = .ok ⟨⟩ ↔ ∀ x ∈ xs, f x = .ok ⟨⟩ := by
  induction xs with
  | nil => simp [pure, Except.pure]
  | cons x xs ih =>
    change (f x >>= fun _ => xs.forM f) = .ok ⟨⟩ ↔ _
    rw [bind_ok, List.forall_mem_cons, ← ih]
    constructor
    · rintro ⟨⟨⟩, head, tail⟩
      exact ⟨head, tail⟩
    · rintro ⟨head, tail⟩
      exact ⟨⟨⟩, head, tail⟩

theorem forM_error {f : α → Except ε PUnit} {xs : List α} (run : xs.forM f = .error raised) :
    ∃ x ∈ xs, f x = .error raised := by
  induction xs with
  | nil => cases run
  | cons x xs ih =>
    change (f x >>= fun _ => xs.forM f) = .error raised at run
    rcases bind_error.mp run with head | ⟨_, _, tail⟩
    · exact ⟨x, List.mem_cons_self .., head⟩
    · obtain ⟨other, member, failure⟩ := ih tail
      exact ⟨other, List.mem_cons_of_mem _ member, failure⟩

/-- Calls that all return make a traversal that returns. -/
theorem mapM_total {f : α → Except ε β} {R : α → β → Prop} {xs : List α}
    (each : ∀ x ∈ xs, ∃ y, f x = .ok y ∧ R x y) : ∃ ys, xs.mapM f = .ok ys ∧ List.Forall₂ R xs ys := by
  induction xs with
  | nil => exact ⟨[], rfl, .nil⟩
  | cons x xs ih =>
    obtain ⟨⟨y, head, related⟩, tail⟩ := List.forall_mem_cons.mp each
    obtain ⟨ys, rest, pairs⟩ := ih tail
    refine ⟨y :: ys, ?_, .cons related pairs⟩
    rw [List.mapM_cons, head]
    exact bind_ok.mpr ⟨y, rfl, bind_ok.mpr ⟨ys, rest, rfl⟩⟩

/-- A traversal by calls that can only return `f` of their argument is a map. -/
theorem mapM_eq_map {run : α → Except ε β} {f : α → β} (step : ∀ {x y}, run x = .ok y → y = f x) {xs : List α}
    {ys : List β} (ran : xs.mapM run = .ok ys) : ys = xs.map f := by
  have pairs := mapM_ok.mp ran
  clear ran
  induction pairs with
  | nil => rfl
  | cons head _ ih => rw [List.map_cons, ← step head, ← ih]

/-- Calls that return what other calls returned, up to a map, make a traversal that does so too. -/
theorem mapM_map_of_ok {run again : α → Except ε β} {f : β → β} {xs : List α} {ys : List β}
    (step : ∀ {x y}, y ∈ ys → run x = .ok y → again x = .ok (f y)) (ran : xs.mapM run = .ok ys) :
    xs.mapM again = .ok (ys.map f) := by
  have pairs := mapM_ok.mp ran
  clear ran
  apply mapM_ok.mpr
  induction pairs with
  | nil => exact .nil
  | cons head _ ih =>
    exact .cons (step List.mem_cons_self head) (ih fun member => step (List.mem_cons_of_mem _ member))

theorem mapM_congr {f g : α → Except ε β} {xs : List α} (each : ∀ x ∈ xs, f x = g x) : xs.mapM f = xs.mapM g := by
  induction xs with
  | nil => rfl
  | cons x xs ih =>
    obtain ⟨head, tail⟩ := List.forall_mem_cons.mp each
    rw [List.mapM_cons, List.mapM_cons, head, ih tail]

theorem mapM_map_each {γ : Type v} {run : α → Except ε β} {f : β → γ} (xs : List α) :
    (xs.mapM fun x => f <$> run x) = List.map f <$> xs.mapM run := by
  induction xs with
  | nil => rfl
  | cons x xs ih =>
    rw [List.mapM_cons, List.mapM_cons, ih]
    cases run x with
    | error raised => rfl
    | ok y =>
      cases xs.mapM run with
      | error raised => rfl
      | ok ys => rfl

/-- A traversal that keeps the results of some items and drops the others. -/
theorem mapM_filterMap_ok {check : α → Except ε (Option β)} {keep : α → Bool} {R : α → β → Prop} {xs : List α}
    {ys : List (Option β)}
    (step : ∀ x y, check x = .ok y → if keep x = true then ∃ b, y = some b ∧ R x b else y = none)
    (ran : xs.mapM check = .ok ys) : List.Forall₂ R (xs.filter keep) (ys.filterMap id) := by
  have pairs := mapM_ok.mp ran
  clear ran
  induction pairs with
  | nil => exact .nil
  | @cons x y xs ys head _ ih =>
    have found := step x y head
    by_cases kept : keep x = true
    · rw [if_pos kept] at found
      obtain ⟨b, rfl, related⟩ := found
      rw [List.filter_cons_of_pos kept]
      exact .cons related ih
    · rw [if_neg kept] at found
      subst found
      rw [List.filter_cons_of_neg kept]
      exact ih

/-- A traversal raises only what one of its calls raises. -/
theorem mapM_error {f : α → Except ε β} {xs : List α} (run : xs.mapM f = .error raised) :
    ∃ x ∈ xs, f x = .error raised := by
  induction xs with
  | nil => cases run
  | cons x xs ih =>
    rw [List.mapM_cons] at run
    rcases bind_error.mp run with head | ⟨y, _, tail⟩
    · exact ⟨x, List.mem_cons_self .., head⟩
    · rcases bind_error.mp tail with rest | ⟨_, _, impossible⟩
      · obtain ⟨other, member, failure⟩ := ih rest
        exact ⟨other, List.mem_cons_of_mem _ member, failure⟩
      · cases impossible

/-- Two folds over related lists return the same when each of their steps does. -/
theorem foldlM_toOption_congr {γ : Type w} {R : γ → γ → Prop} {f g : α → γ → Except ε α} {xs ys : List γ}
    (step : ∀ a x y, R x y → (f a x).toOption = (g a y).toOption) (pairs : List.Forall₂ R xs ys) (a : α) :
    (xs.foldlM f a).toOption = (ys.foldlM g a).toOption := by
  induction pairs generalizing a with
  | nil => rfl
  | cons related _ ih =>
    rw [List.foldlM_cons, List.foldlM_cons]
    exact toOption_bind_congr (step a _ _ related) fun b _ => ih b

/-- A fold over a list with an item that every step refuses returns nothing. -/
theorem foldlM_toOption_none {γ : Type w} {f : α → γ → Except ε α} {x : γ} (refused : ∀ a, (f a x).toOption = none)
    {xs : List γ} (member : x ∈ xs) (a : α) : (xs.foldlM f a).toOption = none := by
  induction xs generalizing a with
  | nil => cases member
  | cons y xs ih =>
    rw [List.foldlM_cons]
    cases first : f a y with
    | error raised => rfl
    | ok b =>
      rcases List.mem_cons.mp member with rfl | later
      · have nothing := refused a
        rw [first] at nothing
        cases nothing
      · exact ih later b

/-- Every exception that a computation can raise is one of the documented ones. -/
def RaisesOnly (P : ε → Prop) (x : Except ε α) : Prop := ∀ raised, x = .error raised → P raised

section RaisesOnly
variable {P : ε → Prop}

@[simp] theorem raisesOnly_value (a : α) : RaisesOnly P (.ok a : Except ε α) := by
  intro raised failed
  cases failed

@[simp] theorem raisesOnly_error : RaisesOnly P (.error raised : Except ε α) ↔ P raised := by
  simp [RaisesOnly]

theorem raisesOnly_bind {x : Except ε α} {f : α → Except ε β} (first : RaisesOnly P x)
    (next : ∀ a, x = .ok a → RaisesOnly P (f a)) : RaisesOnly P (x >>= f) := by
  intro raised failed
  rcases bind_error.mp failed with head | ⟨a, value, tail⟩
  · exact first raised head
  · exact next a value raised tail

theorem raisesOnly_raiseIf {bad : Prop} [Decidable bad] (documented : P raised) :
    RaisesOnly P (raiseIf bad raised) := by
  intro other failed
  obtain ⟨_, rfl⟩ := raiseIf_error.mp failed
  exact documented

theorem raisesOnly_mapM {f : α → Except ε β} {xs : List α} (each : ∀ x ∈ xs, RaisesOnly P (f x)) :
    RaisesOnly P (xs.mapM f) := by
  intro raised failed
  obtain ⟨x, member, failure⟩ := mapM_error failed
  exact each x member raised failure

theorem raisesOnly_forM {f : α → Except ε PUnit} {xs : List α} (each : ∀ x ∈ xs, RaisesOnly P (f x)) :
    RaisesOnly P (xs.forM f) := by
  intro raised failed
  obtain ⟨x, member, failure⟩ := forM_error failed
  exact each x member raised failure

end RaisesOnly

end Foundations
