import Mathlib.Data.List.Basic

namespace Foundations
universe u v
variable {α : Type u} {γ : Type v}

/-- Items with a status are worked off in rounds. Each round takes the first of the open items, in some order, and
leaves the others as they are. What it takes is no longer fresh, and it is closed if a fresh item was left out. -/
inductive Rounds (items : List α) (limit : Nat) (isOpen fresh : γ → Bool) (first : α → γ) :
    List (List α) → (α → γ) → Prop
  | start : Rounds items limit isOpen fresh first [] first
  | round {past status next} {ordered : List α} : Rounds items limit isOpen fresh first past status →
      ordered.Perm (items.filter fun a => isOpen (status a)) →
      (∀ a ∈ items, a ∉ ordered.take limit → next a = status a) →
      (∀ a ∈ ordered.take limit, fresh (next a) = false) →
      ((∃ a ∈ items, a ∉ ordered.take limit ∧ fresh (status a) = true) →
        ∀ a ∈ ordered.take limit, isOpen (next a) = false) →
      Rounds items limit isOpen fresh first (ordered.take limit :: past) next

section Rounds
variable {items ordered : List α} {limit : Nat} {isOpen fresh : γ → Bool} {first status next : α → γ}
  {past : List (List α)} {a : α}

theorem mem_items_of_mem_take (order : ordered.Perm (items.filter fun a => isOpen (status a)))
    (taken : a ∈ ordered.take limit) : a ∈ items :=
  List.mem_of_mem_filter (order.mem_iff.mp (List.mem_of_mem_take taken))

theorem Rounds.listed (rounds : Rounds items limit isOpen fresh first past status) :
    ∀ taken ∈ past, ∀ a ∈ taken, a ∈ items := by
  induction rounds with
  | start => exact List.forall_mem_nil _
  | round _ order _ _ _ ih =>
    exact List.forall_mem_cons.mpr ⟨fun a taken => mem_items_of_mem_take order taken, ih⟩

/-- What no round has taken has the status that it had at first. -/
theorem Rounds.unchanged (rounds : Rounds items limit isOpen fresh first past status) (listed : a ∈ items)
    (untaken : ∀ taken ∈ past, a ∉ taken) : status a = first a := by
  induction rounds with
  | start => rfl
  | round _ _ frame _ _ ih =>
    obtain ⟨now, before⟩ := List.forall_mem_cons.mp untaken
    exact (frame a listed now).trans (ih before)

/-- A fresh item after a round was fresh before it, and it was left out. -/
theorem round_left (frame : ∀ a ∈ items, a ∉ ordered.take limit → next a = status a)
    (attempted : ∀ a ∈ ordered.take limit, fresh (next a) = false) (left : ∃ a ∈ items, fresh (next a) = true) :
    ∃ a ∈ items, a ∉ ordered.take limit ∧ fresh (status a) = true := by
  obtain ⟨a, listed, isFresh⟩ := left
  have untaken : a ∉ ordered.take limit := by
    intro taken
    rw [attempted a taken] at isFresh
    cases isFresh
  exact ⟨a, listed, untaken, frame a listed untaken ▸ isFresh⟩

/-- As long as an item is fresh, everything that the rounds have taken is closed. -/
theorem Rounds.closed (rounds : Rounds items limit isOpen fresh first past status)
    (left : ∃ a ∈ items, fresh (status a) = true) : ∀ taken ∈ past, ∀ a ∈ taken, isOpen (status a) = false := by
  induction rounds with
  | start => exact List.forall_mem_nil _
  | @round past status next ordered before order frame attempted closes ih =>
    obtain ⟨b, listed, untaken, isFresh⟩ := round_left frame attempted left
    have now := closes ⟨b, listed, untaken, isFresh⟩
    have earlier := ih ⟨b, listed, isFresh⟩
    refine List.forall_mem_cons.mpr ⟨now, fun taken inPast a member => ?_⟩
    by_cases again : a ∈ ordered.take limit
    · exact now a again
    · rw [frame a (before.listed taken inPast a member) again]
      exact earlier taken inPast a member

/-- A round that leaves an open item out closes as many as it may take. -/
theorem round_count [DecidableEq α] (order : ordered.Perm (items.filter fun a => isOpen (status a)))
    (frame : ∀ a ∈ items, a ∉ ordered.take limit → next a = status a)
    (closes : ∀ a ∈ ordered.take limit, isOpen (next a) = false) (out : ∃ a ∈ ordered, a ∉ ordered.take limit) :
    items.countP (fun a => isOpen (next a)) + limit ≤ items.countP fun a => isOpen (status a) := by
  have still : ∀ a ∈ items, isOpen (next a) = true → isOpen (status a) = true ∧ a ∉ ordered.take limit := by
    intro a listed opened
    have untaken : a ∉ ordered.take limit := by
      intro taken
      rw [closes a taken] at opened
      cases opened
    exact ⟨frame a listed untaken ▸ opened, untaken⟩
  have later : items.countP (fun a => isOpen (next a)) ≤ ordered.countP fun a => decide (a ∉ ordered.take limit) := by
    rw [order.countP_eq, List.countP_filter]
    refine List.countP_mono_left fun a listed opened => ?_
    obtain ⟨before, untaken⟩ := still a listed opened
    rw [before, decide_eq_true untaken]
    rfl
  have none : (ordered.take limit).countP (fun a => decide (a ∉ ordered.take limit)) = 0 :=
    List.countP_eq_zero.mpr fun a taken => by simp [taken]
  have split := @List.countP_append _ (fun a => decide (a ∉ ordered.take limit)) (ordered.take limit) (ordered.drop limit)
  rw [List.take_append_drop, none] at split
  have rest := List.countP_le_length (p := fun a => decide (a ∉ ordered.take limit)) (l := ordered.drop limit)
  rw [List.length_drop] at rest
  have all : ordered.length = items.countP fun a => isOpen (status a) := by
    rw [order.length_eq, List.countP_eq_length_filter]
  have long : limit < ordered.length := by
    by_contra short
    obtain ⟨a, member, untaken⟩ := out
    rw [List.take_of_length_le (Nat.le_of_not_lt short)] at untaken
    exact untaken member
  omega

/-- As long as an item is fresh, every round has closed as many items as it may take. -/
theorem Rounds.count [DecidableEq α] (opens : ∀ g, fresh g = true → isOpen g = true)
    (rounds : Rounds items limit isOpen fresh first past status) (left : ∃ a ∈ items, fresh (status a) = true) :
    items.countP (fun a => isOpen (status a)) + past.length * limit ≤ items.countP fun a => isOpen (first a) := by
  induction rounds with
  | start => simp
  | @round past status next ordered _ order frame attempted closes ih =>
    obtain ⟨a, listed, untaken, isFresh⟩ := round_left frame attempted left
    have member : a ∈ ordered := order.mem_iff.mpr (List.mem_filter.mpr ⟨listed, opens _ isFresh⟩)
    have now := round_count order frame (closes ⟨a, listed, untaken, isFresh⟩) ⟨a, member, untaken⟩
    have before := ih ⟨a, listed, isFresh⟩
    rw [List.length_cons, Nat.succ_mul]
    omega

/-- Enough rounds take every item that was fresh at first. -/
theorem Rounds.covers [DecidableEq α] (opens : ∀ g, fresh g = true → isOpen g = true)
    (rounds : Rounds items limit isOpen fresh first past status) (enough : items.length ≤ past.length * limit)
    (listed : a ∈ items) (isFresh : fresh (first a) = true) : ∃ taken ∈ past, a ∈ taken := by
  by_contra never
  have untaken : ∀ taken ∈ past, a ∉ taken := fun taken inPast member => never ⟨taken, inPast, member⟩
  have still : fresh (status a) = true := by rw [rounds.unchanged listed untaken, isFresh]
  have counted := rounds.count opens ⟨a, listed, still⟩
  have some : 0 < items.countP fun a => isOpen (status a) := List.countP_pos_iff.mpr ⟨a, listed, opens _ still⟩
  have all := List.countP_le_length (p := fun a => isOpen (first a)) (l := items)
  omega

end Rounds

end Foundations
