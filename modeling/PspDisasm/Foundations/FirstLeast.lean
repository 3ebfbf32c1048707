import Mathlib.Data.List.MinMax

namespace Foundations
universe u v
variable {α : Type u} {β : Type v} [LinearOrder β] {f : α → β} {items : List α} {least item : α}

/-- An item that is below all items before it, and below none of the later ones is lower. -/
def FirstLeast (f : α → β) (items : List α) (least : α) : Prop :=
  ∃ before after, items = before ++ least :: after ∧ (∀ item ∈ before, f least < f item) ∧ ∀ item ∈ after, f least ≤ f item

theorem FirstLeast.member (first : FirstLeast f items least) : least ∈ items := by
  obtain ⟨before, after, rfl, _⟩ := first
  exact List.mem_append_right _ List.mem_cons_self

/-- `List.argmin` takes the first of the least items. -/
theorem argmin_firstLeast (found : items.argmin f = some least) : FirstLeast f items least := by
  induction items using List.reverseRecOn generalizing least with
  | nil => cases found
  | append_singleton items last ih =>
    rw [List.argmin_concat] at found
    cases earlier : items.argmin f with
    | none =>
      rw [earlier] at found
      cases found
      rw [List.argmin_eq_none.mp earlier]
      exact ⟨[], [], rfl, fun _ listed => absurd listed List.not_mem_nil, fun _ listed => absurd listed List.not_mem_nil⟩
    | some best =>
      obtain ⟨before, after, split, lower, atMost⟩ := ih earlier
      simp only [earlier] at found
      by_cases smaller : f last < f best
      · rw [if_pos smaller] at found
        cases found
        refine ⟨items, [], rfl, fun item listed => ?_, fun _ listed => absurd listed List.not_mem_nil⟩
        exact smaller.trans_le (List.le_of_mem_argmin listed earlier)
      · rw [if_neg smaller] at found
        cases found
        refine ⟨before, after ++ [last], by rw [split]; simp, lower, fun item listed => ?_⟩
        rcases List.mem_append.mp listed with old | new
        · exact atMost item old
        · rw [List.mem_singleton.mp new]
          exact not_lt.mp smaller

/-- There is one first least item. -/
theorem FirstLeast.unique {other : α} (first : FirstLeast f items least) (second : FirstLeast f items other) : least = other := by
  obtain ⟨before, after, rfl, lower, atMost⟩ := first
  obtain ⟨before', after', same, lower', atMost'⟩ := second
  rcases List.append_eq_append_iff.mp same with ⟨gap, split, rest⟩ | ⟨gap, split, rest⟩
  · cases gap with
    | nil => exact (List.cons.inj rest).1
    | cons head gap =>
      obtain ⟨rfl, rfl⟩ := List.cons.inj rest
      have below := lower' least (by rw [split]; exact List.mem_append_right _ List.mem_cons_self)
      exact absurd below (not_lt.mpr (atMost other (List.mem_append_right _ List.mem_cons_self)))
  · cases gap with
    | nil => exact (List.cons.inj rest).1.symm
    | cons head gap =>
      obtain ⟨rfl, rfl⟩ := List.cons.inj rest
      have below := lower other (by rw [split]; exact List.mem_append_right _ List.mem_cons_self)
      exact absurd below (not_lt.mpr (atMost' least (List.mem_append_right _ List.mem_cons_self)))

theorem argmin_eq_some_iff_firstLeast : items.argmin f = some least ↔ FirstLeast f items least := by
  refine ⟨argmin_firstLeast, fun first => ?_⟩
  cases found : items.argmin f with
  | none =>
    have member := first.member
    rw [List.argmin_eq_none.mp found] at member
    cases member
  | some other => rw [first.unique (argmin_firstLeast found)]

end Foundations
