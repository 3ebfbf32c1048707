import Mathlib.Data.List.Forall2

namespace Foundations
universe u v
variable {α : Type u} {β : Type v} {limit : Nat} {items more : List α} {item : α}

/-- What a queue of at most `limit` items holds after these were appended: the newest of them. -/
def keepLast (limit : Nat) (items : List α) : List α := items.drop (items.length - limit)

theorem keepLast_suffix : keepLast limit items <:+ items := List.drop_suffix _ items

theorem keepLast_of_fits (fits : items.length ≤ limit) : keepLast limit items = items := by
  rw [keepLast, Nat.sub_eq_zero_of_le fits, List.drop_zero]

theorem keepLast_length_le : (keepLast limit items).length ≤ limit := by
  rw [keepLast, List.length_drop]
  omega

/-- What was dropped once stays dropped. -/
theorem keepLast_append : keepLast limit (keepLast limit items ++ more) = keepLast limit (items ++ more) := by
  by_cases fits : items.length ≤ limit
  · rw [keepLast_of_fits fits]
  · have split : items.length - limit ≤ items.length := Nat.sub_le _ _
    rw [keepLast, keepLast, keepLast, ← List.drop_append_of_le_length split, List.drop_drop]
    congr 1
    simp only [List.length_drop, List.length_append]
    omega

/-- An item is still there, or the queue is full of items that came after it. -/
theorem keepLast_or_evicted {R : α → α → Prop} (ordered : items.Pairwise R) (member : item ∈ items) :
    item ∈ keepLast limit items ∨ (keepLast limit items).length = limit ∧ ∀ other ∈ keepLast limit items, R item other := by
  rw [← List.take_append_drop (items.length - limit) items] at ordered member
  rcases List.mem_append.mp member with dropped | kept
  · right
    constructor
    · have some_dropped := List.length_pos_of_mem dropped
      rw [List.length_take] at some_dropped
      rw [keepLast, List.length_drop]
      omega
    · exact fun other kept => (List.pairwise_append.mp ordered).2.2 item dropped other kept
  · exact Or.inl kept

theorem keepLast_forall₂ {R : α → β → Prop} {others : List β} (pairs : List.Forall₂ R items others) :
    List.Forall₂ R (keepLast limit items) (keepLast limit others) := by
  rw [keepLast, keepLast, pairs.length_eq]
  exact List.forall₂_drop _ pairs

end Foundations
