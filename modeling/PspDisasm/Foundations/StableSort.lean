import Mathlib.Data.List.Sort

namespace Foundations
universe u v w
variable {α : Type u} {β : Type v} {r : α → α → Prop} [DecidableRel r] {R : α → α → Prop} {a b : α} {xs ys : List α}

/-- In order of `r`, and in order of `R` where `r` leaves the order open. -/
def Refined (r R : α → α → Prop) (a b : α) : Prop := r a b ∧ (r b a → R a b)

theorem orderedInsert_refined [Std.Total r] [IsTrans α r] (first : ∀ b ∈ xs, R a b) (sorted : xs.Pairwise (Refined r R)) :
    (xs.orderedInsert r a).Pairwise (Refined r R) := by
  induction xs with
  | nil => exact List.pairwise_singleton _ a
  | cons b xs ih =>
    obtain ⟨later, rest⟩ := List.pairwise_cons.mp sorted
    by_cases here : r a b
    · rw [List.orderedInsert_cons_of_le r xs here]
      refine List.pairwise_cons.mpr ⟨fun c member => ⟨?_, fun _ => first c member⟩, sorted⟩
      rcases List.mem_cons.mp member with rfl | inside
      · exact here
      · exact trans_of r here (later c inside).1
    · rw [List.orderedInsert_of_not_le r xs here]
      refine List.pairwise_cons.mpr ⟨fun c member => ?_, ih (fun c inside => first c (List.mem_cons_of_mem _ inside)) rest⟩
      rcases (List.mem_orderedInsert r).mp member with rfl | inside
      · exact ⟨(total_of r b c).resolve_right here, fun back => absurd back here⟩
      · exact later c inside

/-- Sorting keeps the order of the items that it does not tell apart. -/
theorem insertionSort_refined [Std.Total r] [IsTrans α r] (listed : xs.Pairwise R) :
    (xs.insertionSort r).Pairwise (Refined r R) := by
  induction xs with
  | nil => exact .nil
  | cons a xs ih =>
    obtain ⟨first, rest⟩ := List.pairwise_cons.mp listed
    exact orderedInsert_refined (fun b member => first b ((List.mem_insertionSort r).mp member)) (ih rest)

section Keys
variable {γ : Type w} {le : β → β → Prop} [DecidableRel le] {key second : α → β}

/-- Sorting by a key goes with every map that keeps the key. -/
theorem insertionSort_map_key {f : α → γ} {mapped : γ → β} (same : ∀ a, mapped (f a) = key a) :
    (xs.map f).insertionSort (fun a b => le (mapped a) (mapped b)) =
      (xs.insertionSort fun a b => le (key a) (key b)).map f := by
  symm
  refine List.map_insertionSort _ _ _ _ fun a _ b _ => ?_
  rw [same, same]

variable [Std.Total le] [IsTrans β le] [Std.Antisymm le]

/-- Sorting by a second key forgets the order of the input, if the two keys together tell the items apart. -/
theorem insertionSort_eq_of_keys (perm : xs.Perm ys) (sorted : xs.Pairwise fun a b => le (key a) (key b))
    (otherSorted : ys.Pairwise fun a b => le (key a) (key b))
    (apart : ∀ a ∈ xs, ∀ b ∈ xs, key a = key b → second a = second b → a = b) :
    xs.insertionSort (fun a b => le (second a) (second b)) = ys.insertionSort fun a b => le (second a) (second b) := by
  have total : Std.Total fun a b : α => le (second a) (second b) := ⟨fun _ _ => total_of le _ _⟩
  have transitive : IsTrans α fun a b => le (second a) (second b) := ⟨fun _ _ _ => trans_of le⟩
  have sortedPerm := List.perm_insertionSort (fun a b : α => le (second a) (second b)) xs
  have otherPerm := List.perm_insertionSort (fun a b : α => le (second a) (second b)) ys
  refine List.Perm.eq_of_pairwise ?_ (insertionSort_refined sorted) (insertionSort_refined otherSorted)
    ((sortedPerm.trans perm).trans otherPerm.symm)
  intro a b member otherMember below above
  have listed := sortedPerm.mem_iff.mp member
  have otherListed := perm.mem_iff.mpr (otherPerm.mem_iff.mp otherMember)
  exact apart a listed b otherListed (antisymm_of le (below.2 above.1) (above.2 below.1)) (antisymm_of le below.1 above.1)

end Keys

/-- In a list without repetition, two items stand in one order only. -/
theorem pair_sublist_antisymm (distinct : xs.Nodup) (forth : [a, b].Sublist xs) (back : [b, a].Sublist xs) : False := by
  induction xs with
  | nil => cases forth
  | cons x xs ih =>
    obtain ⟨new, rest⟩ := List.nodup_cons.mp distinct
    cases forth with
    | cons _ forth =>
      cases back with
      | cons _ back => exact ih rest forth back
      | cons_cons _ back => exact new (forth.subset (by simp))
    | cons_cons _ forth =>
      cases back with
      | cons _ back => exact new (back.subset (by simp))
      | cons_cons _ back => exact new (List.singleton_sublist.mp forth)

end Foundations
