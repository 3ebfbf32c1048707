import Mathlib.Data.List.Nodup
import Mathlib.Tactic.Common

namespace Foundations
universe u v
variable {α : Type u} {β : Type v} [DecidableEq β]

/-- Items of the second kind are numbered from one, each apart from the others that are equal to it. -/
def numberFrom (seen : List β) : List (α ⊕ β) → List (α ⊕ β × Nat)
  | [] => []
  | .inl item :: items => .inl item :: numberFrom seen items
  | .inr item :: items => .inr (item, seen.count item + 1) :: numberFrom (item :: seen) items

section Members
variable {seen : List β} {items : List (α ⊕ β)}

theorem length_numberFrom : (numberFrom seen items).length = items.length := by
  induction items generalizing seen with
  | nil => rfl
  | cons first items ih =>
    cases first with
    | inl item => rw [numberFrom, List.length_cons, List.length_cons, ih]
    | inr item => rw [numberFrom, List.length_cons, List.length_cons, ih]

theorem mem_numberFrom_inl {item : α} : .inl item ∈ numberFrom seen items ↔ .inl item ∈ items := by
  induction items generalizing seen with
  | nil => exact iff_of_false List.not_mem_nil List.not_mem_nil
  | cons first items ih =>
    cases first with
    | inl other => rw [numberFrom, List.mem_cons, List.mem_cons, ih, Sum.inl.injEq, Sum.inl.injEq]
    | inr other =>
      rw [numberFrom, List.mem_cons, List.mem_cons, ih, or_iff_right Sum.inl_ne_inr, or_iff_right Sum.inl_ne_inr]

theorem mem_numberFrom_inr {item : β} {ordinal : Nat} : .inr (item, ordinal) ∈ numberFrom seen items ↔
    seen.count item < ordinal ∧ ordinal ≤ seen.count item + (items.filterMap Sum.getRight?).count item := by
  induction items generalizing seen with
  | nil =>
    rw [numberFrom, List.filterMap_nil, List.count_nil]
    exact iff_of_false List.not_mem_nil (by omega)
  | cons first items ih =>
    cases first with
    | inl other =>
      have skipped : (Sum.inl other : α ⊕ β).getRight? = none := rfl
      rw [numberFrom, List.mem_cons, ih, or_iff_right Sum.inr_ne_inl, List.filterMap_cons_none skipped]
    | inr other =>
      have kept : (Sum.inr other : α ⊕ β).getRight? = some other := rfl
      rw [numberFrom, List.mem_cons, ih, Sum.inr.injEq, Prod.mk.injEq, List.filterMap_cons_some kept]
      by_cases same : other = item
      · subst same
        rw [List.count_cons_self, List.count_cons_self, and_iff_right rfl]
        omega
      · rw [List.count_cons_of_ne same, List.count_cons_of_ne same]
        constructor
        · rintro (⟨equal, _⟩ | later)
          · exact absurd equal.symm same
          · exact later
        · exact Or.inr

/-- Numbered items are distinct when the items of the first kind are. -/
theorem nodup_numberFrom (distinct : (items.filterMap Sum.getLeft?).Nodup) : (numberFrom seen items).Nodup := by
  induction items generalizing seen with
  | nil => exact List.nodup_nil
  | cons first items ih =>
    cases first with
    | inl item =>
      have kept : (Sum.inl item : α ⊕ β).getLeft? = some item := rfl
      rw [List.filterMap_cons_some kept, List.nodup_cons] at distinct
      rw [numberFrom, List.nodup_cons, mem_numberFrom_inl]
      refine ⟨fun listed => distinct.1 ?_, ih distinct.2⟩
      exact List.mem_filterMap.mpr ⟨.inl item, listed, rfl⟩
    | inr item =>
      have skipped : (Sum.inr item : α ⊕ β).getLeft? = none := rfl
      rw [List.filterMap_cons_none skipped] at distinct
      rw [numberFrom, List.nodup_cons, mem_numberFrom_inr, List.count_cons_self]
      refine ⟨?_, ih distinct⟩
      omega

end Members

end Foundations
