import Mathlib.Data.List.Perm.Basic
import Mathlib.Data.List.Forall2

namespace Foundations
universe u v w
variable {α β : Type u} {γ : Type v} {δ : Type w}

/-- Two lists with the same labels in some order come to the same labels in the same order when the first is permuted. -/
theorem perm_of_map_perm {label : α → γ} {relabel : β → γ} {xs : List α} {ys : List β}
    (same : (xs.map label).Perm (ys.map relabel)) :
    ∃ zs : List α, xs.Perm zs ∧ List.Forall₂ (fun x y => label x = relabel y) zs ys := by
  induction ys generalizing xs with
  | nil =>
    rw [List.map_nil, List.perm_nil, List.map_eq_nil_iff] at same
    subst same
    exact ⟨[], .nil, .nil⟩
  | cons y ys ih =>
    have listed : relabel y ∈ xs.map label := same.mem_iff.mpr List.mem_cons_self
    obtain ⟨x, member, here⟩ := List.mem_map.mp listed
    obtain ⟨before, after, rfl⟩ := List.append_of_mem member
    have rest : ((before ++ after).map label).Perm (ys.map relabel) := by
      rw [List.map_append, List.map_cons, List.map_cons, ← here] at same
      rw [List.map_append]
      exact (List.perm_middle.symm.trans same).cons_inv
    obtain ⟨zs, permuted, pairs⟩ := ih rest
    exact ⟨x :: zs, List.perm_middle.trans (permuted.cons x), .cons here pairs⟩

/-- What two lists with the same labels come to, item by item, when an item's part depends on its label only. -/
theorem flatMap_perm_of_map_perm {label : α → γ} {relabel : β → γ} {xs : List α} {ys : List β} {f : α → List δ}
    {g : β → List δ} (same : (xs.map label).Perm (ys.map relabel))
    (parts : ∀ x ∈ xs, ∀ y ∈ ys, label x = relabel y → f x = g y) : (xs.flatMap f).Perm (ys.flatMap g) := by
  obtain ⟨zs, permuted, pairs⟩ := perm_of_map_perm same
  refine (permuted.flatMap_right f).trans (List.Perm.of_eq ?_)
  have known : ∀ x ∈ zs, ∀ y ∈ ys, label x = relabel y → f x = g y := fun x member => parts x (permuted.mem_iff.mpr member)
  clear same permuted parts
  induction pairs with
  | nil => rfl
  | @cons x y xs ys here _ ih =>
    rw [List.flatMap_cons, List.flatMap_cons, known x List.mem_cons_self y List.mem_cons_self here]
    exact congrArg (g y ++ ·) (ih fun a inZs b inYs => known a (List.mem_cons_of_mem _ inZs) b (List.mem_cons_of_mem _ inYs))

theorem forall₂_flatMap {R : γ → δ → Prop} {xs : List α} {f : α → List γ} {g : α → List δ}
    (parts : ∀ x ∈ xs, List.Forall₂ R (f x) (g x)) : List.Forall₂ R (xs.flatMap f) (xs.flatMap g) := by
  induction xs with
  | nil => exact .nil
  | cons x xs ih =>
    rw [List.flatMap_cons, List.flatMap_cons]
    exact List.rel_append (parts x List.mem_cons_self) (ih fun y member => parts y (List.mem_cons_of_mem _ member))

/-- All items but the one at a position, by their positions. -/
theorem flatMap_zipIdx_ne {xs : List α} {f : α → List δ} (start place : Nat) :
    ((xs.zipIdx start).flatMap fun item => if item.2 = start + place then [] else f item.1) = (xs.eraseIdx place).flatMap f := by
  induction xs generalizing start place with
  | nil => rfl
  | cons x xs ih =>
    rw [List.zipIdx_cons, List.flatMap_cons]
    cases place with
    | zero =>
      have others : ((xs.zipIdx (start + 1)).flatMap fun item => if item.2 = start + 0 then [] else f item.1) = xs.flatMap f := by
        have later : ∀ item ∈ xs.zipIdx (start + 1), (if item.2 = start + 0 then [] else f item.1) = f item.1 := by
          intro item listed
          have bound := List.le_snd_of_mem_zipIdx listed
          exact if_neg (by omega)
        rw [List.flatMap_congr later]
        conv_rhs => rw [← List.zipIdx_map_fst (start + 1) xs, List.flatMap_map]
      rw [others, if_pos (Nat.add_zero start).symm, List.nil_append, List.eraseIdx_zero, List.tail_cons]
    | succ place =>
      have shifted : start + (place + 1) = start + 1 + place := by omega
      rw [if_neg (by omega), List.eraseIdx_cons_succ, List.flatMap_cons, shifted, ih]

end Foundations
