import Mathlib.Data.List.Dedup
import Mathlib.Data.List.Induction
import Mathlib.Data.List.Perm.Basic
import Mathlib.Data.List.Perm.Lattice
import PspDisasm.Foundations.Dict

namespace Foundations
universe u v w
variable {α : Type u} {κ : Type v} [DecidableEq κ] {key : α → κ} {items : List α} {k : κ}

/-- The items of each key, in their order. -/
def grouped (key : α → κ) (items : List α) : Dict κ (List α) :=
  items.foldl (fun groups item => groups.set (key item) ((groups.get? (key item)).getD [] ++ [item])) []

theorem grouped_append (item : α) : grouped key (items ++ [item]) =
    (grouped key items).set (key item) (((grouped key items).get? (key item)).getD [] ++ [item]) := List.foldl_append

/-- The group of a key is what has the key. -/
theorem get?_grouped : ((grouped key items).get? k).getD [] = items.filter fun item => key item = k := by
  induction items using List.reverseRecOn with
  | nil => rfl
  | append_singleton items item ih =>
    rw [grouped_append, Dict.get?_set, List.filter_append]
    by_cases same : key item = k
    · subst same
      simp [ih]
    · simp [ih, same]

theorem keys_grouped_nodup : (grouped key items).keys.Nodup := by
  induction items using List.reverseRecOn with
  | nil => exact List.nodup_nil
  | append_singleton items item ih =>
    rw [grouped_append]
    exact Dict.nodup_set ih

theorem mem_keys_grouped : k ∈ (grouped key items).keys ↔ k ∈ items.map key := by
  induction items using List.reverseRecOn with
  | nil => rfl
  | append_singleton items item ih =>
    rw [grouped_append, Dict.keys_set, List.map_append, List.mem_append, ← ih, List.map_singleton, List.mem_singleton]
    split
    · rename_i known
      exact ⟨Or.inl, fun either => either.elim id fun same => same ▸ known⟩
    · rw [List.mem_append, List.mem_singleton]

/-- Groups of all keys, in whatever order the keys are gone through, are all the items. -/
theorem keyGroups_perm {keys : List κ} (distinct : keys.Nodup) (all : ∀ item ∈ items, key item ∈ keys) :
    (keys.flatMap fun k => items.filter fun item => key item = k).Perm items := by
  induction items with
  | nil =>
    rw [List.flatMap_eq_nil_iff.mpr fun k _ => List.filter_nil]
  | cons item items ih =>
    obtain ⟨here, rest⟩ := List.forall_mem_cons.mp all
    obtain ⟨before, after, split⟩ := List.append_of_mem here
    have placed : (keys.flatMap fun k => (item :: items).filter fun other => key other = k).Perm
        (item :: keys.flatMap fun k => items.filter fun other => key other = k) := by
      rw [split] at distinct ⊢
      obtain ⟨_, later, apart⟩ := List.nodup_append.mp distinct
      have elsewhere : ∀ k, key item ≠ k → (item :: items).filter (fun other => decide (key other = k)) =
          items.filter fun other => decide (key other = k) := fun k other =>
        List.filter_cons_of_neg (by simpa using other)
      have front : before.flatMap (fun k => (item :: items).filter fun other => decide (key other = k)) =
          before.flatMap fun k => items.filter fun other => decide (key other = k) :=
        List.flatMap_congr fun k member => elsewhere k fun same => apart k member _ List.mem_cons_self same.symm
      have back : after.flatMap (fun k => (item :: items).filter fun other => decide (key other = k)) =
          after.flatMap fun k => items.filter fun other => decide (key other = k) :=
        List.flatMap_congr fun k member => elsewhere k fun same => (List.nodup_cons.mp later).1 (same ▸ member)
      rw [List.flatMap_append, List.flatMap_append, List.flatMap_cons, List.flatMap_cons, front, back,
        List.filter_cons_of_pos (by simp), List.cons_append]
      exact List.perm_middle
    exact placed.trans ((ih rest).cons item)

/-- Of parts with keys of their own, a key selects its part. -/
theorem filter_flatMap_key {β : Type w} {parts : List β} {name : β → κ} {content : β → List α}
    (distinct : (parts.map name).Nodup) (named : ∀ part ∈ parts, ∀ item ∈ content part, key item = name part) {part : β}
    (member : part ∈ parts) : (parts.flatMap content).filter (fun item => key item = name part) = content part := by
  induction parts with
  | nil => cases member
  | cons first parts ih =>
    obtain ⟨fresh, rest⟩ := List.nodup_cons.mp distinct
    obtain ⟨firstNamed, restNamed⟩ := List.forall_mem_cons.mp named
    rw [List.flatMap_cons, List.filter_append]
    rcases List.mem_cons.mp member with rfl | later
    · have none : (parts.flatMap content).filter (fun item => key item = name part) = [] := by
        refine List.filter_eq_nil_iff.mpr fun item listed => ?_
        obtain ⟨other, inside, here⟩ := List.mem_flatMap.mp listed
        rw [restNamed other inside item here, decide_eq_true_eq]
        exact fun same => fresh (List.mem_map.mpr ⟨other, inside, same⟩)
      rw [none, List.append_nil]
      exact List.filter_eq_self.mpr fun item listed => decide_eq_true (firstNamed item listed)
    · have none : (content first).filter (fun item => key item = name part) = [] := by
        refine List.filter_eq_nil_iff.mpr fun item listed => ?_
        rw [firstNamed item listed, decide_eq_true_eq]
        exact fun same => fresh (same ▸ List.mem_map_of_mem later)
      rw [none, List.nil_append]
      exact ih rest restNamed later

end Foundations
