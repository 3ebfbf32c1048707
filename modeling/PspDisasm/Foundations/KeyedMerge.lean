import Mathlib.Data.List.Induction
import PspDisasm.Foundations.Dict

namespace Foundations
universe u v
variable {α : Type u} {κ : Type v} [DecidableEq κ] {key : α → κ} {join : α → α → α} {items : List α} {item record : α} {k : κ}

/-- An item joins what stands under its key, if anything does. -/
def putJoined (key : α → κ) (join : α → α → α) (dict : Dict κ α) (item : α) : Dict κ α :=
  match dict.get? (key item) with
  | none => dict.set (key item) item
  | some current => dict.set (key item) (join current item)

def joined (key : α → κ) (join : α → α → α) (items : List α) : Dict κ α := items.foldl (putJoined key join) []

theorem joined_append (item : α) :
    joined key join (items ++ [item]) = putJoined key join (joined key join items) item := List.foldl_append

theorem get?_putJoined {dict : Dict κ α} : (putJoined key join dict item).get? k =
    if key item = k then some (((dict.get? k).map fun current => join current item).getD item) else dict.get? k := by
  unfold putJoined
  by_cases here : key item = k
  · subst here
    cases found : dict.get? (key item) <;> simp [Dict.get?_set]
  · split <;> simp [Dict.get?_set, here]

theorem keys_joined_nodup : (joined key join items).keys.Nodup := by
  induction items using List.reverseRecOn with
  | nil => exact List.nodup_nil
  | append_singleton items item ih =>
    rw [joined_append, putJoined]
    split <;> exact Dict.nodup_set ih

/-- A key is missing only if no item has it. -/
theorem get?_joined_none : (joined key join items).get? k = none ↔ ∀ item ∈ items, key item ≠ k := by
  induction items using List.reverseRecOn with
  | nil => exact iff_of_true rfl (by simp)
  | append_singleton items item ih =>
    rw [joined_append, get?_putJoined]
    by_cases here : key item = k
    · simp [here]
    · rw [if_neg here, ih, List.forall_mem_append, List.forall_mem_singleton]
      exact (and_iff_left here).symm

/-- What a first item of a key has, and what a further item leaves, the joined items of a key have. -/
theorem get?_joined_induct {P : List α → α → Prop} (first : ∀ item, P [item] item)
    (further : ∀ items record item, P items record → P (items ++ [item]) (join record item))
    (found : (joined key join items).get? k = some record) : P (items.filter fun item => key item = k) record := by
  induction items using List.reverseRecOn generalizing record with
  | nil => cases found
  | append_singleton items item ih =>
    rw [joined_append, get?_putJoined] at found
    rw [List.filter_append]
    by_cases here : key item = k
    · rw [if_pos here, Option.some.injEq] at found
      rw [List.filter_singleton, decide_eq_true here, cond_true]
      cases before : (joined key join items).get? k with
      | none =>
        rw [before] at found
        obtain rfl : item = record := found
        have none : items.filter (fun item => key item = k) = [] := by
          rw [List.filter_eq_nil_iff]
          exact fun other listed => by simpa using get?_joined_none.mp before other listed
        rw [none]
        exact first item
      | some current =>
        rw [before] at found
        obtain rfl : join current item = record := found
        exact further _ current item (ih before)
    · rw [if_neg here] at found
      rw [List.filter_singleton, decide_eq_false here, cond_false, List.append_nil]
      exact ih found

section Keys
variable (keeps : ∀ current item, key (join current item) = key current)

include keeps in
theorem get?_joined_key (found : (joined key join items).get? k = some record) : key record = k := by
  have member := get?_joined_induct (P := fun items record => ∃ item ∈ items, key item = key record) (fun item => ⟨item, by simp⟩)
    (fun items record item ⟨first, listed, same⟩ => ⟨first, List.mem_append_left _ listed, same.trans (keeps record item).symm⟩) found
  obtain ⟨item, listed, same⟩ := member
  exact same.symm.trans (by simpa using (List.mem_filter.mp listed).2)

include keeps in
theorem map_key_joined : (joined key join items).values.map key = (joined key join items).keys := by
  rw [Dict.values, Dict.keys, List.map_map]
  refine List.map_congr_left fun entry member => ?_
  have found : (joined key join items).get? entry.1 = some entry.2 := Dict.get?_of_mem keys_joined_nodup member
  have named : key entry.2 = entry.1 := get?_joined_key keeps found
  exact named

end Keys

end Foundations
