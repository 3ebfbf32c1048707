import Mathlib.Data.List.Nodup
import Mathlib.Tactic.Common

namespace Foundations
universe u v

/-- A dictionary as its items in insertion order. -/
abbrev Dict (κ : Type u) (β : Type v) := List (κ × β)

namespace Dict
variable {κ : Type u} {β : Type v} [DecidableEq κ] {dict : Dict κ β} {key other : κ} {value : β}

def keys (dict : Dict κ β) : List κ := dict.map Prod.fst

def values (dict : Dict κ β) : List β := dict.map Prod.snd

def get? : Dict κ β → κ → Option β
  | [], _ => none
  | (k, value) :: items, key => if k = key then some value else get? items key

/-- A new key goes to the end; an old one keeps its place. -/
def set : Dict κ β → κ → β → Dict κ β
  | [], key, value => [(key, value)]
  | (k, old) :: items, key, value => if k = key then (k, value) :: items else (k, old) :: set items key value

theorem set_of_new (new : key ∉ dict.keys) : dict.set key value = dict ++ [(key, value)] := by
  induction dict with
  | nil => rfl
  | cons item items ih =>
    obtain ⟨k, old⟩ := item
    simp only [keys, List.map_cons, List.mem_cons, not_or] at new
    rw [set, if_neg fun same => new.1 same.symm, ih new.2, List.cons_append]

/-- When no key occurs twice, each item is found under its key. -/
theorem get?_of_mem (unique : dict.keys.Nodup) (member : (key, value) ∈ dict) : dict.get? key = some value := by
  induction dict with
  | nil => cases member
  | cons item items ih =>
    obtain ⟨k, first⟩ := item
    rw [keys, List.map_cons, List.nodup_cons] at unique
    rcases List.mem_cons.mp member with same | inItems
    · cases same
      rw [get?, if_pos rfl]
    · have different : k ≠ key := by
        rintro rfl
        exact unique.1 (List.mem_map.mpr ⟨(k, value), inItems, rfl⟩)
      rw [get?, if_neg different]
      exact ih unique.2 inItems

theorem mem_of_get? (found : dict.get? key = some value) : (key, value) ∈ dict := by
  induction dict with
  | nil => cases found
  | cons item items ih =>
    obtain ⟨k, first⟩ := item
    by_cases same : k = key
    · rw [get?, if_pos same] at found
      cases found
      exact same ▸ List.mem_cons_self
    · rw [get?, if_neg same] at found
      exact List.mem_cons_of_mem _ (ih found)

/-- Without double keys, looking up does not depend on the order of the items. -/
theorem get?_congr {items : Dict κ β} (unique : dict.keys.Nodup) (uniqueItems : items.keys.Nodup)
    (same : ∀ item, item ∈ dict ↔ item ∈ items) (key : κ) : dict.get? key = items.get? key := by
  apply Option.ext
  intro value
  constructor
  · intro found
    exact get?_of_mem uniqueItems ((same _).mp (mem_of_get? found))
  · intro found
    exact get?_of_mem unique ((same _).mpr (mem_of_get? found))

theorem get?_of_key (listed : key ∈ dict.keys) : ∃ value, dict.get? key = some value := by
  induction dict with
  | nil => cases listed
  | cons item items ih =>
    obtain ⟨k, first⟩ := item
    by_cases same : k = key
    · exact ⟨first, by rw [get?, if_pos same]⟩
    · rw [get?, if_neg same]
      rcases List.mem_cons.mp listed with head | later
      · exact absurd head.symm same
      · exact ih later

theorem get?_set : (dict.set key value).get? other = if key = other then some value else dict.get? other := by
  induction dict with
  | nil => rfl
  | cons item items ih =>
    obtain ⟨k, old⟩ := item
    by_cases same : k = key
    · subst same
      rw [set, if_pos rfl, get?, get?]
      by_cases asked : k = other
      · rw [if_pos asked, if_pos asked]
      · rw [if_neg asked, if_neg asked, if_neg asked]
    · rw [set, if_neg same, get?, get?, ih]
      by_cases asked : k = other
      · rw [if_pos asked, if_neg fun found => same (asked.trans found.symm)]
        exact (if_pos asked).symm
      · rw [if_neg asked, if_neg asked]

/-- What holds of all entries and of a new one holds of all entries with the new one. -/
theorem forall_set {P : κ → β → Prop} (all : ∀ k v, dict.get? k = some v → P k v) (new : P key value) :
    ∀ k v, (dict.set key value).get? k = some v → P k v := by
  intro k v found
  rw [get?_set] at found
  split at found
  · rename_i same
    cases found
    exact same ▸ new
  · exact all k v found

theorem mem_values_set {v : β} (listed : v ∈ (dict.set key value).values) : v = value ∨ v ∈ dict.values := by
  induction dict with
  | nil => exact Or.inl (List.mem_singleton.mp listed)
  | cons item items ih =>
    obtain ⟨k, old⟩ := item
    rw [set] at listed
    split at listed
    · exact (List.mem_cons.mp listed).imp id (List.mem_cons_of_mem _)
    · rcases List.mem_cons.mp listed with rfl | later
      · exact Or.inr List.mem_cons_self
      · exact (ih later).imp id (List.mem_cons_of_mem _)

/-- A dictionary that is filled with some items has no others. -/
theorem mem_values_foldl_set {f : β → κ} {items : List β} {dict : Dict κ β} {v : β}
    (listed : v ∈ Dict.values (items.foldl (fun filled item => filled.set (f item) item) dict)) : v ∈ items ∨ v ∈ dict.values := by
  induction items generalizing dict with
  | nil => exact Or.inr listed
  | cons item items ih =>
    rcases ih listed with later | filled
    · exact Or.inl (List.mem_cons_of_mem _ later)
    · rcases mem_values_set filled with rfl | old
      · exact Or.inl List.mem_cons_self
      · exact Or.inr old

/-- In a dictionary that is filled one item after the other, the last item of a key counts. -/
theorem get?_foldl_set {α : Type v} {f : α → κ} {items : List α} {dict : Dict κ α} :
    (items.foldl (fun filled item => filled.set (f item) item) dict).get? key =
      (items.reverse.find? fun item => f item = key).or (dict.get? key) := by
  induction items generalizing dict with
  | nil => rfl
  | cons item items ih =>
    rw [List.foldl_cons, ih, List.reverse_cons, List.find?_append, get?_set, Option.or_assoc]
    congr 1
    by_cases same : f item = key
    · simp [same]
    · simp [same]

theorem keys_set : (dict.set key value).keys = if key ∈ dict.keys then dict.keys else dict.keys ++ [key] := by
  by_cases listed : key ∈ dict.keys
  · rw [if_pos listed]
    induction dict with
    | nil => cases listed
    | cons item items ih =>
      obtain ⟨k, old⟩ := item
      by_cases same : k = key
      · rw [set, if_pos same]
        rfl
      · have later : key ∈ keys items := (List.mem_cons.mp listed).resolve_left fun head => same head.symm
        rw [set, if_neg same]
        exact congrArg (k :: ·) (ih later)
  · rw [if_neg listed, set_of_new listed, keys, keys, List.map_append]
    rfl

theorem nodup_set (unique : dict.keys.Nodup) : (dict.set key value).keys.Nodup := by
  rw [keys_set]
  split
  · exact unique
  · rw [← List.concat_eq_append]
    exact unique.concat ‹_›

theorem mem_values (unique : dict.keys.Nodup) : value ∈ dict.values ↔ ∃ key, dict.get? key = some value := by
  constructor
  · intro listed
    obtain ⟨⟨key, _⟩, member, rfl⟩ := List.mem_map.mp listed
    exact ⟨key, get?_of_mem unique member⟩
  · rintro ⟨key, found⟩
    exact List.mem_map.mpr ⟨(key, value), mem_of_get? found, rfl⟩

/-- Looking up all keys of a dictionary gives its values. -/
theorem map_get?_keys (unique : dict.keys.Nodup) : dict.keys.map dict.get? = dict.values.map some := by
  simp only [keys, values, List.map_map]
  apply List.map_congr_left
  rintro ⟨key, value⟩ member
  exact get?_of_mem unique member

end Dict

end Foundations
