import Mathlib.Data.List.Dedup
import Mathlib.Data.List.Induction
import Mathlib.Data.List.Perm.Lattice
import Mathlib.Data.List.Sort
import PspDisasm.Foundations.Dict

namespace Foundations
universe u v w
variable {α : Type u} {κ : Type v} [DecidableEq κ] {key : α → κ} {items others : List α} {item : α}

def byKey (key : α → κ) (items : List α) : Dict κ α := items.foldl (fun dict item => dict.set (key item) item) []

/-- One item for each key: the last one of the key, where the first one stood. -/
def latest (key : α → κ) (items : List α) : List α := (byKey key items).values

theorem byKey_append (item : α) : byKey key (items ++ [item]) = (byKey key items).set (key item) item := List.foldl_append

theorem keys_byKey_nodup : (byKey key items).keys.Nodup := by
  induction items using List.reverseRecOn with
  | nil => exact List.nodup_nil
  | append_singleton items item ih =>
    rw [byKey_append]
    exact Dict.nodup_set ih

theorem get?_byKey {k : κ} : (byKey key items).get? k = items.reverse.find? fun item => key item = k := by
  rw [byKey, Dict.get?_foldl_set, Dict.get?, Option.or_none]

theorem get?_byKey_some {k : κ} (found : (byKey key items).get? k = some item) : key item = k ∧ item ∈ items := by
  rw [get?_byKey] at found
  exact ⟨by simpa using List.find?_some found, List.mem_reverse.mp (List.mem_of_find?_eq_some found)⟩

theorem get?_byKey_of_mem {k : κ} (listed : item ∈ items) (named : key item = k) : ∃ found, (byKey key items).get? k = some found := by
  rw [get?_byKey, ← Option.isSome_iff_exists, List.find?_isSome]
  exact ⟨item, List.mem_reverse.mpr listed, decide_eq_true named⟩

theorem mem_latest : item ∈ latest key items ↔ (byKey key items).get? (key item) = some item := by
  rw [latest, Dict.mem_values keys_byKey_nodup]
  constructor
  · rintro ⟨k, found⟩
    rwa [(get?_byKey_some found).1]
  · exact fun found => ⟨_, found⟩

theorem latest_subset (listed : item ∈ latest key items) : item ∈ items :=
  (get?_byKey_some (mem_latest.mp listed)).2

theorem map_key_latest : (latest key items).map key = (byKey key items).keys := by
  rw [latest, Dict.values, Dict.keys, List.map_map]
  refine List.map_congr_left fun entry member => ?_
  exact (get?_byKey_some (Dict.get?_of_mem keys_byKey_nodup member)).1

theorem map_key_latest_nodup : ((latest key items).map key).Nodup := by
  rw [map_key_latest]
  exact keys_byKey_nodup

theorem latest_nodup : (latest key items).Nodup := List.Nodup.of_map key map_key_latest_nodup

/-- Items of one key are the same item. -/
def TellsApart (key : α → κ) (items : List α) : Prop := ∀ item ∈ items, ∀ other ∈ items, key item = key other → item = other

omit [DecidableEq κ] in
theorem TellsApart.mono (tells : TellsApart key items) (fewer : ∀ item ∈ others, item ∈ items) : TellsApart key others :=
  fun item listed other otherListed same => tells item (fewer item listed) other (fewer other otherListed) same

/-- Where the key tells the items apart, only repetitions go. -/
theorem mem_latest_of_tellsApart (tells : TellsApart key items) : item ∈ latest key items ↔ item ∈ items := by
  refine ⟨latest_subset, fun listed => ?_⟩
  rw [mem_latest]
  obtain ⟨other, found⟩ := get?_byKey_of_mem listed (rfl : key item = key item)
  obtain ⟨kept, otherListed⟩ := get?_byKey_some found
  rw [found, tells item listed other otherListed kept.symm]

section Sorted
variable {β : Type w} [LinearOrder β] {order : α → β}

def sortedBy (order : α → β) (items : List α) : List α := items.insertionSort fun item other => order item ≤ order other

theorem sortedBy_perm : (sortedBy order items).Perm items := List.perm_insertionSort _ _

theorem mem_sortedBy : item ∈ sortedBy order items ↔ item ∈ items := List.mem_insertionSort _

theorem sortedBy_pairwise : (sortedBy order items).Pairwise fun item other => order item ≤ order other := by
  have total : Std.Total fun item other : α => order item ≤ order other := ⟨fun _ _ => le_total _ _⟩
  have transitive : IsTrans α fun item other => order item ≤ order other := ⟨fun _ _ _ => le_trans⟩
  exact List.pairwise_insertionSort (fun item other : α => order item ≤ order other) items

/-- Without repetitions, and where no two items are equal in the order, the sorted items ascend strictly. -/
theorem sortedBy_strict (distinct : items.Nodup) (apart : TellsApart order items) :
    (sortedBy order items).Pairwise fun item other => order item < order other := by
  have sortedDistinct : (sortedBy order items).Nodup := sortedBy_perm.nodup_iff.mpr distinct
  refine (sortedBy_pairwise.and sortedDistinct).imp_of_mem ?_
  rintro item other member otherMember ⟨below, different⟩
  exact lt_of_le_of_ne below fun same => different (apart item (mem_sortedBy.mp member) other (mem_sortedBy.mp otherMember) same)

/-- A list that ascends strictly is determined by what it contains. -/
theorem ascending_ext (sorted : items.Pairwise fun item other => order item < order other)
    (otherSorted : others.Pairwise fun item other => order item < order other)
    (same : ∀ item, item ∈ items ↔ item ∈ others) : items = others := by
  have distinct : ∀ {list : List α}, list.Pairwise (fun item other => order item < order other) → list.Nodup :=
    fun ascending => ascending.imp fun below equal => below.ne (congrArg order equal)
  refine List.Perm.eq_of_pairwise ?_ sorted otherSorted ((List.perm_ext_iff_of_nodup (distinct sorted) (distinct otherSorted)).mpr same)
  intro item other _ _ below above
  exact absurd (below.trans above) (lt_irrefl _)

end Sorted

end Foundations
