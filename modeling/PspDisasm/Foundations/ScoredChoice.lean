import Mathlib.Data.List.Sort
import Mathlib.Data.Prod.Lex
import Mathlib.Data.String.Basic
import Mathlib.Algebra.Order.Ring.Unbundled.Rat
import PspDisasm.Foundations.FirstLeast

namespace Foundations
universe u v w
variable {α : Type u} {β : Type v} {κ : Type w} [LinearOrder κ] {items others : List α}

/-- A stable sort puts the first of the least items in front. -/
theorem head?_insertionSort (key : α → κ) (items : List α) :
    (items.insertionSort fun item other => key item ≤ key other).head? = items.argmin key := by
  induction items with
  | nil => rfl
  | cons first items ih =>
    rw [List.insertionSort_cons, List.argmin_cons, ← ih]
    cases sorted : items.insertionSort fun item other => key item ≤ key other with
    | nil => rfl
    | cons least rest =>
      by_cases before : key first ≤ key least
      · rw [List.orderedInsert_cons_of_le (fun item other => key item ≤ key other) rest before]
        simp [not_lt.mpr before]
      · rw [List.orderedInsert_of_not_le (fun item other => key item ≤ key other) rest before]
        simp [not_le.mp before]

theorem argmin_map {key : α → κ} (f : β → α) (inputs : List β) : (inputs.map f).argmin key = (inputs.argmin (key ∘ f)).map f := by
  induction inputs with
  | nil => rfl
  | cons first inputs ih =>
    rw [List.map_cons, List.argmin_cons, List.argmin_cons, ih]
    cases inputs.argmin (key ∘ f) with
    | none => rfl
    | some least => simp only [Option.map_some, Function.comp_apply, apply_ite (Option.map f)]

/-- A rank that only breaks the ties of a key, in favour of what comes first, chooses what the key chooses. -/
theorem argmin_tieBreak {ρ : Type v} [LinearOrder ρ] {rank : α → ρ} {key : α → κ}
    (ties : items.Pairwise fun earlier later => rank later < rank earlier ↔ key later < key earlier) :
    items.argmin rank = items.argmin key := by
  induction items using List.reverseRecOn with
  | nil => rfl
  | append_singleton items last ih =>
    obtain ⟨before, _, across⟩ := List.pairwise_append.mp ties
    rw [List.argmin_concat, List.argmin_concat, ih before]
    cases chosen : items.argmin key with
    | none => rfl
    | some least =>
      have member := List.argmin_mem (Option.mem_def.mpr chosen)
      simp only [across least member last List.mem_cons_self]

/-- Where no two items have one key, the least one does not depend on the order of the items. -/
theorem argmin_perm {key : α → κ} (same : items.Perm others)
    (distinct : ∀ item ∈ items, ∀ other ∈ items, key item = key other → item = other) :
    items.argmin key = others.argmin key := by
  cases chosen : items.argmin key with
  | none =>
    obtain rfl := List.argmin_eq_none.mp chosen
    rw [List.nil_perm.mp same]
    rfl
  | some least =>
    have member := List.argmin_mem (Option.mem_def.mpr chosen)
    cases other : others.argmin key with
    | none =>
      rw [List.argmin_eq_none.mp other] at same
      rw [same.eq_nil] at member
      cases member
    | some rival =>
      have rivalMember := same.mem_iff.mpr (List.argmin_mem (Option.mem_def.mpr other))
      have below := List.le_of_mem_argmin rivalMember (Option.mem_def.mpr chosen)
      have above := List.le_of_mem_argmin (same.mem_iff.mp member) (Option.mem_def.mpr other)
      rw [distinct least member rival rivalMember (le_antisymm below above)]

/-- How candidates are chosen: each is scored or refused, and of equal scores the lesser name counts. -/
structure ScoredChoice (α : Type u) (κ : Type w) where
  score : α → Option Rat
  name : α → κ

namespace ScoredChoice
variable (choice : ScoredChoice α κ)

/-- The candidates that are not refused, each with its score. -/
def scored (items : List α) : List (α × Rat) := items.filterMap fun item => (choice.score item).map fun score => (item, score)

def key (entry : α × Rat) : Rat ×ₗ κ := toLex (-entry.2, choice.name entry.1)

/-- The best candidate: the first one of the highest score and, of these, of the least name. -/
def best (items : List α) : Option (α × Rat) := (choice.scored items).argmin choice.key

variable {choice} {item other : α} {score : Rat}

omit [LinearOrder κ] in
theorem mem_scored : (item, score) ∈ choice.scored items ↔ item ∈ items ∧ choice.score item = some score := by
  rw [scored, List.mem_filterMap]
  constructor
  · rintro ⟨listed, member, found⟩
    obtain ⟨value, scored, same⟩ := Option.map_eq_some_iff.mp found
    cases same
    exact ⟨member, scored⟩
  · rintro ⟨member, scored⟩
    exact ⟨item, member, by rw [scored]; rfl⟩

theorem best_none : choice.best items = none ↔ ∀ item ∈ items, choice.score item = none := by
  rw [best, List.argmin_eq_none, scored, List.filterMap_eq_nil_iff]
  exact forall₂_congr fun _ _ => Option.map_eq_none_iff

theorem best_member (found : choice.best items = some (item, score)) : item ∈ items ∧ choice.score item = some score :=
  mem_scored.mp (List.argmin_mem (Option.mem_def.mpr found))

/-- No candidate beats the best one. -/
theorem best_greatest (found : choice.best items = some (item, score)) {rival : Rat} (member : other ∈ items)
    (scored : choice.score other = some rival) : rival < score ∨ rival = score ∧ choice.name item ≤ choice.name other := by
  have least := List.le_of_mem_argmin (mem_scored.mpr ⟨member, scored⟩) (Option.mem_def.mpr found)
  rcases Prod.Lex.toLex_le_toLex.mp least with lower | ⟨same, named⟩
  · exact Or.inl (neg_lt_neg_iff.mp lower)
  · exact Or.inr ⟨(neg_inj.mp same).symm, named⟩

/-- A refused candidate changes nothing, wherever it stands. -/
theorem best_refused {before after : List α} (refused : choice.score item = none) :
    choice.best (before ++ item :: after) = choice.best (before ++ after) := by
  have nothing : choice.scored (before ++ item :: after) = choice.scored (before ++ after) := by
    simp only [scored, List.filterMap_append, List.filterMap_cons, refused, Option.map_none]
  rw [best, best, nothing]

/-- Candidates of different names may come in any order. -/
theorem best_perm (same : items.Perm others) (distinct : (items.map choice.name).Nodup) : choice.best items = choice.best others := by
  refine argmin_perm (same.filterMap _) ?_
  rintro ⟨item, score⟩ member ⟨other, rival⟩ otherMember equal
  obtain ⟨listed, scored⟩ := mem_scored.mp member
  obtain ⟨otherListed, otherScored⟩ := mem_scored.mp otherMember
  have named : choice.name item = choice.name other := congrArg (fun key => (ofLex key).2) equal
  obtain rfl := List.inj_on_of_nodup_map distinct listed otherListed named
  cases scored.symm.trans otherScored
  rfl

section Sorted
variable {γ : Type v} {folded text : α → String}

/-- The names of a candidate, in the order in which they count. -/
def byNames (score : α → Option Rat) (folded text : α → String) : ScoredChoice α (String ×ₗ String) :=
  ⟨score, fun item => toLex (folded item, text item)⟩

theorem byNames_perm {score : α → Option Rat} (same : items.Perm others) (distinct : (items.map text).Nodup) :
    (byNames score folded text).best items = (byNames score folded text).best others := by
  have second : (items.map (byNames score folded text).name).map (fun names => (ofLex names).2) = items.map text := List.map_map
  exact best_perm same (List.Nodup.of_map (fun names => (ofLex names).2) (second ▸ distinct))

/-- Of two candidates, the place decides only where the scores and the names are the same. -/
theorem rank_ties (item other : α) (score rival : Rat) {index place : Nat} (earlier : index < place) :
    toLex (-rival, toLex (folded other, toLex (text other, place))) < toLex (-score, toLex (folded item, toLex (text item, index))) ↔
      toLex (-rival, toLex (folded other, text other)) < toLex (-score, toLex (folded item, text item)) := by
  simp only [Prod.Lex.toLex_lt_toLex]
  have late : ¬place < index := by omega
  simp only [late, and_false, or_false]

/-- A sort by the score, the names and the place puts the best candidate in front. -/
theorem sorted_head (folded text : α → String) (rank : γ → Rat ×ₗ String ×ₗ String ×ₗ Nat) (make : α → Rat → Nat → γ)
    (view : γ → α × Rat) (score : α → Option Rat) (items : List α)
    (ranked : ∀ item score index, rank (make item score index) = toLex (-score, toLex (folded item, toLex (text item, index))))
    (viewed : ∀ item score index, view (make item score index) = (item, score)) :
    ((items.zipIdx.filterMap fun placed => (score placed.1).map fun value => make placed.1 value placed.2).insertionSort
      fun item other => rank item ≤ rank other).head?.map view = (byNames score folded text).best items := by
  have increasing : items.zipIdx.Pairwise fun earlier later => earlier.2 < later.2 := by
    rw [← List.pairwise_map, List.zipIdx_map_snd]
    exact List.pairwise_lt_range' 1 Nat.one_pos
  let choice := byNames score folded text
  let accepted := items.zipIdx.filterMap fun placed => (score placed.1).map fun value => make placed.1 value placed.2
  have ties : accepted.argmin rank = accepted.argmin (choice.key ∘ view) := by
    refine argmin_tieBreak (List.pairwise_filterMap.mpr (increasing.imp ?_))
    rintro ⟨item, index⟩ ⟨other, place⟩ earlier _ made _ otherMade
    obtain ⟨value, _, rfl⟩ := Option.map_eq_some_iff.mp made
    obtain ⟨rival, _, rfl⟩ := Option.map_eq_some_iff.mp otherMade
    rw [ranked, ranked, Function.comp_apply, Function.comp_apply, viewed, viewed]
    exact rank_ties item other value rival earlier
  have views : accepted.map view = choice.scored items := by
    have pairs : choice.scored items = (items.zipIdx.map Prod.fst).filterMap fun item =>
        (score item).map fun value => (item, value) := by
      rw [List.zipIdx_map_fst]
      rfl
    rw [pairs, List.filterMap_map, List.map_filterMap]
    congr 1
    funext placed
    simp only [Option.map_map, Function.comp_def, viewed]
  rw [head?_insertionSort, ties, ← argmin_map, views, best]

end Sorted

end ScoredChoice

end Foundations
