import Mathlib.Data.List.Nodup

namespace Foundations
universe u v w

/-- The items that were kept, and the keys that they took. -/
structure Firsts (α : Type u) (β : Type v) where
  kept : List α
  taken : List β

variable {α : Type u} {β : Type v} {γ : Type w} [DecidableEq β] {key : α → β} {firsts : Firsts α β} {items : List α}
  {item : α}

namespace Firsts

def add (key : α → β) (firsts : Firsts α β) (item : α) : Firsts α β :=
  if key item ∈ firsts.taken then firsts else ⟨firsts.kept ++ [item], key item :: firsts.taken⟩

/-- The first item of every key. -/
def ofList (key : α → β) (items : List α) : Firsts α β := items.foldl (add key) ⟨[], []⟩

/-- The taken keys are those of the kept items, and no two of these have the same. -/
structure Lawful (key : α → β) (firsts : Firsts α β) : Prop where
  distinct : (firsts.kept.map key).Nodup
  taken : ∀ k, k ∈ firsts.taken ↔ k ∈ firsts.kept.map key

theorem Lawful.add (lawful : Lawful key firsts) : Lawful key (firsts.add key item) := by
  rw [Firsts.add]
  split
  · exact lawful
  · rename_i new
    have free := mt (lawful.taken _).mpr new
    refine ⟨?_, fun k => ?_⟩
    · rw [List.map_append, List.nodup_append]
      refine ⟨lawful.distinct, List.nodup_singleton _, fun k old other last same => free ?_⟩
      rw [← List.mem_singleton.mp last, ← same]
      exact old
    · rw [List.mem_cons, lawful.taken, List.map_append, List.mem_append, or_comm]
      exact or_congr_right List.mem_singleton.symm

theorem Lawful.foldl (lawful : Lawful key firsts) : Lawful key (items.foldl (Firsts.add key) firsts) := by
  induction items generalizing firsts with
  | nil => exact lawful
  | cons item items ih => exact ih lawful.add

theorem ofList_lawful : Lawful key (ofList key items) :=
  Lawful.foldl ⟨List.nodup_nil, fun _ => ⟨fun taken => taken, fun kept => kept⟩⟩

theorem mem_kept_foldl : item ∈ (items.foldl (add key) firsts).kept ↔
    item ∈ firsts.kept ∨ key item ∉ firsts.taken ∧ items.find? (fun other => key other = key item) = some item := by
  induction items generalizing firsts with
  | nil => simp
  | cons first items ih =>
    rw [List.foldl_cons, ih, add]
    by_cases old : key first ∈ firsts.taken
    · rw [if_pos old]
      refine or_congr_right (and_congr_right fun free => ?_)
      have other : key first ≠ key item := fun same => free (same ▸ old)
      rw [List.find?_cons_of_neg (by simpa using other)]
    · rw [if_neg old]
      dsimp only
      by_cases same : key first = key item
      · rw [List.find?_cons_of_pos (by simpa using same), List.mem_append, List.mem_singleton, Option.some_inj, ← same]
        simp [old, eq_comm]
      · rw [List.find?_cons_of_neg (by simpa using same), List.mem_append, List.mem_singleton, List.mem_cons]
        have other : item ≠ first := fun equal => same (congrArg key equal.symm)
        simp [other, Ne.symm same]

theorem mem_ofList : item ∈ (ofList key items).kept ↔ items.find? (fun other => key other = key item) = some item := by
  rw [ofList, mem_kept_foldl]
  simp

/-- The kept items are told apart by a map if it tells the first items of any two keys apart. -/
theorem nodup_map_iff {name : α → γ} : ((ofList key items).kept.map name).Nodup ↔
    ∀ a b, a ∈ (ofList key items).kept → b ∈ (ofList key items).kept → name a = name b → key a = key b := by
  have distinct := (@ofList_lawful _ _ _ key items).distinct
  refine ⟨fun apart a b first second same => ?_, fun told => ?_⟩
  · rw [List.inj_on_of_nodup_map apart first second same]
  · refine List.Nodup.map_on (fun a first b second same => ?_) (List.Nodup.of_map _ distinct)
    exact List.inj_on_of_nodup_map distinct first second (told a b first second same)

end Firsts

end Foundations
