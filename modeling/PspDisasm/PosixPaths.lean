import PspDisasm.Disc.GameScan
import PspDisasm.SourceWalk

namespace PspDisasm
open Foundations

/-- What a part of a path that stands for a file or a directory of its own is made of. -/
structure ProperPart (part : String) : Prop where
  single : '/' ∉ part.toList
  nonempty : part ≠ ""
  notHere : part ≠ "."

/-- The text with slashes in the place of its backslashes. -/
def slashed (text : String) : String := String.ofList (text.toList.map fun c => if c = '\\' then '/' else c)

section Parts
variable {text part logical : String} {parts : List String}

theorem not_mem_splitOn {c : Char} {chars piece : List Char} (member : piece ∈ chars.splitOn c) : c ∉ piece := by
  induction chars generalizing piece with
  | nil =>
    rw [List.splitOn_nil, List.mem_singleton] at member
    rw [member]
    exact List.not_mem_nil
  | cons d chars ih =>
    rw [List.splitOn_cons_eq_if_modifyHead] at member
    by_cases same : d = c
    · rw [if_pos (beq_iff_eq.mpr same)] at member
      rcases List.mem_cons.mp member with rfl | later
      · exact List.not_mem_nil
      · exact ih later
    · rw [if_neg (fun equal => same (beq_iff_eq.mp equal))] at member
      obtain ⟨first, rest, split⟩ := List.exists_cons_of_ne_nil (List.splitOn_ne_nil c chars)
      rw [split, List.modifyHead_cons] at member
      rw [split] at ih
      rcases List.mem_cons.mp member with rfl | later
      · rw [List.mem_cons, not_or]
        exact ⟨fun equal => same equal.symm, ih List.mem_cons_self⟩
      · exact ih (List.mem_cons_of_mem _ later)

theorem posixParts_proper (member : part ∈ posixParts text) : ProperPart part := by
  obtain ⟨listed, kept⟩ := List.mem_filter.mp member
  obtain ⟨nonempty, notHere⟩ := of_decide_eq_true kept
  obtain ⟨chars, split, rfl⟩ := List.mem_map.mp listed
  refine ⟨?_, nonempty, notHere⟩
  rw [String.toList_ofList]
  exact not_mem_splitOn split

/-- The parts of a path are found again in it. -/
theorem posixParts_join (proper : ∀ part ∈ parts, ProperPart part) : posixParts ("/".intercalate parts) = parts := by
  cases parts with
  | nil => rfl
  | cons first rest =>
    have slash : "/".toList = ['/'] := rfl
    have pieces : ∀ piece ∈ (first :: rest).map String.toList, '/' ∉ piece := by
      intro piece member
      obtain ⟨part, listed, rfl⟩ := List.mem_map.mp member
      exact (proper part listed).single
    unfold posixParts
    rw [String.toList_intercalate, slash, List.splitOn_intercalate '/' pieces (by simp), List.map_map]
    have texts : List.map (String.ofList ∘ String.toList) (first :: rest) = first :: rest :=
      (List.map_congr_left fun part _ => String.ofList_toList).trans (List.map_id _)
    rw [texts, List.filter_eq_self]
    intro part member
    exact decide_eq_true ⟨(proper part member).nonempty, (proper part member).notHere⟩

theorem mem_posixParts_chars {c : Char} (member : part ∈ posixParts text) (inside : c ∈ part.toList) : c ∈ text.toList := by
  obtain ⟨listed, _⟩ := List.mem_filter.mp member
  obtain ⟨chars, split, rfl⟩ := List.mem_map.mp listed
  rw [String.toList_ofList] at inside
  have inText := @mem_intercalate_of_mem _ '/' _ _ split inside
  rwa [List.intercalate_splitOn] at inText

/-- What makes a text a logical path: the parts of the path with slashes only, none of which leads upwards. -/
theorem safeLogicalPath_ok : safeLogicalPath text = .ok logical ↔
    text ≠ "" ∧ (slashed text).toList.head? ≠ some '/' ∧ ".." ∉ posixParts (slashed text) ∧
      posixParts (slashed text) ≠ [] ∧ logical = "/".intercalate (posixParts (slashed text)) := by
  unfold safeLogicalPath
  simp only [bind_ok, raiseIf_ok, not_or]
  constructor
  · rintro ⟨_, ⟨nonempty, relative, inside⟩, _, parts, made⟩
    exact ⟨nonempty, relative, inside, parts, (Except.ok.inj made).symm⟩
  · rintro ⟨nonempty, relative, inside, parts, rfl⟩
    exact ⟨(), ⟨nonempty, relative, inside⟩, (), parts, rfl⟩

theorem slashed_plain (plain : '\\' ∉ text.toList) : slashed text = text := by
  have unchanged : (text.toList.map fun c => if c = '\\' then '/' else c) = text.toList := by
    refine (List.map_congr_left fun c member => if_neg ?_).trans (List.map_id _)
    rintro rfl
    exact plain member
  rw [slashed, unchanged, String.ofList_toList]

theorem slashed_noBackslash : '\\' ∉ (slashed text).toList := by
  rw [slashed, String.toList_ofList, List.mem_map]
  rintro ⟨c, _, same⟩
  split at same
  · exact absurd same (by decide)
  · rename_i other
    exact other same

/-- Proper parts that lead nowhere else are a logical path. -/
theorem safeLogicalPath_join (proper : ∀ part ∈ parts, ProperPart part) (plain : ∀ part ∈ parts, '\\' ∉ part.toList)
    (inside : ".." ∉ parts) (nonempty : parts ≠ []) : safeLogicalPath ("/".intercalate parts) = .ok ("/".intercalate parts) := by
  have joined : (("/".intercalate parts).toList) = ['/'].intercalate (parts.map String.toList) := String.toList_intercalate
  have noBackslash : '\\' ∉ ("/".intercalate parts).toList := by
    intro member
    rw [joined] at member
    rcases mem_intercalate member with slash | ⟨piece, listed, within⟩
    · exact absurd slash (by decide)
    · obtain ⟨part, partListed, rfl⟩ := List.mem_map.mp listed
      exact plain part partListed within
  obtain ⟨first, rest, rfl⟩ := List.exists_cons_of_ne_nil nonempty
  have firstProper := proper first List.mem_cons_self
  obtain ⟨c, chars, begun⟩ : ∃ c chars, first.toList = c :: chars := by
    refine List.exists_cons_of_ne_nil fun empty => firstProper.nonempty ?_
    rw [← String.ofList_toList (s := first), empty]
  have head : ("/".intercalate (first :: rest)).toList.head? = some c := by
    rw [joined, List.map_cons, begun]
    cases rest with
    | nil => rfl
    | cons next rest => rfl
  rw [safeLogicalPath_ok, slashed_plain noBackslash, posixParts_join proper, head]
  refine ⟨?_, ?_, inside, nonempty, rfl⟩
  · intro empty
    rw [empty] at head
    cases head
  · intro same
    have slash : '/' ∈ first.toList := by
      rw [begun, ← Option.some.inj same]
      exact List.mem_cons_self
    exact firstProper.single slash

/-- A logical path is its own logical path. -/
theorem safeLogicalPath_idem (named : safeLogicalPath text = .ok logical) : safeLogicalPath logical = .ok logical := by
  obtain ⟨_, _, inside, nonempty, rfl⟩ := safeLogicalPath_ok.mp named
  refine safeLogicalPath_join (fun part member => posixParts_proper member) (fun part member within => ?_) inside nonempty
  exact slashed_noBackslash (mem_posixParts_chars member within)

end Parts

end PspDisasm
