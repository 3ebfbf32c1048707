import PspDisasm.Workspace

namespace PspDisasm
open Foundations

/-- What a file below a directory is called there: no part of its path is empty or stands for a directory itself. -/
def RelativePath (path : String) : Prop :=
  ∀ part ∈ path.toList.splitOn '/', part ≠ [] ∧ part ≠ ['.'] ∧ part ≠ ['.', '.']

instance (path : String) : Decidable (RelativePath path) := inferInstanceAs (Decidable (∀ part ∈ _, _))

/-- An extracted source. The file system gives every entry a path of its own. -/
structure ExtractedTree where
  stat : FileStat
  entries : List HostFile
  relative : ∀ entry ∈ entries, RelativePath entry.path
  distinct : (entries.map (·.path)).Nodup

/-- A walked file, by its logical path and its entry. -/
abbrev WalkedFile := String × HostFile

/-- The logical path of a file that a walk accepts. -/
def logicalName (path : String) : String := (safeLogicalPath path).toOption.getD ""

def namedFile (entry : HostFile) : WalkedFile := (logicalName entry.path, entry)

section LogicalPaths
variable {path logical : String}

theorem intercalate_parts (chars : List Char) :
    "/".intercalate ((chars.splitOn '/').map String.ofList) = String.ofList chars := by
  apply String.toList_injective
  rw [String.toList_intercalate, List.map_map]
  have parts : List.map (String.toList ∘ String.ofList) (chars.splitOn '/') = chars.splitOn '/' :=
    (List.map_congr_left fun part _ => String.toList_ofList).trans (List.map_id _)
  rw [parts]
  exact (List.intercalate_splitOn '/').trans String.toList_ofList.symm

theorem ofList_eq {chars : List Char} {text : String} (same : String.ofList chars = text) : chars = text.toList := by
  rw [← same, String.toList_ofList]

theorem splitOn_slash (rest : List Char) : [] ∈ ('/' :: rest).splitOn '/' := by
  rw [List.splitOn_cons_eq_if_modifyHead]
  simp

/-- A proper path without a backslash is its own logical path. -/
theorem safeLogicalPath_plain (relative : RelativePath path) (plain : '\\' ∉ path.toList) :
    safeLogicalPath path = .ok path := by
  have unchanged : (path.toList.map fun c => if c = '\\' then '/' else c) = path.toList := by
    refine (List.map_congr_left fun c member => if_neg ?_).trans (List.map_id _)
    rintro rfl
    exact plain member
  have proper : ((path.toList.splitOn '/').map String.ofList).filter (fun part => part ≠ "" ∧ part ≠ ".") =
      (path.toList.splitOn '/').map String.ofList := by
    rw [List.filter_eq_self]
    intro part member
    obtain ⟨chars, listed, rfl⟩ := List.mem_map.mp member
    obtain ⟨nonempty, notHere, _⟩ := relative chars listed
    exact decide_eq_true ⟨fun same => nonempty (ofList_eq same), fun same => notHere (ofList_eq same)⟩
  have nonempty : path.toList.splitOn '/' ≠ [] := List.splitOn_ne_nil _ _
  have inside : ¬(path = "" ∨ path.toList.head? = some '/' ∨ ".." ∈ (path.toList.splitOn '/').map String.ofList) := by
    rintro (rfl | absolute | upwards)
    · exact (relative [] (by simp)).1 rfl
    · obtain ⟨rest, split⟩ := List.head?_eq_some_iff.mp absolute
      rw [RelativePath, split] at relative
      exact (relative [] (splitOn_slash rest)).1 rfl
    · obtain ⟨chars, listed, same⟩ := List.mem_map.mp upwards
      exact (relative chars listed).2.2 (ofList_eq same)
  unfold safeLogicalPath
  simp only [String.toList_ofList, unchanged, proper, raiseIf, if_neg inside, ok_bind, List.map_eq_nil_iff, if_neg nonempty]
  rw [intercalate_parts, String.ofList_toList]
  rfl

theorem mem_intercalate {c slash : Char} {parts : List (List Char)} (member : c ∈ [slash].intercalate parts) :
    c = slash ∨ ∃ part ∈ parts, c ∈ part := by
  induction parts with
  | nil => cases member
  | cons part parts ih =>
    cases parts with
    | nil =>
      rw [List.intercalate_singleton] at member
      exact Or.inr ⟨part, List.mem_cons_self, member⟩
    | cons next rest =>
      rw [List.intercalate_cons_cons, List.append_assoc, List.mem_append, List.mem_append, List.mem_singleton] at member
      rcases member with here | same | later
      · exact Or.inr ⟨part, List.mem_cons_self, here⟩
      · exact Or.inl same
      · exact (ih later).imp_right fun ⟨other, listed, inside⟩ => ⟨other, List.mem_cons_of_mem _ listed, inside⟩

theorem mem_intercalate_of_mem {c slash : Char} {parts : List (List Char)} {part : List Char} (listed : part ∈ parts)
    (member : c ∈ part) : c ∈ [slash].intercalate parts := by
  induction parts with
  | nil => cases listed
  | cons first parts ih =>
    cases parts with
    | nil =>
      cases List.mem_singleton.mp listed
      rw [List.intercalate_singleton]
      exact member
    | cons next rest =>
      rw [List.intercalate_cons_cons, List.mem_append]
      rcases List.mem_cons.mp listed with rfl | later
      · exact Or.inl (List.mem_append_left _ member)
      · exact Or.inr (ih later)

/-- A logical path has no backslash: they have all become slashes. -/
theorem safeLogicalPath_noBackslash (named : safeLogicalPath path = .ok logical) : '\\' ∉ logical.toList := by
  unfold safeLogicalPath at named
  obtain ⟨_, _, named⟩ := bind_ok.mp named
  obtain ⟨_, _, named⟩ := bind_ok.mp named
  cases named
  intro member
  rw [String.toList_intercalate] at member
  rcases mem_intercalate member with slash | ⟨part, listed, inside⟩
  · exact absurd slash (by decide)
  · obtain ⟨text, kept, rfl⟩ := List.mem_map.mp listed
    obtain ⟨chars, split, rfl⟩ := List.mem_map.mp (List.mem_filter.mp kept).1
    rw [String.toList_ofList] at inside split
    have inText := @mem_intercalate_of_mem _ '/' _ _ split inside
    rw [List.intercalate_splitOn, List.mem_map] at inText
    obtain ⟨c, _, same⟩ := inText
    split at same
    · exact absurd same (by decide)
    · rename_i other
      exact other same

end LogicalPaths

section Walk
variable {tools : WorkspaceTools} {entries : List HostFile} {walked : List WalkedFile}

/-- The entries below a source in the order of the walk. -/
def walkOrder (tools : WorkspaceTools) (entries : List HostFile) : List HostFile :=
  entries.insertionSort fun entry other => tools.casefold entry.path ≤ tools.casefold other.path

/-- A walk that succeeds has named every regular file, in order. -/
theorem walkSource_files (ran : walkSource tools entries = .ok walked) :
    List.Forall₂ (fun entry file => file.2 = entry ∧ safeLogicalPath entry.path = .ok file.1)
      ((walkOrder tools entries).filter (·.regular)) walked := by
  obtain ⟨checked, traversed, same⟩ := bind_ok.mp ran
  cases same
  refine mapM_filterMap_ok (fun entry outcome run => ?_) traversed
  obtain ⟨_, _, run⟩ := bind_ok.mp run
  split at run
  · rename_i regular
    obtain ⟨logical, named, made⟩ := bind_ok.mp run
    cases made
    rw [if_pos regular]
    exact ⟨_, rfl, rfl, named⟩
  · rename_i other
    cases run
    rw [if_neg other]

theorem walkSource_eq (ran : walkSource tools entries = .ok walked) :
    walked = ((walkOrder tools entries).filter (·.regular)).map namedFile := by
  have pairs := walkSource_files ran
  generalize (walkOrder tools entries).filter (·.regular) = kept at pairs
  clear ran
  induction pairs with
  | nil => rfl
  | @cons entry file kept walked head _ ih =>
    obtain ⟨rfl, named⟩ := head
    have name : logicalName file.2.path = file.1 := by rw [logicalName, named]; rfl
    rw [List.map_cons, ← ih, namedFile, name]

theorem walkSource_entries (ran : walkSource tools entries = .ok walked) :
    walked.map Prod.snd = (walkOrder tools entries).filter (·.regular) := by
  rw [walkSource_eq ran, List.map_map]
  exact List.map_id _

/-- Whether a walk succeeds does not depend on the order of the entries. -/
theorem walkSource_perm {others : List HostFile} (perm : entries.Perm others)
    (ran : walkSource tools entries = .ok walked) : ∃ again, walkSource tools others = .ok again := by
  obtain ⟨checked, traversed, _⟩ := bind_ok.mp ran
  have pairs := (mapM_ok.mp traversed).flip
  obtain ⟨again, traversedAgain, _⟩ := @mapM_total _ _ _ _ (fun _ _ => True) (walkOrder tools others) fun entry member => by
    have listed : entry ∈ walkOrder tools entries :=
      ((List.perm_insertionSort _ _).trans (perm.trans (List.perm_insertionSort _ _).symm)).mem_iff.mpr member
    obtain ⟨outcome, _, run⟩ := forall₂_mem pairs listed
    exact ⟨outcome, run, trivial⟩
  exact ⟨_, bind_ok.mpr ⟨again, traversedAgain, rfl⟩⟩

theorem walkSource_mem (ran : walkSource tools entries = .ok walked) {file : WalkedFile} (member : file ∈ walked) :
    file.2 ∈ entries ∧ safeLogicalPath file.2.path = .ok file.1 := by
  obtain ⟨entry, listed, rfl, named⟩ := forall₂_mem (walkSource_files ran) member
  exact ⟨(List.mem_insertionSort _).mp (List.mem_filter.mp listed).1, named⟩

/-- The walked files of a tree have paths of their own. -/
theorem walkSource_distinct {tree : ExtractedTree} (ran : walkSource tools tree.entries = .ok walked) :
    (walked.map fun file => file.2.path).Nodup := by
  have paths : walked.map (fun file => file.2.path) = (walked.map Prod.snd).map (·.path) := by rw [List.map_map]; rfl
  rw [paths, walkSource_entries ran]
  have ordered : ((walkOrder tools tree.entries).map (·.path)).Nodup :=
    ((List.perm_insertionSort _ _).map _).nodup_iff.mpr tree.distinct
  exact ordered.sublist (List.filter_sublist.map _)

theorem directoryEntries_ok {records : List WorkspaceFileRecord} {snapshot : List SnapshotEntry}
    (ran : directoryEntries tools entries = .ok (records, snapshot)) :
    ∃ walked, walkSource tools entries = .ok walked ∧
      records = (walked.map (directoryRecord tools)).insertionSort fun record other =>
        tools.casefold record.path ≤ tools.casefold other.path := by
  obtain ⟨walked, walk, rest⟩ := bind_ok.mp ran
  obtain ⟨_, _, made⟩ := bind_ok.mp rest
  cases made
  exact ⟨walked, walk, rfl⟩

end Walk

end PspDisasm
