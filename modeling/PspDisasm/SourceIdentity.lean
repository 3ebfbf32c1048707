import Mathlib.Data.List.Permutation
import PspDisasm.Foundations.StableSort
import PspDisasm.PlacementOrder
import PspDisasm.SourceWalk
import PspDisasm.WorkspaceSources

namespace PspDisasm
open Foundations

/-- A file without the time at which it was written. -/
def HostFile.untimed (file : HostFile) : HostFile := { file with mtimeNs := 0 }

def identityOf (tools : WorkspaceTools) (entry : HostFile) : FileIdentity := (directoryRecord tools (namedFile entry)).identity

/-- The regular files below a source, in the order of their records. -/
def recordOrder (tools : WorkspaceTools) (entries : List HostFile) : List HostFile :=
  ((walkOrder tools entries).filter (·.regular)).insertionSort fun entry other =>
    tools.casefold (logicalName entry.path) ≤ tools.casefold (logicalName other.path)

/-- The list that the identity of a source is the digest of. -/
def identityOrder (tools : WorkspaceTools) (entries : List HostFile) : List FileIdentity :=
  (recordOrder tools entries).map (identityOf tools)

/-- Entries that hold the files of a tree, in the order and with the times of another place. -/
def Enumerates (entries : List HostFile) (tree : ExtractedTree) : Prop :=
  (entries.map (·.untimed)).Perm (tree.entries.map (·.untimed))

/-- Two preparations of the same files come to one identity, wherever the files are and in whatever order they are met. -/
def IdentityIndependent (tools : WorkspaceTools) (tree : ExtractedTree) : Prop :=
  ∀ (host other : String → Option HostSource) (path otherPath name otherName : String) (stat otherStat : FileStat)
    (entries otherEntries : List HostFile) (preparation otherPreparation : Preparation),
    host path = some (.directory stat entries) → Enumerates entries tree →
    other otherPath = some (.directory otherStat otherEntries) → Enumerates otherEntries tree →
    prepareGameWorkspace tools host path name = .ok preparation →
    prepareGameWorkspace tools other otherPath otherName = .ok otherPreparation →
    preparation.manifest.sourceIdentity = otherPreparation.manifest.sourceIdentity

/-- No two files have paths that differ in case only, both as they stand and as logical paths. -/
def NoTwins (tools : WorkspaceTools) (entries : List HostFile) : Prop :=
  ∀ entry ∈ entries, ∀ other ∈ entries, entry.regular = true → other.regular = true →
    tools.casefold entry.path = tools.casefold other.path →
    tools.casefold (logicalName entry.path) = tools.casefold (logicalName other.path) → entry = other

/-- The logical paths of the files of a tree are pairwise distinct. -/
def DistinctNames (tree : ExtractedTree) : Prop :=
  ∀ entry ∈ tree.entries, ∀ other ∈ tree.entries, entry.regular = true → other.regular = true →
    logicalName entry.path = logicalName other.path → entry = other

/-- The digest tells the orders of the files of a tree apart. -/
def CollisionFree (tools : WorkspaceTools) (tree : ExtractedTree) : Prop :=
  ∀ identities others : List FileIdentity, identities.Perm (identityOrder tools tree.entries) →
    others.Perm (identityOrder tools tree.entries) → tools.identityDigest identities = tools.identityDigest others →
    identities = others

section Orders
variable {tools : WorkspaceTools} {entries others : List HostFile} {entry other : HostFile}

instance stringLE_total : Std.Total fun first second : String => first ≤ second := ⟨String.le_total⟩
instance stringLE_trans : IsTrans String (· ≤ ·) := ⟨fun _ _ _ => String.le_trans⟩
instance stringLE_antisymm : Std.Antisymm fun first second : String => first ≤ second := ⟨fun _ _ => String.le_antisymm⟩

/-- Sorting by a folded name puts the folded names in order. -/
theorem sorted_folded {α : Type} (name : α → String) (items : List α) :
    (items.insertionSort fun item other => tools.casefold (name item) ≤ tools.casefold (name other)).Pairwise
      fun item other => tools.casefold (name item) ≤ tools.casefold (name other) := by
  have total : Std.Total fun item other : α => tools.casefold (name item) ≤ tools.casefold (name other) :=
    ⟨fun _ _ => String.le_total _ _⟩
  have transitive : IsTrans α fun item other => tools.casefold (name item) ≤ tools.casefold (name other) :=
    ⟨fun _ _ _ => String.le_trans⟩
  exact List.pairwise_insertionSort _ items

theorem walkOrder_perm : (walkOrder tools entries).Perm entries := List.perm_insertionSort _ _

theorem recordOrder_perm : (recordOrder tools entries).Perm (entries.filter (·.regular)) :=
  (List.perm_insertionSort _ _).trans (walkOrder_perm.filter _)

/-- Without twins, the order of the records does not depend on the order of the entries. -/
theorem recordOrder_eq (perm : entries.Perm others) (apart : NoTwins tools entries) :
    recordOrder tools entries = recordOrder tools others := by
  have kept : ((walkOrder tools entries).filter (·.regular)).Perm ((walkOrder tools others).filter (·.regular)) :=
    ((walkOrder_perm.trans perm).trans walkOrder_perm.symm).filter _
  have sorted := fun entries : List HostFile => @sorted_folded tools _ HostFile.path entries
  refine insertionSort_eq_of_keys kept ((sorted entries).filter _) ((sorted others).filter _) ?_
  intro entry member other otherMember path name
  obtain ⟨listed, regular⟩ := List.mem_filter.mp member
  obtain ⟨otherListed, otherRegular⟩ := List.mem_filter.mp otherMember
  exact apart entry (walkOrder_perm.mem_iff.mp listed) other (walkOrder_perm.mem_iff.mp otherListed) regular otherRegular
    path name

/-- Twins are recorded in the order in which they are met. -/
theorem twins_sublist (listed : [entry, other].Sublist entries) (regular : entry.regular = true)
    (otherRegular : other.regular = true) (path : tools.casefold entry.path = tools.casefold other.path)
    (name : tools.casefold (logicalName entry.path) = tools.casefold (logicalName other.path)) :
    [entry, other].Sublist (recordOrder tools entries) := by
  have walked : [entry, other].Sublist (walkOrder tools entries) :=
    List.pair_sublist_insertionSort (path ▸ String.le_refl _) listed
  have kept : [entry, other].filter (·.regular) = [entry, other] := by simp [regular, otherRegular]
  exact List.pair_sublist_insertionSort (name ▸ String.le_refl _) (kept ▸ walked.filter _)

theorem twins_identities (rest : List HostFile) (regular : entry.regular = true) (otherRegular : other.regular = true)
    (path : tools.casefold entry.path = tools.casefold other.path)
    (name : tools.casefold (logicalName entry.path) = tools.casefold (logicalName other.path)) :
    [identityOf tools entry, identityOf tools other].Sublist (identityOrder tools (entry :: other :: rest)) := by
  have first : [entry, other].Sublist (entry :: other :: rest) := List.sublist_append_left [entry, other] rest
  exact (twins_sublist first regular otherRegular path name).map (identityOf tools)

theorem walkOrder_untimed : walkOrder tools (entries.map (·.untimed)) = (walkOrder tools entries).map (·.untimed) :=
  insertionSort_map_key fun _ => rfl

/-- The times of the files leave no trace in their identities. -/
theorem identityOrder_untimed : identityOrder tools (entries.map (·.untimed)) = identityOrder tools entries := by
  have kept : ((walkOrder tools entries).map (·.untimed)).filter (·.regular) =
      ((walkOrder tools entries).filter (·.regular)).map (·.untimed) := List.filter_map
  have ordered : recordOrder tools (entries.map (·.untimed)) = (recordOrder tools entries).map (·.untimed) := by
    rw [recordOrder, walkOrder_untimed, kept]
    exact insertionSort_map_key fun _ => rfl
  rw [identityOrder, ordered, List.map_map]
  rfl

/-- The identity of a directory is the digest of its identity order. -/
theorem directoryEntries_identity {records : List WorkspaceFileRecord} {snapshot : List SnapshotEntry}
    (ran : directoryEntries tools entries = .ok (records, snapshot)) :
    sourceIdentity tools records = tools.identityDigest (identityOrder tools entries) := by
  obtain ⟨walked, walk, rfl⟩ := directoryEntries_ok ran
  -- The records are sorted already, so sorting them again changes nothing.
  rw [sourceIdentity, (sorted_folded WorkspaceFileRecord.path _).insertionSort_eq, walkSource_eq walk, List.map_map]
  have ordered : (((walkOrder tools entries).filter (·.regular)).map (directoryRecord tools ∘ namedFile)).insertionSort
      (fun record other => tools.casefold record.path ≤ tools.casefold other.path) =
        (recordOrder tools entries).map (directoryRecord tools ∘ namedFile) := insertionSort_map_key fun _ => rfl
  rw [ordered, List.map_map]
  rfl

end Orders

section Independence
variable {tools : WorkspaceTools} {tree : ExtractedTree} {host : String → Option HostSource} {path name : String}
  {stat : FileStat} {entries : List HostFile} {preparation : Preparation}

theorem prepare_identity (there : host path = some (.directory stat entries))
    (prepared : prepareGameWorkspace tools host path name = .ok preparation) :
    preparation.manifest.sourceIdentity = tools.identityDigest (identityOrder tools entries) := by
  obtain ⟨_, identity, _, source, found, scanned⟩ := prepare_ok prepared
  rw [there] at found
  cases found
  obtain ⟨⟨records, snapshot⟩, ran, made⟩ := bind_ok.mp scanned
  obtain ⟨_, rest⟩ := Prod.mk.inj (Except.ok.inj made)
  rw [identity, ← (Prod.mk.inj rest).1]
  exact directoryEntries_identity ran

/-- A preparation accepts the files of a source in any order. -/
theorem prepare_perm {others : List HostFile} (perm : entries.Perm others)
    (accepted : (directoryEntries tools entries).isOk = true) :
    ∃ preparation, prepareGameWorkspace tools (fun _ => some (.directory ⟨0, 0⟩ others)) "" "" = .ok preparation := by
  obtain ⟨result, ran⟩ := exists_ok accepted
  obtain ⟨walked, walk, rest⟩ := bind_ok.mp ran
  obtain ⟨_, filled, _⟩ := bind_ok.mp rest
  obtain ⟨again, walkAgain⟩ := walkSource_perm perm walk
  have same : (walked.map Prod.snd).Perm (again.map Prod.snd) := by
    rw [walkSource_entries walk, walkSource_entries walkAgain]
    exact ((walkOrder_perm.trans perm).trans walkOrder_perm.symm).filter _
  have filledAgain : again ≠ [] := by
    rintro rfl
    exact raiseIf_ok.mp filled (List.map_eq_nil_iff.mp same.eq_nil)
  have listed : directoryEntries tools others = .ok _ :=
    bind_ok.mpr ⟨again, walkAgain, bind_ok.mpr ⟨(), raiseIf_ok.mpr filledAgain, rfl⟩⟩
  exact ⟨_, bind_ok.mpr ⟨_, bind_ok.mpr ⟨_, listed, rfl⟩, rfl⟩⟩

theorem NoTwins.untimed (apart : NoTwins tools entries) : NoTwins tools (entries.map (·.untimed)) := by
  intro entry member other otherMember regular otherRegular path name
  obtain ⟨entry, listed, rfl⟩ := List.mem_map.mp member
  obtain ⟨other, otherListed, rfl⟩ := List.mem_map.mp otherMember
  rw [apart entry listed other otherListed regular otherRegular path name]

theorem Enumerates.identityOrder (enumerated : Enumerates entries tree) (apart : NoTwins tools tree.entries) :
    identityOrder tools entries = PspDisasm.identityOrder tools tree.entries := by
  rw [← identityOrder_untimed, ← @identityOrder_untimed tools tree.entries, PspDisasm.identityOrder,
    ← recordOrder_eq enumerated.symm apart.untimed]
  rfl

theorem identityOrder_perm (perm : entries.Perm tree.entries) :
    (identityOrder tools entries).Perm (identityOrder tools tree.entries) :=
  ((recordOrder_perm.trans (perm.filter _)).trans recordOrder_perm.symm).map _

theorem identityOrder_nodup (distinct : DistinctNames tree) (perm : entries.Perm tree.entries) :
    (identityOrder tools entries).Nodup := by
  rw [(identityOrder_perm perm).nodup_iff]
  have once : (recordOrder tools tree.entries).Nodup := by
    rw [recordOrder_perm.nodup_iff]
    exact tree.distinct.of_map.filter _
  refine List.Nodup.map_on ?_ once
  intro entry member other otherMember same
  obtain ⟨listed, regular⟩ := List.mem_filter.mp (recordOrder_perm.mem_iff.mp member)
  obtain ⟨otherListed, otherRegular⟩ := List.mem_filter.mp (recordOrder_perm.mem_iff.mp otherMember)
  exact distinct entry listed other otherListed regular otherRegular (congrArg FileIdentity.path same)

/-- The identity of a tree is independent of where its files are and of the order in which they are met exactly where
no two files are twins. -/
theorem identityIndependent_iff (distinct : DistinctNames tree) (free : CollisionFree tools tree)
    (accepted : (directoryEntries tools tree.entries).isOk = true) :
    IdentityIndependent tools tree ↔ NoTwins tools tree.entries := by
  constructor
  · intro independent entry member other otherMember regular otherRegular path name
    by_contra different
    -- Two enumerations that begin with the twins, in the one order and in the other.
    have left : other ∈ tree.entries.erase entry := (List.mem_erase_of_ne (Ne.symm different)).mpr otherMember
    have perm := (List.perm_cons_erase member).trans ((List.perm_cons_erase left).cons entry)
    generalize (tree.entries.erase entry).erase other = rest at perm
    have swapped := perm.trans (List.Perm.swap other entry rest)
    obtain ⟨preparation, prepared⟩ := prepare_perm perm accepted
    obtain ⟨otherPreparation, otherPrepared⟩ := prepare_perm swapped accepted
    have same := independent _ _ _ _ _ _ _ _ _ _ preparation otherPreparation rfl (perm.symm.map _) rfl
      (swapped.symm.map _) prepared otherPrepared
    rw [prepare_identity rfl prepared, prepare_identity rfl otherPrepared] at same
    have orders := free _ _ (identityOrder_perm perm.symm) (identityOrder_perm swapped.symm) same
    have forth := twins_identities rest regular otherRegular path name
    have back := twins_identities rest otherRegular regular path.symm name.symm
    rw [← orders] at back
    exact pair_sublist_antisymm (identityOrder_nodup distinct perm.symm) forth back
  · intro apart host other path otherPath name otherName stat otherStat entries otherEntries preparation otherPreparation
      there enumerated otherThere otherEnumerated prepared otherPrepared
    rw [prepare_identity there prepared, prepare_identity otherThere otherPrepared, enumerated.identityOrder apart,
      otherEnumerated.identityOrder apart]

end Independence

def byteFile (path : String) (byte : UInt8) : HostFile := ⟨path, false, true, [byte], 5⟩

/-- Two files with names of their own, and two whose names differ in case only. -/
def twoNames : ExtractedTree := ⟨⟨0, 0⟩, [byteFile "A.BIN" 1, byteFile "B.BIN" 2], by decide, by decide⟩
def twinNames : ExtractedTree := ⟨⟨0, 0⟩, [byteFile "A.BIN" 1, byteFile "a.bin" 2], by decide, by decide⟩

/-- The tools of a workspace with a folding of case. -/
def foldingTools : WorkspaceTools := { plainWorkspaceTools with casefold := foldAscii }

theorem twoNames_independent : IdentityIndependent foldingTools twoNames := by
  have distinct : DistinctNames twoNames := by
    intro entry member other otherMember _ _
    revert entry other
    decide
  have free : CollisionFree foldingTools twoNames := by
    have orders : ∀ identities ∈ (identityOrder foldingTools twoNames.entries).permutations',
        ∀ others ∈ (identityOrder foldingTools twoNames.entries).permutations',
          foldingTools.identityDigest identities = foldingTools.identityDigest others → identities = others := by decide
    exact fun identities others perm otherPerm =>
      orders identities (List.mem_permutations'.mpr perm) others (List.mem_permutations'.mpr otherPerm)
  have apart : NoTwins foldingTools twoNames.entries := by
    intro entry member other otherMember _ _
    revert entry other
    decide
  exact (identityIndependent_iff distinct free (by decide)).mpr apart

/-- Two files whose names differ in case only give the tree one identity for each order in which they are met. -/
theorem twinNames_depend : ¬∀ (tools : WorkspaceTools) (tree : ExtractedTree), DistinctNames tree →
    (directoryEntries tools tree.entries).isOk = true → IdentityIndependent tools tree := by
  intro claimed
  have distinct : DistinctNames twinNames := by
    intro entry member other otherMember _ _
    revert entry other
    decide
  have accepted : (directoryEntries foldingTools twinNames.entries).isOk = true := by decide
  have independent := claimed foldingTools twinNames distinct accepted
  have perm : twinNames.entries.reverse.Perm twinNames.entries := List.reverse_perm _
  obtain ⟨preparation, prepared⟩ := prepare_perm (List.Perm.refl twinNames.entries) accepted
  obtain ⟨other, otherPrepared⟩ := prepare_perm perm.symm accepted
  have same := independent _ _ _ _ _ _ _ _ _ _ preparation other rfl (List.Perm.refl _) rfl (perm.map _) prepared
    otherPrepared
  rw [prepare_identity rfl prepared, prepare_identity rfl otherPrepared] at same
  exact absurd same (by decide)

end PspDisasm
