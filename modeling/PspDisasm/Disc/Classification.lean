import PspDisasm.Disc.GameScan
import PspDisasm.SourceIdentity

namespace PspDisasm
open Foundations

def foldedEboot : String := "psp_game/sysdir/eboot.bin"
def foldedBoot : String := "psp_game/sysdir/boot.bin"

/-- What the classifications rely on of `str.casefold`: the names in the code fold to lower case, and a backslash comes
from a backslash only. -/
structure FoldsCase (casefold : String → String) : Prop where
  eboot : casefold discEboot = foldedEboot
  boot : casefold discBoot = foldedBoot
  metadata : metadataNames.map casefold =
    ["psp_game/param.sfo", "umd_data.bin", "psp_game/icon0.png", "psp_game/pic0.png", "psp_game/pic1.png"]
  backslash : ∀ text, '\\' ∈ (casefold text).toList ↔ '\\' ∈ text.toList

def IsBootName (folded : String) : Prop := folded ∈ [foldedEboot, foldedBoot]

def IsMetadataName (folded : String) : Prop :=
  folded = "umd_data.bin" ∨ "/param.sfo".toList.isSuffixOf folded.toList ∨
    folded ∈ ["psp_game/icon0.png", "psp_game/pic0.png", "psp_game/pic1.png"]

def IsPrxName (folded : String) : Prop := ".prx".toList.isSuffixOf folded.toList

instance (folded : String) : Decidable (IsBootName folded) := inferInstanceAs (Decidable (_ ∈ _))
instance (folded : String) : Decidable (IsMetadataName folded) := inferInstanceAs (Decidable (_ ∨ _ ∨ _))
instance (folded : String) : Decidable (IsPrxName folded) := inferInstanceAs (Decidable (_ = true))

/-- The class of a file that is no boot file. -/
def fileClass (folded kind : String) : String :=
  if IsMetadataName folded then "metadata" else if IsPrxName folded ∨ kind ≠ "unknown" then "module" else "resource"

section Classes
variable {tools : WorkspaceTools} {folded other kind bootPath : String}

theorem fileClass_ne_boot : fileClass folded kind ≠ "boot" := by
  unfold fileClass
  split
  · decide
  · split <;> decide

theorem fileClass_eq_iff : fileClass folded kind = fileClass other kind ↔
    (IsMetadataName folded ↔ IsMetadataName other) ∧
      (kind = "unknown" → ¬IsMetadataName folded → (IsPrxName folded ↔ IsPrxName other)) := by
  by_cases metadata : IsMetadataName folded <;> by_cases otherMetadata : IsMetadataName other <;>
    by_cases prx : IsPrxName folded <;> by_cases otherPrx : IsPrxName other <;>
      by_cases unknown : kind = "unknown" <;>
        simp [fileClass, metadata, otherMetadata, prx, otherPrx, unknown]

theorem directoryClassification_eq (path : String) : directoryClassification tools path kind =
    if IsBootName (tools.casefold path) then "boot" else fileClass (tools.casefold path) kind := rfl

theorem discClassification_eq (folds : FoldsCase tools.casefold) (item : IsoFile) :
    discClassification tools item bootPath =
      if tools.casefold item.logicalPath = tools.casefold bootPath then "boot"
      else fileClass (tools.casefold item.logicalPath) (discExecutableKind item.magic) := by
  have metadata : (tools.casefold item.logicalPath ∈ metadataNames.map tools.casefold ∨
      "/param.sfo".toList.isSuffixOf (tools.casefold item.logicalPath).toList) ↔
        IsMetadataName (tools.casefold item.logicalPath) := by
    rw [folds.metadata]
    generalize tools.casefold item.logicalPath = folded
    simp only [IsMetadataName, List.mem_cons, List.not_mem_nil, or_false]
    constructor
    · rintro ((rfl | umd | icons) | sfo)
      · exact Or.inr (Or.inl (by decide))
      · exact Or.inl umd
      · exact Or.inr (Or.inr icons)
      · exact Or.inr (Or.inl sfo)
    · rintro (umd | sfo | icons)
      · exact Or.inl (Or.inr (Or.inl umd))
      · exact Or.inr sfo
      · exact Or.inl (Or.inr (Or.inr icons))
  unfold discClassification fileClass
  simp only [metadata]
  rfl

theorem executableKind_take (data : Bytes) : workspaceExecutableKind (data.take 4) = workspaceExecutableKind data := by
  unfold workspaceExecutableKind
  rcases data with _ | ⟨a, _ | ⟨b, _ | ⟨c, _ | ⟨d, rest⟩⟩⟩⟩ <;> simp [List.isPrefixOf]

end Classes

section Boot
variable {tools : WorkspaceTools} {files : List IsoFile} {bootPath : String}

theorem filesByPath_get? {key : String} {item : IsoFile} (found : (filesByPath tools files).get? key = some item) :
    item ∈ files ∧ tools.casefold item.logicalPath = key := by
  rw [filesByPath, Dict.get?_foldl_set] at found
  simp only [Dict.get?, Option.or_none] at found
  exact ⟨List.mem_reverse.mp (List.mem_of_find?_eq_some found), by simpa using List.find?_some found⟩

/-- The boot file is one of the files, under one of the two names. -/
theorem chooseBoot_some (folds : FoldsCase tools.casefold) (chosen : chooseBoot tools files = some bootPath) :
    IsBootName (tools.casefold bootPath) ∧ ∃ item ∈ files, item.logicalPath = bootPath := by
  obtain ⟨candidate, listed, picked⟩ := List.exists_of_findSome?_eq_some chosen
  obtain ⟨item, found, usable⟩ := Option.bind_eq_some_iff.mp picked
  split at usable
  · cases usable
    obtain ⟨member, folded⟩ := filesByPath_get? found
    refine ⟨?_, item, member, rfl⟩
    rw [folded]
    simp only [List.mem_cons, List.not_mem_nil, or_false] at listed
    rcases listed with rfl | rfl
    · rw [folds.eboot]
      decide
    · rw [folds.boot]
      decide
  · cases usable

theorem scanFiles_ok {sourceName imageFormat noBoot : String} {output : Option (String → Except GameFailure String)}
    {manifest : GameDiscManifest} (scanned : scanFiles tools sourceName imageFormat noBoot output files = .ok manifest) :
    chooseBoot tools files = some manifest.bootPath ∧
      manifest.files.Perm (files.map (discRecord tools manifest.bootPath)) := by
  unfold scanFiles at scanned
  split at scanned
  · cases scanned
  · rename_i bootPath chosen
    obtain ⟨⟨sfo, warnings⟩, _, scanned⟩ := bind_ok.mp scanned
    obtain ⟨modules, _, made⟩ := bind_ok.mp scanned
    cases made
    exact ⟨chosen, List.perm_insertionSort _ _⟩

end Boot

def WalkedFile.kind (file : WalkedFile) : String := workspaceExecutableKind file.2.data

section Directory
variable {tools : WorkspaceTools} {tree : ExtractedTree} {walked : List WalkedFile} {manifest : GameDiscManifest}

/-- Both walks meet the same files. -/
theorem listDirectory_files {entries : List HostFile} {files : List IsoFile} (listed : listDirectory tools entries = .ok files)
    (ran : walkSource tools entries = .ok walked) : files = walked.map fun file => listedFile file.2 := by
  obtain ⟨checked, traversed, same⟩ := bind_ok.mp listed
  cases same
  have pairs : List.Forall₂ (fun entry file => file = listedFile entry) ((walkOrder tools entries).filter (·.regular))
      (checked.filterMap id) := by
    refine mapM_filterMap_ok (fun entry outcome run => ?_) traversed
    obtain ⟨_, _, run⟩ := bind_ok.mp run
    split at run
    · rename_i regular
      obtain ⟨_, _, made⟩ := bind_ok.mp run
      cases made
      rw [if_pos regular]
      exact ⟨_, rfl, rfl⟩
    · rename_i other
      cases run
      rw [if_neg other]
  have entriesOf : walked.map (fun file => listedFile file.2) = (walked.map Prod.snd).map listedFile := by rw [List.map_map]; rfl
  rw [entriesOf, walkSource_entries ran]
  generalize (walkOrder tools entries).filter (·.regular) = kept at pairs
  generalize checked.filterMap id = files at pairs
  induction pairs with
  | nil => rfl
  | cons head _ ih => rw [List.map_cons, head, ih]

theorem scanGameDirectory_ok {sourceName : String} {output : Option (String → Except GameFailure String)} {stat : FileStat}
    {entries : List HostFile} (scanned : scanGameDirectory tools sourceName output (.directory stat entries) = .ok manifest)
    (ran : walkSource tools entries = .ok walked) :
    chooseBoot tools (walked.map fun file => listedFile file.2) = some manifest.bootPath ∧
      manifest.files.Perm (walked.map fun file => discRecord tools manifest.bootPath (listedFile file.2)) := by
  obtain ⟨files, listed, scanned⟩ := bind_ok.mp scanned
  obtain ⟨_, _, scanned⟩ := bind_ok.mp scanned
  obtain ⟨chosen, perm⟩ := scanFiles_ok scanned
  rw [listDirectory_files listed ran] at chosen perm
  rw [List.map_map] at perm
  exact ⟨chosen, perm⟩

/-- The scan says of every file what the preparation says. -/
def ScannedAlike (tools : WorkspaceTools) (walked : List WalkedFile) (manifest : GameDiscManifest) : Prop :=
  ∀ file ∈ walked, ∀ record ∈ manifest.files, record.path = file.2.path →
    record.classification = (directoryRecord tools file).classification ∧
      record.executableKind = (directoryRecord tools file).executableKind

/-- Only one of the two boot files is there, under whatever spelling. -/
def OneBootName (tools : WorkspaceTools) (walked : List WalkedFile) : Prop :=
  ¬((∃ file ∈ walked, tools.casefold file.2.path = foldedEboot) ∧ ∃ file ∈ walked, tools.casefold file.2.path = foldedBoot)

/-- A name with a backslash gets no new meaning when the backslash is read as a slash. -/
def SteadyNames (tools : WorkspaceTools) (walked : List WalkedFile) : Prop :=
  ∀ file ∈ walked, '\\' ∈ file.2.path.toList →
    ¬IsBootName (tools.casefold file.1) ∧
      (IsMetadataName (tools.casefold file.1) ↔ IsMetadataName (tools.casefold file.2.path)) ∧
      (file.kind = "unknown" → ¬IsMetadataName (tools.casefold file.1) →
        (IsPrxName (tools.casefold file.1) ↔ IsPrxName (tools.casefold file.2.path)))

theorem discExecutableKind_listed (file : WalkedFile) : discExecutableKind (listedFile file.2).magic = file.kind :=
  executableKind_take file.2.data

/-- The records of a scan are told apart by their paths. -/
theorem scannedAlike_iff (distinct : (walked.map fun file => file.2.path).Nodup)
    (perm : manifest.files.Perm (walked.map fun file => discRecord tools manifest.bootPath (listedFile file.2))) :
    ScannedAlike tools walked manifest ↔ ∀ file ∈ walked,
      discClassification tools (listedFile file.2) manifest.bootPath = directoryClassification tools file.1 file.kind := by
  constructor
  · intro alike file member
    have listed := perm.mem_iff.mpr (List.mem_map_of_mem member)
    exact (alike file member _ listed rfl).1
  · intro classes file member record listed named
    obtain ⟨other, otherMember, rfl⟩ := List.mem_map.mp (perm.mem_iff.mp listed)
    have same := List.inj_on_of_nodup_map distinct otherMember member named
    subst same
    exact ⟨classes other member, discExecutableKind_listed other⟩

theorem bootName_plain (folds : FoldsCase tools.casefold) {path : String} (named : IsBootName (tools.casefold path)) :
    '\\' ∉ path.toList := by
  rw [← folds.backslash]
  simp only [IsBootName, List.mem_cons, List.not_mem_nil, or_false] at named
  rcases named with same | same <;> rw [same] <;> decide

/-- All boot files have one folded name. -/
theorem OneBootName.folded (one : OneBootName tools walked) {file other : WalkedFile} (member : file ∈ walked)
    (otherMember : other ∈ walked) (named : IsBootName (tools.casefold file.2.path))
    (otherNamed : IsBootName (tools.casefold other.2.path)) : tools.casefold file.2.path = tools.casefold other.2.path := by
  simp only [IsBootName, List.mem_cons, List.not_mem_nil, or_false] at named otherNamed
  rcases named with eboot | boot <;> rcases otherNamed with otherEboot | otherBoot
  · exact eboot.trans otherEboot.symm
  · exact absurd ⟨⟨file, member, eboot⟩, other, otherMember, otherBoot⟩ one
  · exact absurd ⟨⟨other, otherMember, otherEboot⟩, file, member, boot⟩ one
  · exact boot.trans otherBoot.symm

theorem walked_plain (ran : walkSource tools tree.entries = .ok walked) {file : WalkedFile} (member : file ∈ walked)
    (plain : '\\' ∉ file.2.path.toList) : file.1 = file.2.path := by
  obtain ⟨listed, named⟩ := walkSource_mem ran member
  rw [safeLogicalPath_plain (tree.relative _ listed) plain] at named
  exact (Except.ok.inj named).symm

/-- The two classifications agree on all files exactly where only one boot file is there and names with a backslash
keep their meaning. -/
theorem classes_iff (folds : FoldsCase tools.casefold) (ran : walkSource tools tree.entries = .ok walked) {bootPath : String}
    (chosen : chooseBoot tools (walked.map fun file => listedFile file.2) = some bootPath) :
    (∀ file ∈ walked, discClassification tools (listedFile file.2) bootPath =
      directoryClassification tools file.1 file.kind) ↔ OneBootName tools walked ∧ SteadyNames tools walked := by
  obtain ⟨bootNamed, item, listed, bootFile⟩ := chooseBoot_some folds chosen
  obtain ⟨boot, bootMember, rfl⟩ := List.mem_map.mp listed
  have bootFile : boot.2.path = bootPath := bootFile
  have scan (file : WalkedFile) : discClassification tools (listedFile file.2) bootPath =
      if tools.casefold file.2.path = tools.casefold bootPath then "boot"
      else fileClass (tools.casefold file.2.path) file.kind := by
    rw [discClassification_eq folds, discExecutableKind_listed]
    rfl
  constructor
  · intro agree
    have onlyBoot : ∀ file ∈ walked, IsBootName (tools.casefold file.2.path) →
        tools.casefold file.2.path = tools.casefold bootPath := by
      intro file member named
      have said := agree file member
      rw [scan, directoryClassification_eq, walked_plain ran member (bootName_plain folds named), if_pos named] at said
      by_contra other
      rw [if_neg other] at said
      exact fileClass_ne_boot said
    constructor
    · rintro ⟨⟨eboot, ebootMember, ebootNamed⟩, ⟨other, otherMember, otherNamed⟩⟩
      have first := onlyBoot eboot ebootMember (by rw [ebootNamed]; decide)
      have second := onlyBoot other otherMember (by rw [otherNamed]; decide)
      have same := first.trans second.symm
      rw [ebootNamed, otherNamed] at same
      exact absurd same (by decide)
    · intro file member backslash
      have notBoot : tools.casefold file.2.path ≠ tools.casefold bootPath := by
        intro same
        rw [← same] at bootNamed
        exact bootName_plain folds bootNamed backslash
      have said := agree file member
      rw [scan, if_neg notBoot, directoryClassification_eq] at said
      by_cases named : IsBootName (tools.casefold file.1)
      · rw [if_pos named] at said
        exact absurd said fileClass_ne_boot
      · rw [if_neg named] at said
        exact ⟨named, fileClass_eq_iff.mp said.symm⟩
  · rintro ⟨one, steady⟩ file member
    rw [scan, directoryClassification_eq]
    by_cases backslash : '\\' ∈ file.2.path.toList
    · obtain ⟨notBoot, meaning⟩ := steady file member backslash
      have other : tools.casefold file.2.path ≠ tools.casefold bootPath := by
        intro same
        rw [← same] at bootNamed
        exact bootName_plain folds bootNamed backslash
      rw [if_neg other, if_neg notBoot]
      exact (fileClass_eq_iff.mpr meaning).symm
    · rw [walked_plain ran member backslash]
      by_cases named : IsBootName (tools.casefold file.2.path)
      · rw [← bootFile] at bootNamed ⊢
        rw [if_pos (one.folded member bootMember named bootNamed), if_pos named]
      · have other : tools.casefold file.2.path ≠ tools.casefold bootPath := by
          intro same
          rw [same] at named
          exact named bootNamed
        rw [if_neg other, if_neg named]

end Directory

section Disc
variable {tools : WorkspaceTools} {isDigit : String → Bool} {tree : ExtractedTree} {walked : List WalkedFile}
  {members : List DiscMember} {described : List (DiscMember × WorkspaceFileRecord)} {sourceName imageFormat : String}

/-- An image holds the files of a tree, each under its path there. -/
def SameFiles (isDigit : String → Bool) (members : List DiscMember) (walked : List WalkedFile) : Prop :=
  (members.map fun member => (logicalPath isDigit member.physicalPath, member.content)).Perm
    (walked.map fun file => (file.2.path, file.2.data))

/-- The manifest of the image says of every file what the manifest of the tree says. -/
def DiscAlike (tools : WorkspaceTools) (isDigit : String → Bool) (walked : List WalkedFile)
    (described : List (DiscMember × WorkspaceFileRecord)) : Prop :=
  ∀ entry ∈ described, ∀ file ∈ walked, logicalPath isDigit entry.1.physicalPath = file.2.path →
    entry.2.classification = (directoryRecord tools file).classification ∧
      entry.2.executableKind = (directoryRecord tools file).executableKind

/-- Files whose paths differ in case only start alike. -/
def SteadyKinds (tools : WorkspaceTools) (walked : List WalkedFile) : Prop :=
  ∀ file ∈ walked, ∀ other ∈ walked, tools.casefold file.1 = tools.casefold other.2.path → file.kind = other.kind

theorem metadataByPath_get? {manifest : GameDiscManifest} {key : String} {record : DiscFileRecord}
    (found : (metadataByPath tools manifest).get? key = some record) :
    record ∈ manifest.files ∧ tools.casefold record.path = key := by
  rw [metadataByPath, Dict.get?_foldl_set] at found
  simp only [Dict.get?, Option.or_none] at found
  exact ⟨List.mem_reverse.mp (List.mem_of_find?_eq_some found), by simpa using List.find?_some found⟩

/-- What is noted of a member of an image is found under its folded logical path. -/
structure Described (tools : WorkspaceTools) (isDigit : String → Bool) (manifest : GameDiscManifest) (member : DiscMember)
    (record : WorkspaceFileRecord) : Prop where
  found : ∃ logical source, isoLogicalPath isDigit member.physicalPath = .ok logical ∧
    (metadataByPath tools manifest).get? (tools.casefold logical) = some source ∧
    record.classification = source.classification ∧ record.executableKind = source.executableKind

theorem discDescriptions_ok (ran : discDescriptions tools isDigit sourceName imageFormat members = .ok described) :
    ∃ manifest, scanGameDisc tools isDigit sourceName imageFormat none members = .ok manifest ∧
      (∀ entry ∈ described, entry.1 ∈ members ∧ Described tools isDigit manifest entry.1 entry.2) ∧
      ∀ member ∈ members, ∃ record, (member, record) ∈ described := by
  obtain ⟨manifest, scanned, ran⟩ := bind_ok.mp ran
  obtain ⟨physical, named, ran⟩ := bind_ok.mp ran
  have names := mapM_ok.mp named
  have entries := mapM_ok.mp ran
  have nameOf : ∀ item ∈ physical, isoLogicalPath isDigit item.2.physicalPath = .ok item.1 ∧ item.2 ∈ members := by
    intro item listed
    obtain ⟨member, memberListed, run⟩ := forall₂_mem names listed
    obtain ⟨logical, same, made⟩ := bind_ok.mp run
    cases made
    exact ⟨same, memberListed⟩
  refine ⟨manifest, scanned, ?_, ?_⟩
  · intro entry listed
    obtain ⟨item, itemListed, run⟩ := forall₂_mem entries listed
    obtain ⟨same, memberListed⟩ := nameOf item ((List.mem_insertionSort _).mp itemListed)
    dsimp only at run
    split at run
    · cases run
    · rename_i source found
      cases run
      exact ⟨memberListed, ⟨item.1, source, same, found, rfl, rfl⟩⟩
  · intro member listed
    obtain ⟨item, itemListed, run⟩ := forall₂_mem names.flip listed
    obtain ⟨logical, same, made⟩ := bind_ok.mp run
    cases made
    obtain ⟨entry, entryListed, run⟩ := forall₂_mem entries.flip ((List.mem_insertionSort _).mpr itemListed)
    dsimp only at run
    split at run
    · cases run
    · cases run
      exact ⟨_, entryListed⟩

theorem scanGameDisc_ok {manifest : GameDiscManifest}
    (scanned : scanGameDisc tools isDigit sourceName imageFormat none members = .ok manifest) :
    chooseBoot tools (walkFiles tools isDigit members) = some manifest.bootPath ∧
      manifest.files.Perm ((walkFiles tools isDigit members).map (discRecord tools manifest.bootPath)) :=
  scanFiles_ok (mapError_ok.mp scanned)

theorem SameFiles.file (same : SameFiles isDigit members walked) {member : DiscMember} (listed : member ∈ members) :
    ∃ file ∈ walked, logicalPath isDigit member.physicalPath = file.2.path ∧ member.content = file.2.data := by
  obtain ⟨file, fileListed, equal⟩ := List.mem_map.mp (same.mem_iff.mp (List.mem_map_of_mem listed))
  exact ⟨file, fileListed, (Prod.mk.inj equal).1.symm, (Prod.mk.inj equal).2.symm⟩

theorem SameFiles.member (same : SameFiles isDigit members walked) {file : WalkedFile} (listed : file ∈ walked) :
    ∃ member ∈ members, logicalPath isDigit member.physicalPath = file.2.path ∧ member.content = file.2.data := by
  obtain ⟨member, memberListed, equal⟩ := List.mem_map.mp (same.mem_iff.mpr (List.mem_map_of_mem listed))
  exact ⟨member, memberListed, (Prod.mk.inj equal).1, (Prod.mk.inj equal).2⟩

/-- An image of the files of a tree lists what the tree holds. -/
theorem walkFiles_file (same : SameFiles isDigit members walked) {item : IsoFile}
    (listed : item ∈ walkFiles tools isDigit members) :
    ∃ file ∈ walked, item.logicalPath = file.2.path ∧ discExecutableKind item.magic = file.kind := by
  obtain ⟨member, memberListed, rfl⟩ := List.mem_map.mp ((List.mem_insertionSort _).mp listed)
  obtain ⟨file, fileListed, path, content⟩ := same.file memberListed
  refine ⟨file, fileListed, path, ?_⟩
  rw [WalkedFile.kind, ← content]
  exact executableKind_take member.content

/-- With one boot name, the manifest of the image agrees with that of the tree exactly where files whose paths differ in
case only start alike. -/
theorem discAlike_iff (folds : FoldsCase tools.casefold) (ran : walkSource tools tree.entries = .ok walked)
    (same : SameFiles isDigit members walked) (one : OneBootName tools walked)
    (prepared : discDescriptions tools isDigit sourceName imageFormat members = .ok described) :
    DiscAlike tools isDigit walked described ↔ SteadyKinds tools walked := by
  obtain ⟨manifest, scanned, sources, complete⟩ := discDescriptions_ok prepared
  obtain ⟨chosen, perm⟩ := scanGameDisc_ok scanned
  obtain ⟨bootNamed, item, itemListed, bootFile⟩ := chooseBoot_some folds chosen
  obtain ⟨boot, bootMember, bootPath, _⟩ := walkFiles_file same itemListed
  rw [← bootFile, bootPath] at bootNamed
  -- The record that is noted for a file, by its logical path.
  have source : ∀ entry ∈ described, ∀ file ∈ walked, logicalPath isDigit entry.1.physicalPath = file.2.path →
      ∃ record, (metadataByPath tools manifest).get? (tools.casefold file.1) = some record ∧
        entry.2.classification = record.classification ∧ entry.2.executableKind = record.executableKind := by
    intro entry listed file member path
    obtain ⟨logical, record, named, found, noted⟩ := (sources entry listed).2.found
    rw [isoLogicalPath, path, (walkSource_mem ran member).2] at named
    cases named
    exact ⟨record, found, noted⟩
  constructor
  · intro alike file member other otherMember folded
    have plain : '\\' ∉ other.2.path.toList := by
      rw [← folds.backslash, ← folded, folds.backslash]
      exact safeLogicalPath_noBackslash (walkSource_mem ran member).2
    obtain ⟨first, firstListed, firstPath, _⟩ := same.member member
    obtain ⟨second, secondListed, secondPath, _⟩ := same.member otherMember
    obtain ⟨firstRecord, firstEntry⟩ := complete first firstListed
    obtain ⟨secondRecord, secondEntry⟩ := complete second secondListed
    obtain ⟨record, found, _, kind⟩ := source _ firstEntry file member firstPath
    obtain ⟨again, foundAgain, _, otherKind⟩ := source _ secondEntry other otherMember secondPath
    rw [walked_plain ran otherMember plain, ← folded, found] at foundAgain
    cases foundAgain
    calc file.kind = firstRecord.executableKind := (alike _ firstEntry file member firstPath).2.symm
      _ = record.executableKind := kind
      _ = secondRecord.executableKind := otherKind.symm
      _ = other.kind := (alike _ secondEntry other otherMember secondPath).2
  · intro steady entry listed file member path
    obtain ⟨record, found, classification, kind⟩ := source entry listed file member path
    obtain ⟨recorded, folded⟩ := metadataByPath_get? found
    obtain ⟨item, itemListed, rfl⟩ := List.mem_map.mp (perm.mem_iff.mp recorded)
    obtain ⟨other, otherMember, otherPath, otherKind⟩ := walkFiles_file same itemListed
    have otherFolded : tools.casefold file.1 = tools.casefold other.2.path := by rw [← otherPath]; exact folded.symm
    have sameKind := steady file member other otherMember otherFolded
    refine ⟨?_, (kind.trans otherKind).trans sameKind.symm⟩
    have noted : entry.2.classification = if tools.casefold other.2.path = tools.casefold boot.2.path then "boot"
        else fileClass (tools.casefold other.2.path) other.kind := by
      rw [classification, discRecord, discClassification_eq folds, otherKind, otherPath, ← bootFile, bootPath]
    change _ = directoryClassification tools file.1 file.kind
    rw [noted, directoryClassification_eq, otherFolded, sameKind]
    by_cases named : IsBootName (tools.casefold other.2.path)
    · rw [if_pos named, if_pos (one.folded otherMember bootMember named bootNamed)]
    · have apart : tools.casefold other.2.path ≠ tools.casefold boot.2.path := by
        intro equal
        rw [equal] at named
        exact named bootNamed
      rw [if_neg named, if_neg apart]

end Disc

section Trees
variable {tools : WorkspaceTools} {tree : ExtractedTree} {records : List WorkspaceFileRecord} {snapshot : List SnapshotEntry}
  {sourceName : String} {output : Option (String → Except GameFailure String)} {manifest : GameDiscManifest}

/-- For an extracted tree that both the preparation and the scan accept, they say the same of every file exactly where
only one of the two boot names is taken and names with a backslash keep their meaning. The manifest of an image of the
same files then agrees too exactly where files whose paths differ in case only start alike. -/
theorem classifiedAlike_iff (folds : FoldsCase tools.casefold)
    (prepared : directoryEntries tools tree.entries = .ok (records, snapshot))
    (scanned : scanGameDirectory tools sourceName output (.directory tree.stat tree.entries) = .ok manifest) :
    ∃ walked, walkSource tools tree.entries = .ok walked ∧ records.Perm (walked.map (directoryRecord tools)) ∧
      (ScannedAlike tools walked manifest ↔ OneBootName tools walked ∧ SteadyNames tools walked) ∧
      ∀ isDigit discName imageFormat members described, SameFiles isDigit members walked →
        discDescriptions tools isDigit discName imageFormat members = .ok described →
        (ScannedAlike tools walked manifest ∧ DiscAlike tools isDigit walked described ↔
          (OneBootName tools walked ∧ SteadyNames tools walked) ∧ SteadyKinds tools walked) := by
  obtain ⟨walked, ran, rfl⟩ := directoryEntries_ok prepared
  obtain ⟨chosen, perm⟩ := scanGameDirectory_ok scanned ran
  have alike : ScannedAlike tools walked manifest ↔ OneBootName tools walked ∧ SteadyNames tools walked :=
    (scannedAlike_iff (walkSource_distinct ran) perm).trans (classes_iff folds ran chosen)
  refine ⟨walked, ran, List.perm_insertionSort _ _, alike, ?_⟩
  intro isDigit discName imageFormat members described same imaged
  rw [alike]
  exact and_congr_right fun steady => discAlike_iff folds ran same steady.1 imaged

end Trees

theorem toLower_backslash {c : Char} : c.toLower = '\\' ↔ c = '\\' := by
  unfold Char.toLower
  split
  · rename_i upper
    constructor
    · intro same
      have value : (c.val + 32).toNat = 92 := congrArg (fun d : Char => d.val.toNat) same
      have low : 65 ≤ c.val.toNat := UInt32.le_iff_toNat_le.mp upper.1
      have high : c.val.toNat ≤ 90 := UInt32.le_iff_toNat_le.mp upper.2
      have small : (32 : UInt32).toNat = 32 := rfl
      rw [UInt32.toNat_add] at value
      omega
    · rintro rfl
      exact absurd upper (by decide)
  · rfl

theorem foldAscii_foldsCase : FoldsCase foldAscii where
  eboot := by decide +kernel
  boot := by decide +kernel
  metadata := by decide +kernel
  backslash text := by
    rw [foldAscii, String.toList_ofList, List.mem_map]
    constructor
    · rintro ⟨c, member, lower⟩
      rwa [← toLower_backslash.mp lower]
    · intro member
      exact ⟨'\\', member, by decide⟩

def elfFile (path : String) : HostFile := ⟨path, false, true, elfMagic, 5⟩

/-- A game of one file, and one with both boot files. -/
def loneEboot : ExtractedTree := ⟨⟨0, 0⟩, [elfFile discEboot], by decide +kernel, by decide⟩
def twoBoots : ExtractedTree := ⟨⟨0, 0⟩, [elfFile discEboot, elfFile discBoot], by decide +kernel, by decide +kernel⟩

def bootScan (files : List DiscFileRecord) : GameDiscManifest where
  sourceName := "game"
  imageFormat := "directory"
  title := none
  discId := none
  discVersion := none
  pspSystemVersion := none
  bootPath := discEboot
  files := files
  modules := files.map fun record => ⟨record.path, record.executableKind, none, record.classification = "boot"⟩
  warnings := ["PSP_GAME/PARAM.SFO is missing"]

theorem loneEboot_alike : ∃ walked manifest described,
    scanGameDirectory foldingTools "game" none (.directory loneEboot.stat loneEboot.entries) = .ok manifest ∧
      discDescriptions foldingTools (· = "1") "game.iso" "iso" [⟨"/PSP_GAME/SYSDIR/EBOOT.BIN;1", 4, elfMagic⟩] = .ok described ∧
      ScannedAlike foldingTools walked manifest ∧ DiscAlike foldingTools (· = "1") walked described := by
  have prepares : (directoryEntries foldingTools loneEboot.entries).isOk = true := by decide +kernel
  obtain ⟨⟨records, snapshot⟩, prepared⟩ := exists_ok prepares
  have scanned : scanGameDirectory foldingTools "game" none (.directory loneEboot.stat loneEboot.entries) =
      .ok (bootScan [⟨discEboot, 4, "boot", "elf"⟩]) := by decide +kernel
  have images : (discDescriptions foldingTools (· = "1") "game.iso" "iso"
      [⟨"/PSP_GAME/SYSDIR/EBOOT.BIN;1", 4, elfMagic⟩]).isOk = true := by decide +kernel
  obtain ⟨described, imaged⟩ := exists_ok images
  have walk : walkSource foldingTools loneEboot.entries = .ok [(discEboot, elfFile discEboot)] := by decide +kernel
  obtain ⟨walked, ran, _, _, discs⟩ := classifiedAlike_iff foldAscii_foldsCase prepared scanned
  rw [walk] at ran
  cases ran
  have same : SameFiles (· = "1") [⟨"/PSP_GAME/SYSDIR/EBOOT.BIN;1", 4, elfMagic⟩] [(discEboot, elfFile discEboot)] :=
    List.Perm.of_eq (by decide +kernel)
  refine ⟨_, _, _, scanned, imaged, (discs _ _ _ _ _ same imaged).mpr ⟨⟨?_, ?_⟩, ?_⟩⟩
  · rintro ⟨_, file, member, named⟩
    cases List.mem_singleton.mp member
    exact absurd named (by decide +kernel)
  · intro file member backslash
    cases List.mem_singleton.mp member
    exact absurd backslash (by decide +kernel)
  · intro file member other otherMember _
    cases List.mem_singleton.mp member
    cases List.mem_singleton.mp otherMember
    rfl

/-- With both boot files, the preparation calls the second one a boot file too, and the scan a module. -/
theorem twoBoots_differ : ¬∀ (tools : WorkspaceTools) (tree : ExtractedTree) (records : List WorkspaceFileRecord)
    (snapshot : List SnapshotEntry) (sourceName : String) (output : Option (String → Except GameFailure String))
    (manifest : GameDiscManifest) (walked : List WalkedFile), FoldsCase tools.casefold →
    directoryEntries tools tree.entries = .ok (records, snapshot) →
    scanGameDirectory tools sourceName output (.directory tree.stat tree.entries) = .ok manifest →
    walkSource tools tree.entries = .ok walked → ScannedAlike tools walked manifest := by
  intro claimed
  have prepares : (directoryEntries foldingTools twoBoots.entries).isOk = true := by decide +kernel
  obtain ⟨⟨records, snapshot⟩, prepared⟩ := exists_ok prepares
  have scanned : scanGameDirectory foldingTools "game" none (.directory twoBoots.stat twoBoots.entries) =
      .ok (bootScan [⟨discBoot, 4, "module", "elf"⟩, ⟨discEboot, 4, "boot", "elf"⟩]) := by decide +kernel
  have walk : walkSource foldingTools twoBoots.entries =
      .ok [(discBoot, elfFile discBoot), (discEboot, elfFile discEboot)] := by decide +kernel
  have alike := claimed foldingTools twoBoots records snapshot "game" none _ _ foldAscii_foldsCase prepared scanned walk
  have said := (alike _ List.mem_cons_self _ List.mem_cons_self rfl).1
  exact absurd said (by decide +kernel)

end PspDisasm
