import PspDisasm.Workspace

namespace PspDisasm
open Foundations

section Loading
variable {tools : WorkspaceTools} {host : String → Option HostSource} {disk : WorkspaceDisk}

theorem loadJson_raises (disk : WorkspaceDisk) (path : WorkspacePath) :
    RaisesOnly WorkspaceFailure.IsWorkspaceError (loadJson disk path) := by
  unfold loadJson
  split
  · exact raisesOnly_error.mpr ⟨_, rfl⟩
  · exact raisesOnly_error.mpr ⟨_, rfl⟩
  · exact raisesOnly_value _

theorem loadGameWorkspace_raises : RaisesOnly WorkspaceFailure.IsWorkspaceError (loadGameWorkspace tools disk) := by
  refine raisesOnly_bind (loadJson_raises disk _) fun portable _ => ?_
  refine raisesOnly_bind (loadJson_raises disk _) fun files _ => ?_
  split
  · refine raisesOnly_bind (raisesOnly_raiseIf ⟨_, rfl⟩) fun _ _ => ?_
    refine raisesOnly_bind (raisesOnly_raiseIf ⟨_, rfl⟩) fun _ _ => ?_
    exact raisesOnly_value _
  · exact raisesOnly_error.mpr ⟨_, rfl⟩

theorem loadLocalSource_raises (manifest : GameWorkspaceManifest) :
    RaisesOnly WorkspaceFailure.IsWorkspaceError (loadLocalSource host disk manifest) := by
  refine raisesOnly_bind (loadJson_raises disk _) fun contents _ => ?_
  split
  · refine raisesOnly_bind (raisesOnly_raiseIf ⟨_, rfl⟩) fun _ _ => ?_
    refine raisesOnly_bind (raisesOnly_raiseIf ⟨_, rfl⟩) fun _ _ => ?_
    refine raisesOnly_bind (raisesOnly_raiseIf ⟨_, rfl⟩) fun _ _ => ?_
    split
    · exact raisesOnly_error.mpr ⟨_, rfl⟩
    · exact raisesOnly_value _
  · exact raisesOnly_error.mpr ⟨_, rfl⟩

theorem safeLogicalPath_raises (value : String) : RaisesOnly WorkspaceFailure.IsWorkspaceError (safeLogicalPath value) := by
  refine raisesOnly_bind (raisesOnly_raiseIf ⟨_, rfl⟩) fun _ _ => ?_
  refine raisesOnly_bind (raisesOnly_raiseIf ⟨_, rfl⟩) fun _ _ => ?_
  exact raisesOnly_value _

theorem walkSource_raises (entries : List HostFile) :
    RaisesOnly WorkspaceFailure.IsWorkspaceError (walkSource tools entries) := by
  refine raisesOnly_bind (raisesOnly_mapM fun entry _ => ?_) fun _ _ => raisesOnly_value _
  refine raisesOnly_bind (raisesOnly_raiseIf ⟨_, rfl⟩) fun _ _ => ?_
  split
  · exact raisesOnly_bind (safeLogicalPath_raises _) fun _ _ => raisesOnly_value _
  · exact raisesOnly_value _

theorem validateSnapshot_raises (source : HostSource) (sourceKind : String) (snapshot : Snapshot) :
    RaisesOnly WorkspaceFailure.IsWorkspaceError (validateSnapshot tools source sourceKind snapshot) := by
  unfold validateSnapshot
  dsimp only
  split
  · split
    · exact raisesOnly_error.mpr ⟨_, rfl⟩
    · exact raisesOnly_bind (walkSource_raises _) fun _ _ => raisesOnly_raiseIf ⟨_, rfl⟩
  · split
    · exact raisesOnly_error.mpr ⟨_, rfl⟩
    · exact raisesOnly_raiseIf ⟨_, rfl⟩

/-- Opening a workspace raises nothing but `WorkspaceError`. -/
theorem openWorkspace_raises : RaisesOnly WorkspaceFailure.IsWorkspaceError (openWorkspace tools host disk) := by
  refine raisesOnly_bind loadGameWorkspace_raises fun manifest _ => ?_
  refine raisesOnly_bind (loadLocalSource_raises manifest) fun found _ => ?_
  refine raisesOnly_bind (validateSnapshot_raises _ _ _) fun _ _ => ?_
  exact raisesOnly_value _

/-- What a successful opening has read and checked. -/
theorem openWorkspace_ok {portable : PortableWorkspace} {records : List WorkspaceFileRecord} {stored : LocalSource}
    (header : disk workspaceFile = some (.portable portable)) (files : disk filesManifest = some (.files records))
    (locator : disk localFile = some (.localSource stored)) {manifest : GameWorkspaceManifest} {source : HostSource} :
    openWorkspace tools host disk = .ok (manifest, source) ↔
      portable.schemaVersion = workspaceSchemaVersion ∧ sourceIdentity tools records = portable.sourceIdentity ∧
      stored.schemaVersion = workspaceSchemaVersion ∧ stored.sourceKind = portable.sourceKind ∧ stored.sourcePath ≠ "" ∧
      host stored.sourcePath = some source ∧ validateSnapshot tools source portable.sourceKind stored.snapshot = .ok () ∧
      manifest = ⟨workspaceSchemaVersion, portable.toolkitVersion, portable.sourceKind, portable.sourceName,
        portable.sourceIdentity, records⟩ := by
  have readHeader : loadJson disk workspaceFile = .ok (.portable portable) := by rw [loadJson, header]
  have readFiles : loadJson disk filesManifest = .ok (.files records) := by rw [loadJson, files]
  have readLocator : loadJson disk localFile = .ok (.localSource stored) := by rw [loadJson, locator]
  simp only [openWorkspace, loadGameWorkspace, loadLocalSource, readHeader, readFiles, readLocator, ok_bind, bind_ok,
    raiseIf_ok, not_not]
  constructor
  · rintro ⟨loaded, ⟨_, schema, _, identity, made⟩, found, ⟨_, localSchema, _, kind, _, path, rest⟩, _, valid, same⟩
    cases made
    cases reached : host stored.sourcePath with
    | none =>
      rw [reached] at rest
      cases rest
    | some source =>
      rw [reached] at rest
      cases rest
      cases same
      exact ⟨schema, identity, localSchema, kind, path, rfl, valid, rfl⟩
  · rintro ⟨schema, identity, localSchema, kind, path, reached, valid, rfl⟩
    refine ⟨_, ⟨(), schema, (), identity, rfl⟩, (source, stored.sourcePath, stored.snapshot),
      ⟨(), localSchema, (), kind, (), path, ?_⟩, (), valid, rfl⟩
    rw [reached]
    rfl

end Loading

/-- A workspace as a complete preparation left it. Analyses may have updated the analysis states since. -/
structure PreparedFrom (disk : WorkspaceDisk) (preparation : Preparation) : Prop where
  header : disk workspaceFile = some (.portable (portableWorkspace preparation.manifest))
  files : ∃ records, disk filesManifest = some (.files records) ∧
    records.map (·.identity) = preparation.manifest.files.map (·.identity)
  locator : disk localFile = some (.localSource (localSource preparation))

/-- Opening the workspace fails, or leads to a source whose file identities are those of the manifest. -/
def Paired (tools : WorkspaceTools) (host : String → Option HostSource) (disk : WorkspaceDisk) : Prop :=
  match openWorkspace tools host disk with
  | .error failure => failure.IsWorkspaceError
  | .ok (manifest, source) => ∃ kind records snapshot, scanSource tools source = .ok (kind, records, snapshot) ∧
      records.map (·.identity) = manifest.files.map (·.identity)

/-- A source that passes the check against the snapshot of a preparation is the source that was prepared:
the host changes a size or a modification time with every change of a source. -/
def SnapshotDetects (tools : WorkspaceTools) (before later : String → Option HostSource) (preparation : Preparation) : Prop :=
  ∀ source, later preparation.sourcePath = some source →
    validateSnapshot tools source preparation.manifest.sourceKind preparation.snapshot = .ok () →
    before preparation.sourcePath = some source

/-- The source of a preparation is still where it was, and unchanged. -/
def StillThere (tools : WorkspaceTools) (later : String → Option HostSource) (preparation : Preparation) : Prop :=
  preparation.sourcePath ≠ "" ∧ ∃ source, later preparation.sourcePath = some source ∧
    validateSnapshot tools source preparation.manifest.sourceKind preparation.snapshot = .ok ()

/-- The portable files are those of the new source, the locator is that of the old one. -/
def HalfWritten (done : List (DiskOp WorkspacePath Contents)) : Prop :=
  .replace (tempName filesManifest) filesManifest ∈ done ∧ .replace (tempName localFile) localFile ∉ done

section Preparing
variable {tools : WorkspaceTools} {before later : String → Option HostSource} {disk : WorkspaceDisk}
  {path name : String} {preparation : Preparation}

theorem prepare_ok (prepared : prepareGameWorkspace tools before path name = .ok preparation) :
    preparation.manifest.schemaVersion = workspaceSchemaVersion ∧
      preparation.manifest.sourceIdentity = sourceIdentity tools preparation.manifest.files ∧
      preparation.sourcePath = path ∧ ∃ source, before path = some source ∧
        scanSource tools source = .ok (preparation.manifest.sourceKind, preparation.manifest.files, preparation.snapshot) := by
  unfold prepareGameWorkspace at prepared
  split at prepared
  · cases prepared
  · rename_i source found
    obtain ⟨⟨kind, records, snapshot⟩, scanned, made⟩ := bind_ok.mp prepared
    cases made
    exact ⟨rfl, rfl, rfl, source, found, scanned⟩

/-- A source that passes the snapshot check of its preparation has the recorded files. -/
theorem scanned_of_valid (prepared : prepareGameWorkspace tools before path name = .ok preparation)
    (detects : SnapshotDetects tools before later preparation) {source : HostSource}
    (found : later preparation.sourcePath = some source)
    (valid : validateSnapshot tools source preparation.manifest.sourceKind preparation.snapshot = .ok ()) :
    scanSource tools source = .ok (preparation.manifest.sourceKind, preparation.manifest.files, preparation.snapshot) := by
  obtain ⟨_, _, samePath, original, there, scanned⟩ := prepare_ok prepared
  have same := detects source found valid
  rw [samePath, there] at same
  cases same
  exact scanned

theorem paired_iff : Paired tools later disk ↔ ∀ manifest source, openWorkspace tools later disk = .ok (manifest, source) →
    ∃ kind records snapshot, scanSource tools source = .ok (kind, records, snapshot) ∧
      records.map (·.identity) = manifest.files.map (·.identity) := by
  unfold Paired
  cases opened : openWorkspace tools later disk with
  | error failure =>
    refine iff_of_true (openWorkspace_raises failure opened) ?_
    intro manifest source failed
    cases failed
  | ok result =>
    obtain ⟨manifest, source⟩ := result
    constructor
    · intro paired manifest source same
      cases same
      exact paired
    · intro paired
      exact paired manifest source rfl

/-- A workspace whose files manifest and locator come from one preparation leads to the source of its files. -/
theorem paired_of_locator (prepared : prepareGameWorkspace tools before path name = .ok preparation)
    (detects : SnapshotDetects tools before later preparation) {portable : PortableWorkspace}
    {records : List WorkspaceFileRecord} (header : disk workspaceFile = some (.portable portable))
    (kind : portable.sourceKind = preparation.manifest.sourceKind) (files : disk filesManifest = some (.files records))
    (same : records.map (·.identity) = preparation.manifest.files.map (·.identity))
    (locator : disk localFile = some (.localSource (localSource preparation))) : Paired tools later disk := by
  refine paired_iff.mpr fun manifest source opened => ?_
  obtain ⟨_, _, _, _, _, found, valid, rfl⟩ := (openWorkspace_ok header files locator).mp opened
  rw [kind] at valid
  exact ⟨_, _, _, scanned_of_valid prepared detects found valid, same.symm⟩

theorem atomicWriteText_elsewhere {path other : WorkspacePath} {contents : Contents}
    (apart : other ≠ path) (notTemp : other ≠ tempName path) :
    runOps (atomicWriteText path contents) disk other = disk other :=
  runOps_untouched fun _ member => atomicWrite_touches member notTemp apart

theorem atomicWriteText_written {path : WorkspacePath} {contents : Contents} (notTemp : path ≠ tempName path) :
    runOps (atomicWriteText path contents) disk path = some contents := runOps_atomicWrite notTemp

end Preparing

/-- Steps that leave a file alone. -/
def Spares (ops : List (DiskOp WorkspacePath Contents)) (path : WorkspacePath) : Prop := ∀ op ∈ ops, ¬op.touches path

section Stopping
variable {ops more done : List (DiskOp WorkspacePath Contents)} {path other : WorkspacePath} {contents : Contents}

theorem Spares.append (first : Spares ops path) (second : Spares more path) : Spares (ops ++ more) path := by
  intro op member
  rcases List.mem_append.mp member with early | late
  · exact first op early
  · exact second op late

theorem atomicWriteText_spares (apart : other ≠ path) (notTemp : other ≠ tempName path) :
    Spares (atomicWriteText path contents) other := fun _ member => atomicWrite_touches member notTemp apart

/-- An atomic write that was stopped has replaced its file, or touched none but the temporary one. -/
theorem atomicWriteText_begun (begun : done <+: atomicWriteText path contents) :
    done = atomicWriteText path contents ∨ ∀ other, other ≠ tempName path → Spares done other := by
  rcases atomicWrite_begun begun with whole | early
  · exact Or.inl whole
  · exact Or.inr fun other notTemp op member => early op member other notTemp

/-- The files of a preparation, in the order of their replacements. -/
def workspaceWrites (preparation : Preparation) : List (WorkspacePath × Contents) :=
  [(workspaceFile, .portable (portableWorkspace preparation.manifest)), (filesManifest, .files preparation.manifest.files),
    (localFile, .localSource (localSource preparation))]

theorem writeWorkspace_eq (preparation : Preparation) : writeWorkspace preparation =
    atomicWrites tempName (.torn "Unterminated string") (workspaceWrites preparation) := rfl

theorem workspaceWrites_notTemp (preparation : Preparation) : ∀ path ∈ [workspaceFile, filesManifest, localFile],
    ∀ file ∈ workspaceWrites preparation, path ≠ tempName file.1 := by
  have apart : ∀ path ∈ [workspaceFile, filesManifest, localFile], ∀ other ∈ [workspaceFile, filesManifest, localFile],
      path ≠ tempName other := by decide
  exact fun path member file listed => apart path member file.1 (List.mem_map_of_mem listed)

/-- Where a preparation can be stopped: before the files manifest is replaced, between that and the
replacement of the locator, and at the end. -/
theorem writeWorkspace_begun {preparation : Preparation} {disk : WorkspaceDisk} (begun : done <+: writeWorkspace preparation) :
    (¬HalfWritten done ∧ (runOps done disk workspaceFile = disk workspaceFile ∨
        runOps done disk workspaceFile = some (.portable (portableWorkspace preparation.manifest))) ∧
      runOps done disk filesManifest = disk filesManifest ∧ runOps done disk localFile = disk localFile) ∨
    (runOps done disk workspaceFile = some (.portable (portableWorkspace preparation.manifest)) ∧
      runOps done disk filesManifest = some (.files preparation.manifest.files) ∧
      (HalfWritten done ∧ runOps done disk localFile = disk localFile ∨
        ¬HalfWritten done ∧ runOps done disk localFile = some (.localSource (localSource preparation)))) := by
  rw [writeWorkspace_eq] at begun
  obtain ⟨count, shows⟩ := stoppedWrites begun
  obtain ⟨header, _⟩ := shows _ (workspaceWrites_notTemp preparation workspaceFile (by simp))
  obtain ⟨files, filesReplaced⟩ := shows _ (workspaceWrites_notTemp preparation filesManifest (by simp))
  obtain ⟨locator, locatorReplaced⟩ := shows _ (workspaceWrites_notTemp preparation localFile (by simp))
  rw [HalfWritten, header, files, locator, filesReplaced, locatorReplaced]
  have apart : filesManifest ≠ workspaceFile ∧ localFile ≠ workspaceFile ∧ localFile ≠ filesManifest := by decide
  obtain ⟨filesHeader, locatorHeader, locatorFiles⟩ := apart
  match count with
  | 0 => simp [putAll]
  | 1 => simp [putAll, workspaceWrites, filesHeader, locatorHeader]
  | 2 => simp [putAll, workspaceWrites, filesHeader.symm, locatorHeader, locatorFiles]
  | more + 3 => simp [putAll, workspaceWrites, filesHeader.symm, locatorHeader.symm, locatorFiles.symm]

end Stopping

section Preparing
variable {tools : WorkspaceTools} {before now later : String → Option HostSource} {disk : WorkspaceDisk}
  {path name otherPath otherName : String} {first second : Preparation} {done : List (DiskOp WorkspacePath Contents)}

/-- A preparation from a second source that was stopped leaves the first source paired with the files of the second one
exactly between the replacements of the files manifest and of the locator, as long as the first source is still there
and the files differ. -/
theorem reprepare_paired_iff (firstRan : prepareGameWorkspace tools before path name = .ok first)
    (prepared : PreparedFrom disk first) (secondRan : prepareGameWorkspace tools now otherPath otherName = .ok second)
    (sameKind : second.manifest.sourceKind = first.manifest.sourceKind)
    (firstDetects : SnapshotDetects tools before later first) (secondDetects : SnapshotDetects tools now later second)
    (begun : done <+: writeWorkspace second) :
    Paired tools later (runOps done disk) ↔ ¬(HalfWritten done ∧ StillThere tools later first ∧
      first.manifest.files.map (·.identity) ≠ second.manifest.files.map (·.identity)) := by
  obtain ⟨records, files, same⟩ := prepared.files
  obtain ⟨secondSchema, secondIdentity, _⟩ := prepare_ok secondRan
  rcases @writeWorkspace_begun _ _ disk begun with
    ⟨early, header, keptFiles, keptLocator⟩ | ⟨header, newFiles, ⟨half, keptLocator⟩ | ⟨complete, newLocator⟩⟩
  · refine iff_of_true ?_ fun bad => early bad.1
    have files := keptFiles.trans files
    have locator := keptLocator.trans prepared.locator
    rcases header with kept | new
    · exact paired_of_locator firstRan firstDetects (kept.trans prepared.header) rfl files same locator
    · exact paired_of_locator firstRan firstDetects new sameKind files same locator
  · have opened := @openWorkspace_ok tools later _ _ _ _ header newFiles (keptLocator.trans prepared.locator)
    rw [paired_iff]
    constructor
    · rintro paired ⟨_, ⟨named, source, found, valid⟩, different⟩
      have accepted := opened.mpr ⟨secondSchema, secondIdentity.symm, rfl, sameKind.symm, named, found,
        (show validateSnapshot tools source second.manifest.sourceKind first.snapshot = .ok () by rw [sameKind, valid]), rfl⟩
      obtain ⟨_, _, _, scanned, equal⟩ := paired _ _ accepted
      cases (scanned_of_valid firstRan firstDetects found valid).symm.trans scanned
      exact different equal
    · intro harmless manifest source accepted
      obtain ⟨_, _, _, _, named, found, valid, rfl⟩ := opened.mp accepted
      have valid : validateSnapshot tools source first.manifest.sourceKind first.snapshot = .ok () := by
        rw [← sameKind]
        exact valid
      refine ⟨_, _, _, scanned_of_valid firstRan firstDetects found valid, ?_⟩
      by_contra different
      exact harmless ⟨half, ⟨named, source, found, valid⟩, different⟩
  · refine iff_of_true ?_ fun bad => complete bad.1
    exact paired_of_locator secondRan secondDetects header rfl newFiles rfl newLocator

/-- A complete preparation leaves a workspace that is prepared from its source. -/
theorem preparedFrom_written (preparation : Preparation) (disk : WorkspaceDisk) :
    PreparedFrom (runOps (writeWorkspace preparation) disk) preparation where
  header := by
    rw [writeWorkspace, runOps_append, runOps_append, atomicWriteText_elsewhere (by decide) (by decide),
      atomicWriteText_elsewhere (by decide) (by decide), atomicWriteText_written (by decide)]
  files := by
    refine ⟨preparation.manifest.files, ?_, rfl⟩
    rw [writeWorkspace, runOps_append, runOps_append, atomicWriteText_elsewhere (by decide) (by decide),
      atomicWriteText_written (by decide)]
  locator := by
    rw [writeWorkspace, runOps_append, runOps_append, atomicWriteText_written (by decide)]

end Preparing

/-- Texts of bytes and of identities, in place of their hashes. -/
def plainWorkspaceTools : WorkspaceTools where
  casefold := id
  sha256 data := ",".intercalate (data.map fun b => toString b.toNat)
  identityDigest identities := ";".intercalate (identities.map fun identity => identity.path ++ ":" ++ identity.sha256)
  discEntries _ := .error (.parseError "not a disc image")
  toolkitVersion := "0.9.0"

/-- Two extracted games of one file each. -/
def twoGames (path : String) : Option HostSource :=
  if path = "/a" then some (.directory ⟨0, 0⟩ [⟨"EBOOT.BIN", false, true, [1], 5⟩])
  else if path = "/b" then some (.directory ⟨0, 0⟩ [⟨"EBOOT.BIN", false, true, [2], 5⟩])
  else none

def gamePreparation (name sha256 : String) : Preparation :=
  let record : WorkspaceFileRecord := ⟨"EBOOT.BIN", 1, sha256, "directory", "resource", "unknown", "pending", 2⟩
  ⟨⟨1, "0.9.0", "directory", name, "EBOOT.BIN:" ++ sha256, [record]⟩, "/" ++ name, .directory [⟨"EBOOT.BIN", 1, 5⟩]⟩

theorem prepare_a : prepareGameWorkspace plainWorkspaceTools twoGames "/a" "a" = .ok (gamePreparation "a" "1") := by
  decide

theorem prepare_b : prepareGameWorkspace plainWorkspaceTools twoGames "/b" "b" = .ok (gamePreparation "b" "2") := by
  decide

theorem reprepare_untouched : Paired plainWorkspaceTools twoGames
    (runOps [] (runOps (writeWorkspace (gamePreparation "a" "1")) fun _ => none)) :=
  (reprepare_paired_iff prepare_a (preparedFrom_written _ _) prepare_b rfl (fun _ found _ => found)
    (fun _ found _ => found) (List.nil_prefix)).mpr fun bad => absurd bad.1.1 List.not_mem_nil

/-- After a crash between the second and the third replacement, the manifest of game b leads to the files of game a. -/
theorem reprepare_mixes : ¬∀ (tools : WorkspaceTools) (before now later : String → Option HostSource) (disk : WorkspaceDisk)
    (path name otherPath otherName : String) (first second : Preparation) (done : List (DiskOp WorkspacePath Contents)),
    prepareGameWorkspace tools before path name = .ok first → PreparedFrom disk first →
    prepareGameWorkspace tools now otherPath otherName = .ok second →
    second.manifest.sourceKind = first.manifest.sourceKind → SnapshotDetects tools before later first →
    SnapshotDetects tools now later second → done <+: writeWorkspace second → Paired tools later (runOps done disk) := by
  intro paired
  have pairing := paired plainWorkspaceTools twoGames twoGames twoGames _ _ _ _ _ _ _
    ((writeWorkspace (gamePreparation "b" "2")).take 6) prepare_a
    (preparedFrom_written _ fun _ => none) prepare_b rfl (fun _ found _ => found) (fun _ found _ => found)
    (List.take_prefix _ _)
  have mixed : (fun opened => (opened.1.files.map (·.sha256), (scanSource plainWorkspaceTools opened.2).map fun scan =>
      scan.2.1.map (·.sha256))) <$> openWorkspace plainWorkspaceTools twoGames
        (runOps ((writeWorkspace (gamePreparation "b" "2")).take 6)
          (runOps (writeWorkspace (gamePreparation "a" "1")) fun _ => none)) = .ok (["2"], .ok ["1"]) := by decide
  obtain ⟨⟨manifest, source⟩, opened, seen⟩ := map_ok.mp mixed
  obtain ⟨_, records, _, scanned, same⟩ := paired_iff.mp pairing manifest source opened
  dsimp only at seen
  rw [scanned] at seen
  obtain ⟨recorded, found⟩ := Prod.mk.inj seen
  have hashes := congrArg (List.map FileIdentity.sha256) same
  simp only [List.map_map, Function.comp_def, WorkspaceFileRecord.identity] at hashes
  have found := Except.ok.inj found
  dsimp only at found
  rw [found, recorded] at hashes
  exact absurd hashes (by decide)

end PspDisasm
