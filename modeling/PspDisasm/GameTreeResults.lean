import PspDisasm.GameTreeRuns
import PspDisasm.SourceIdentity

namespace PspDisasm
open Foundations

section SecondPass
variable {tools : ProjectTools} {recovery : Option (Bytes → Except GameFailure RecoveryResult)} {tree : ProjectTree}
  {prepared : PreparedModule} {placement : ModulePlacement}

/-- The record of a module that has been taken to its end. -/
structure FinishedFrom (prepared : PreparedModule) (record : GameModuleAnalysisRecord) : Prop where
  path : record.path = prepared.candidate.path
  extracted : record.extractedPath = some prepared.extracted
  project : record.projectPath = some prepared.projectRoot
  recovery : record.recovery = prepared.recovery
  status : record.status = if prepared.recovery.isSome then .analyzedRecovered else .analyzed

/-- A file that the generator has written for the bytes of a module. -/
def WrittenFor (tools : ProjectTools) (tree : ProjectTree) (prepared : PreparedModule) (path : WorkspacePath)
    (file : ProjectFile) : Prop :=
  ∃ data loadAddress rest, readProjectFile tools tree prepared.extracted = .ok data ∧
    path = posixParts prepared.projectRoot ++ rest ∧
    (rest, file) ∈ (tools.generateProject prepared.extracted data loadAddress).1

theorem projectWrites_written {path : WorkspacePath} {file : ProjectFile}
    (listed : (path, file) ∈ projectWrites tools tree prepared placement) : WrittenFor tools tree prepared path file := by
  unfold projectWrites at listed
  generalize (if placement.requiresRelocation = true then some placement.loadAddress else none) = loadAddress at listed
  dsimp only at listed
  split at listed
  · cases listed
  · rename_i data read
    split at listed
    · cases listed
    · obtain ⟨⟨rest, written⟩, member, same⟩ := List.mem_map.mp listed
      obtain ⟨rfl, rfl⟩ := Prod.mk.inj same
      exact ⟨data, _, rest, read, rfl, member⟩

/-- How things stand between two turns of the second pass, which has begun with some files. -/
structure SecondPassed (tools : ProjectTools) (before : ProjectTree) (modules : List PreparedModule) (run : GenerateRun) : Prop where
  kept : ∀ path, path.head? ≠ some "projects" → run.tree.get? path = before.get? path
  projects : ∀ path file, run.tree.get? path = some file → path.head? = some "projects" →
    before.get? path = some file ∨ ∃ prepared ∈ modules, WrittenFor tools before prepared path file
  records : ∀ item ∈ run.linking.records, item.2.path = item.1 ∧
    (Unfinished item.2 ∨ ∃ prepared ∈ modules, FinishedFrom prepared item.2)

theorem secondPassTurn_record {game : GameTools} {byPath : Dict String ModulePlacement} {s t : GameLinking}
    (display : ∀ path, game.relativeDisplay path = path) (turn : secondPassTurn game byPath s prepared = .ok t) :
    ∃ record, t.records = s.records.set prepared.candidate.path record ∧ record.path = prepared.candidate.path ∧
      (Unfinished record ∨ FinishedFrom prepared record) := by
  obtain ⟨placement, _, rest⟩ := bind_ok.mp turn
  dsimp only at rest
  split at rest
  · cases rest
    exact ⟨_, rfl, rfl, Or.inr ⟨rfl, congrArg some (display _), congrArg some (display _), rfl, rfl⟩⟩
  · split at rest
    · cases rest
      exact ⟨_, rfl, rfl, Or.inl ⟨Or.inl rfl, rfl⟩⟩
    · cases rest

/-- Modules are read from places that no project lies at. -/
def ReadsElsewhere (prepared : PreparedModule) : Prop := (posixParts prepared.extracted).head? ≠ some "projects"

theorem SecondPassed.turn {before : ProjectTree} {modules : List PreparedModule} {run next : GenerateRun}
    {byPath : Dict String ModulePlacement} (passed : SecondPassed tools before modules run) (listed : prepared ∈ modules)
    (elsewhere : ReadsElsewhere prepared) (root : (posixParts prepared.projectRoot).head? = some "projects")
    (turn : generateTurn tools recovery byPath run prepared = .ok next) : SecondPassed tools before modules next := by
  obtain ⟨placement, _, ran⟩ := bind_ok.mp turn
  obtain ⟨linking, second, made⟩ := bind_ok.mp ran
  cases made
  have read : readProjectFile tools run.tree prepared.extracted = readProjectFile tools before prepared.extracted := by
    rw [readProjectFile, readProjectFile, passed.kept _ elsewhere]
  have below : ∀ file ∈ projectWrites tools run.tree prepared placement, file.1.head? = some "projects" := by
    rintro ⟨path, file⟩ member
    obtain ⟨_, _, rest, _, rfl, _⟩ := projectWrites_written member
    rw [List.head?_append, root]
    rfl
  refine ⟨fun path outside => ?_, fun path file found inside => ?_, fun item member => ?_⟩
  · rw [← passed.kept path outside]
    refine putAll_elsewhere fun file member same => ?_
    exact outside (same ▸ below file member)
  · rcases putAll_origin found with written | old
    · obtain ⟨data, loadAddress, rest, there, rfl, generated⟩ := projectWrites_written written
      exact Or.inr ⟨prepared, listed, data, loadAddress, rest, read ▸ there, rfl, generated⟩
    · exact passed.projects path file old inside
  · obtain ⟨record, stored, path, outcome⟩ := secondPassTurn_record (fun _ => rfl) second
    rw [stored] at member
    rcases mem_dict_set member with rfl | old
    · exact ⟨path, outcome.imp_right fun finished => ⟨prepared, listed, finished⟩⟩
    · exact passed.records item old

/-- The second pass over modules that the first one has handed on, in whatever order. -/
theorem secondPassed {before : ProjectTree} {modules rest : List PreparedModule} {run generated : GenerateRun}
    {byPath : Dict String ModulePlacement} (start : SecondPassed tools before modules run)
    (elsewhere : ∀ prepared ∈ modules, ReadsElsewhere prepared)
    (roots : ∀ prepared ∈ modules, (posixParts prepared.projectRoot).head? = some "projects")
    (listed : ∀ prepared ∈ rest, prepared ∈ modules) (ran : rest.foldlM (generateTurn tools recovery byPath) run = .ok generated) :
    SecondPassed tools before modules generated := by
  induction rest generalizing run with
  | nil =>
    cases ran
    exact start
  | cons prepared rest ih =>
    obtain ⟨first, later⟩ := List.forall_mem_cons.mp listed
    rw [List.foldlM_cons] at ran
    obtain ⟨next, turn, ran⟩ := bind_ok.mp ran
    exact ih (start.turn first (elsewhere _ first) (roots _ first) turn) later ran

end SecondPass

section Recovered
variable {tools : ProjectTools} {recovery : Option (Bytes → Except GameFailure RecoveryResult)} {copied : ProjectTree}
  {candidate : GameModuleRecord} {candidates : List GameModuleRecord}

def recoveredPlace (candidate : GameModuleRecord) : WorkspacePath := "recovered" :: posixParts candidate.path

/-- No two modules are recovered to one place, and none is recovered to the place of another one's notes. -/
structure PlacesApart (candidates : List GameModuleRecord) : Prop where
  distinct : (candidates.map recoveredPlace).Nodup
  noSidecar : ∀ candidate ∈ candidates, ∀ other ∈ candidates, recoveredPlace candidate ≠ sidecarPath (recoveredPlace other)

theorem sidecarPath_injective {path other : WorkspacePath} (named : path ≠ []) (otherNamed : other ≠ [])
    (same : sidecarPath path = sidecarPath other) : path = other := by
  obtain ⟨parents, lasts⟩ := List.append_inj' same rfl
  have last : path.getLastD "" = other.getLastD "" := String.append_left_inj _ |>.mp (List.singleton_inj.mp lasts)
  rw [← List.dropLast_append_getLast named, ← List.dropLast_append_getLast otherNamed, parents]
  rw [List.getLastD_eq_getLast?, List.getLastD_eq_getLast?, List.getLast?_eq_some_getLast named,
    List.getLast?_eq_some_getLast otherNamed] at last
  exact congrArg (fun name => other.dropLast ++ [name]) last

theorem putAll_pair (tree : ProjectTree) {path other : WorkspacePath} (apart : path ≠ other) (first second : ProjectFile) :
    (tree.putAll [(path, first), (other, second)]).get? path = some first ∧
      (tree.putAll [(path, first), (other, second)]).get? other = some second := by
  rw [putAll_cons, putAll_cons]
  constructor
  · rw [putAll_elsewhere (List.forall_mem_nil _), Dict.get?_set, if_neg apart.symm, Dict.get?_set, if_pos rfl]
  · rw [putAll_elsewhere (List.forall_mem_nil _), Dict.get?_set, if_pos rfl]

/-- The output holds what the recovery of a module has returned, with its provenance beside it. -/
def RecoveryStored (recovery : Option (Bytes → Except GameFailure RecoveryResult)) (dumps : Json → Bytes) (copied tree : ProjectTree)
    (prepared : PreparedModule) : Prop :=
  ∀ provenance, prepared.recovery = some provenance → ∃ copy result,
    copied.get? ("modules" :: posixParts prepared.candidate.path) = some copy ∧ RecoversAs recovery (copy.data dumps) result ∧
    result.provenance = provenance ∧ tree.get? (recoveredPlace prepared.candidate) = some (.bytes result.data) ∧
    tree.get? (sidecarPath (recoveredPlace prepared.candidate)) = some (.json (recoveryJson provenance))

/-- A turn of the first pass leaves what earlier turns have stored, and stores what its own recovery returns. -/
theorem recoveryStored_turn {done : List GameModuleRecord} {run next : ExamineRun}
    (passed : FirstPassed tools recovery copied candidates run) (apart : PlacesApart candidates)
    (listed : candidate ∈ candidates) (copy : CopiedCandidate candidate) (earlier : ∀ other ∈ done, other ∈ candidates)
    (new : recoveredPlace candidate ∉ done.map recoveredPlace)
    (stored : ∀ module ∈ run.pass.prepared, module.candidate ∈ done ∧ RecoveryStored recovery tools.dumps copied run.tree module)
    (turn : examineTurn tools recovery run candidate = .ok next) :
    ∀ module ∈ next.pass.prepared, module.candidate ∈ done ++ [candidate] ∧
      RecoveryStored recovery tools.dumps copied next.tree module := by
  obtain ⟨pass, ran, made⟩ := bind_ok.mp turn
  cases made
  have kept : ∀ module ∈ run.pass.prepared, module.candidate ∈ done ++ [candidate] ∧ RecoveryStored recovery tools.dumps copied
      (run.tree.putAll (recoveredFiles tools recovery run.tree candidate)) module := by
    intro module member
    obtain ⟨before, there⟩ := stored module member
    have different : recoveredPlace candidate ≠ recoveredPlace module.candidate := fun same =>
      new (same ▸ List.mem_map_of_mem before)
    have inList := earlier _ before
    refine ⟨List.mem_append_left _ before, fun provenance recovered => ?_⟩
    obtain ⟨file, result, found, recovers, noted, bytes, notes⟩ := there provenance recovered
    refine ⟨file, result, found, recovers, noted, ?_, ?_⟩
    · rw [putAll_elsewhere fun file written same => ?_]
      · exact bytes
      · obtain ⟨_, _, _, _, ⟨place, _⟩ | ⟨place, _⟩⟩ := recoveredFiles_place copy written
        · exact different (place.symm.trans same)
        · exact apart.noSidecar _ inList _ listed (same.symm.trans place)
    · rw [putAll_elsewhere fun file written same => ?_]
      · exact notes
      · obtain ⟨_, _, _, _, ⟨place, _⟩ | ⟨place, _⟩⟩ := recoveredFiles_place copy written
        · exact apart.noSidecar _ listed _ inList (place.symm.trans same)
        · exact different (sidecarPath_injective (List.cons_ne_nil _ _) (List.cons_ne_nil _ _) (place.symm.trans same))
  unfold firstPassTurn at ran
  rw [copy.output] at ran
  obtain ⟨extracted, safe, ran⟩ := bind_ok.mp ran
  obtain ⟨projectRoot, _, ran⟩ := bind_ok.mp ran
  have safe' : safeRelativeTarget "" (placeIn "modules" candidate.path) = .ok extracted := safe
  have place := safeRelativeTarget_placeIn modules_proper safe'
  subst place
  split at ran
  · cases ran
    exact kept
  · rename_i module ready
    cases ran
    intro other member
    rcases List.mem_append.mp member with before | fresh
    · exact kept other before
    · rw [List.mem_singleton.mp fresh]
      obtain ⟨same, _, data, read, outcome⟩ := examineModule_ready ready
      rw [same]
      refine ⟨List.mem_append_right _ (List.mem_singleton.mpr rfl), fun provenance recovered => ?_⟩
      rcases outcome with ⟨direct, _⟩ | ⟨_, result, noted, recovers, found⟩
      · rw [direct] at recovered
        cases recovered
      · cases noted.symm.trans recovered
        obtain ⟨file, there, rfl⟩ := readProjectFile_placeIn modules_proper read
        have written : recoveredFiles tools recovery run.tree candidate = [(recoveredPlace candidate, .bytes result.data),
            (sidecarPath (recoveredPlace candidate), .json (recoveryJson result.provenance))] := by
          rw [recoveredFiles, copy.output]
          dsimp only [Option.bind_some]
          rw [toOption_some.mpr safe', Option.bind_some, found]
          rfl
        obtain ⟨bytes, notes⟩ := putAll_pair run.tree (apart.noSidecar _ listed _ listed)
          (.bytes result.data) (.json (recoveryJson result.provenance))
        rw [same, written]
        exact ⟨file, result, (passed.copies _).symm.trans there, recovers, rfl, bytes, notes⟩
  · split at ran
    · cases ran
      exact kept
    · cases ran

/-- The first pass stores every recovery that it hands on. -/
theorem recoveryStored {examined : ExamineRun} (copies : ∀ candidate ∈ candidates, CopiedCandidate candidate)
    (apart : PlacesApart candidates) (ran : candidates.foldlM (examineTurn tools recovery) ⟨copied, ⟨[], []⟩⟩ = .ok examined) :
    ∀ module ∈ examined.pass.prepared, RecoveryStored recovery tools.dumps copied examined.tree module := by
  have runs : ∀ (rest done : List GameModuleRecord) (run : ExamineRun), candidates = done ++ rest →
      FirstPassed tools recovery copied candidates run →
      (∀ module ∈ run.pass.prepared, module.candidate ∈ done ∧ RecoveryStored recovery tools.dumps copied run.tree module) →
      rest.foldlM (examineTurn tools recovery) run = .ok examined →
      ∀ module ∈ examined.pass.prepared, RecoveryStored recovery tools.dumps copied examined.tree module := by
    intro rest
    induction rest with
    | nil =>
      intro done run _ _ stored ran
      cases ran
      exact fun module member => (stored module member).2
    | cons candidate rest ih =>
      intro done run split passed stored ran
      rw [List.foldlM_cons] at ran
      obtain ⟨next, turn, ran⟩ := bind_ok.mp ran
      have listed : candidate ∈ candidates := by
        rw [split]
        exact List.mem_append_right _ List.mem_cons_self
      have earlier : ∀ other ∈ done, other ∈ candidates := fun other member => by
        rw [split]
        exact List.mem_append_left _ member
      have new : recoveredPlace candidate ∉ done.map recoveredPlace := fun member => by
        have distinct := apart.distinct
        rw [split, List.map_append] at distinct
        exact (List.nodup_append.mp distinct).2.2 _ member _ List.mem_cons_self rfl
      have further := recoveryStored_turn passed apart listed (copies _ listed) earlier new stored turn
      exact ih (done ++ [candidate]) next (by rw [split, List.append_assoc]; rfl) (passed.turn listed (copies _ listed) turn)
        further ran
  refine runs candidates [] _ rfl ⟨fun _ => rfl, fun _ _ found => Or.inl found, ?_, ?_⟩ ?_ ran
  · exact List.forall_mem_nil _
  · exact List.forall_mem_nil _
  · exact List.forall_mem_nil _

end Recovered

section Scan
variable {tools : ProjectTools} {sourceName : String} {source : HostSource} {manifest : GameDiscManifest} {files : List IsoFile}

/-- A file of the source that a scan takes for a module. -/
def IsModuleFile (tools : ProjectTools) (bootPath : String) (item : IsoFile) : Prop :=
  discClassification tools.toWorkspaceTools item bootPath ∈ ["boot", "module"]

instance (tools : ProjectTools) (bootPath : String) (item : IsoFile) : Decidable (IsModuleFile tools bootPath item) :=
  inferInstanceAs (Decidable (_ ∈ _))

/-- The modules of a manifest are those among the files of the source, each with its place below `modules`. -/
structure ModulesOf (tools : ProjectTools) (files : List IsoFile) (manifest : GameDiscManifest) : Prop where
  copied : ∀ candidate ∈ manifest.modules, CopiedCandidate candidate
  source : ∀ candidate ∈ manifest.modules, ∃ item ∈ files, IsModuleFile tools manifest.bootPath item ∧
    item.logicalPath = candidate.path
  listed : ∀ item ∈ files, IsModuleFile tools manifest.bootPath item → ∃ candidate ∈ manifest.modules,
    candidate.path = item.logicalPath

theorem moduleRecord_copied {record : DiscFileRecord} {candidate : GameModuleRecord}
    (made : moduleRecord (some copyTarget) record = .ok candidate) :
    candidate.path = record.path ∧ CopiedCandidate candidate := by
  obtain ⟨outputPath, noted, returned⟩ := bind_ok.mp made
  cases returned
  obtain ⟨target, copied, rfl⟩ := map_ok.mp noted
  obtain ⟨_, _, named⟩ := bind_ok.mp copied
  cases named
  exact ⟨rfl, ⟨rfl⟩⟩

theorem scanFiles_modules {imageFormat noBoot : String}
    (scanned : scanFiles tools.toWorkspaceTools sourceName imageFormat noBoot (some copyTarget) files = .ok manifest) :
    ModulesOf tools files manifest := by
  unfold scanFiles at scanned
  split at scanned
  · cases scanned
  · rename_i bootPath _
    obtain ⟨⟨sfo, warnings⟩, _, scanned⟩ := bind_ok.mp scanned
    obtain ⟨modules, made, returned⟩ := bind_ok.mp scanned
    cases returned
    have each := mapM_ok.mp made
    refine ⟨fun candidate member => ?_, fun candidate member => ?_, fun item member module => ?_⟩
    · obtain ⟨record, _, copied⟩ := forall₂_mem each ((List.mem_insertionSort _).mp member)
      exact (moduleRecord_copied copied).2
    · obtain ⟨record, kept, copied⟩ := forall₂_mem each ((List.mem_insertionSort _).mp member)
      obtain ⟨inRecords, isModule⟩ := List.mem_filter.mp kept
      obtain ⟨item, inFiles, rfl⟩ := List.mem_map.mp inRecords
      exact ⟨item, inFiles, of_decide_eq_true isModule, (moduleRecord_copied copied).1.symm⟩
    · have kept : discRecord tools.toWorkspaceTools bootPath item ∈ (files.map (discRecord tools.toWorkspaceTools bootPath)).filter
          fun record => record.classification ∈ ["boot", "module"] :=
        List.mem_filter.mpr ⟨List.mem_map_of_mem member, decide_eq_true module⟩
      obtain ⟨candidate, inModules, copied⟩ := forall₂_mem each.flip kept
      exact ⟨candidate, (List.mem_insertionSort _).mpr inModules, (moduleRecord_copied copied).1⟩

theorem scanGame_modules (listed : sourceFiles tools source = .ok files) (scanned : scanGame tools sourceName source = .ok manifest) :
    ModulesOf tools files manifest := by
  cases source with
  | directory stat entries =>
    obtain ⟨found, walked, scanned⟩ := bind_ok.mp scanned
    obtain ⟨_, _, scanned⟩ := bind_ok.mp scanned
    cases walked.symm.trans listed
    exact scanFiles_modules scanned
  | file data stat =>
    simp only [sourceFiles, scanGame] at listed scanned
    cases opened : tools.openDisc data with
    | error failure => simp [opened] at scanned
    | ok disc =>
      obtain ⟨imageFormat, members⟩ := disc
      rw [opened] at listed scanned
      cases listed
      exact scanFiles_modules (mapError_ok.mp (mapError_ok.mp scanned))

theorem moduleFiles_copied {bootPath : String} {path : WorkspacePath} {file : ProjectFile}
    (found : (ProjectTree.putAll [] (moduleFiles tools bootPath files)).get? path = some file) :
    ∃ item ∈ files, IsModuleFile tools bootPath item ∧ path = "modules" :: posixParts item.logicalPath ∧ file = .bytes item.content := by
  rcases putAll_origin found with listed | old
  · obtain ⟨item, kept, same⟩ := List.mem_map.mp listed
    obtain ⟨member, isModule⟩ := List.mem_filter.mp kept
    obtain ⟨rfl, rfl⟩ := Prod.mk.inj same
    exact ⟨item, member, of_decide_eq_true isModule, rfl, rfl⟩
  · cases old

end Scan

section Results
variable {tools : ProjectTools} {recovery : Option (Bytes → Except GameFailure RecoveryResult)} {sourceName : String}
  {source : HostSource} {tree : ProjectTree} {records : List GameModuleAnalysisRecord} {candidates : List GameModuleRecord}

/-- What is at the place of a recovered module where no place is taken twice. -/
def HoldsRecovery (tree : ProjectTree) (path : String) (result : RecoveryResult) : Prop :=
  tree.get? ("recovered" :: posixParts path) = some (.bytes result.data) ∧
    tree.get? (sidecarPath ("recovered" :: posixParts path)) = some (.json (recoveryJson result.provenance))

/-- The record of a module tells where the bytes lie that its project was made of: in the copy of a file of the source, or
where the recovery of this copy has been written. -/
def Accounts (tools : ProjectTools) (recovery : Option (Bytes → Except GameFailure RecoveryResult)) (tree : ProjectTree)
    (candidates : List GameModuleRecord) (record : GameModuleAnalysisRecord) : Prop :=
  Unfinished record ∨ record.projectPath = some (placeIn "projects" record.path) ∧
    ∃ copy, tree.get? ("modules" :: posixParts record.path) = some copy ∧
      (record.status = .analyzed ∧ record.recovery = none ∧ record.extractedPath = some (placeIn "modules" record.path) ∨
        record.status = .analyzedRecovered ∧ record.extractedPath = some (placeIn "recovered" record.path) ∧
          (tree.get? ("recovered" :: posixParts record.path)).isSome ∧
          ∃ result, RecoversAs recovery (copy.data tools.dumps) result ∧ record.recovery = some result.provenance ∧
            (PlacesApart candidates → HoldsRecovery tree record.path result))

/-- A file of a project: the generator has written it for the bytes of a module, which are still in the output. -/
def ProjectOf (tools : ProjectTools) (tree : ProjectTree) (candidates : List GameModuleRecord) (path : WorkspacePath)
    (file : ProjectFile) : Prop :=
  ∃ candidate ∈ candidates, ∃ extracted ∈ [placeIn "modules" candidate.path, placeIn "recovered" candidate.path],
    ∃ data loadAddress rest, readProjectFile tools tree extracted = .ok data ∧
      path = "projects" :: (posixParts candidate.path ++ rest) ∧ (rest, file) ∈ (tools.generateProject extracted data loadAddress).1

/-- The files of an output and the records of its modules, as the source accounts for them. -/
structure TreeExplained (tools : ProjectTools) (recovery : Option (Bytes → Except GameFailure RecoveryResult)) (files : List IsoFile)
    (manifest : GameDiscManifest) (tree : ProjectTree) (records : List GameModuleAnalysisRecord) : Prop where
  copied : ∀ item ∈ files, IsModuleFile tools manifest.bootPath item → (tree.get? ("modules" :: posixParts item.logicalPath)).isSome
  modules : ∀ parts file, tree.get? ("modules" :: parts) = some file →
    ∃ item ∈ files, IsModuleFile tools manifest.bootPath item ∧ posixParts item.logicalPath = parts ∧ file = .bytes item.content
  recorded : List.Forall₂ (fun candidate record => record.path = candidate.path ∧ Accounts tools recovery tree manifest.modules record)
    (sortCandidates (treeTools tools recovery []) manifest.modules) records
  written : ∀ path file, tree.get? path = some file →
    path.head? = some "modules" ∨ path = gameAnalysisFile ∧ file = .json (analysisJson manifest records) ∨
      RecoveredFrom recovery tools.dumps tree manifest.modules path file ∨ ProjectOf tools tree manifest.modules path file

theorem RecoversAs.unique {data : Bytes} {result other : RecoveryResult} (recovers : RecoversAs recovery data result)
    (again : RecoversAs recovery data other) : result = other := by
  obtain ⟨_, recover, given, ran⟩ := recovers
  obtain ⟨_, recoverToo, givenToo, ranToo⟩ := again
  cases Option.mem_unique given givenToo
  exact Except.ok.inj (ran.symm.trans ranToo)

theorem PlacesApart.perm {others : List GameModuleRecord} (same : candidates.Perm others) (apart : PlacesApart candidates) :
    PlacesApart others where
  distinct := (same.map _).nodup_iff.mp apart.distinct
  noSidecar _ listed _ otherListed := apart.noSidecar _ (same.mem_iff.mpr listed) _ (same.mem_iff.mpr otherListed)

theorem posixParts_extracted {dumps : Json → Bytes} {copied : ProjectTree} {prepared : PreparedModule}
    (examined : ExaminedFrom recovery dumps copied tree candidates prepared) :
    posixParts prepared.extracted = "modules" :: posixParts prepared.candidate.path ∨
      posixParts prepared.extracted = "recovered" :: posixParts prepared.candidate.path := by
  obtain ⟨_, _, _, _, ⟨_, place⟩ | ⟨place, _⟩⟩ := examined
  · exact Or.inl (place ▸ posixParts_placeIn modules_proper)
  · exact Or.inr (place ▸ posixParts_placeIn recovered_proper)

/-- A finished record accounts for its module. -/
theorem finished_accounts {copied examined : ProjectTree} {ordered : List GameModuleRecord} {prepared : PreparedModule}
    {record : GameModuleAnalysisRecord} (origin : ExaminedFrom recovery tools.dumps copied examined ordered prepared) (finished : FinishedFrom prepared record)
    (stored : PlacesApart candidates → RecoveryStored recovery tools.dumps copied examined prepared)
    (copies : ∀ parts, tree.get? ("modules" :: parts) = copied.get? ("modules" :: parts))
    (kept : ∀ parts, tree.get? ("recovered" :: parts) = examined.get? ("recovered" :: parts))
    (notes : ∀ parts, tree.get? (sidecarPath ("recovered" :: parts)) = examined.get? (sidecarPath ("recovered" :: parts))) :
    Accounts tools recovery tree candidates record := by
  obtain ⟨_, root, copy, found, outcome⟩ := origin
  rw [← finished.path] at found root outcome
  refine Or.inr ⟨finished.project.trans (congrArg some root), copy, (copies _).trans found, ?_⟩
  rcases outcome with ⟨direct, place⟩ | ⟨place, present, result, recovered, recovers⟩
  · refine Or.inl ⟨?_, finished.recovery.trans direct, finished.extracted.trans (congrArg some place)⟩
    rw [finished.status, direct]
    rfl
  · refine Or.inr ⟨?_, finished.extracted.trans (congrArg some place), ?_, result, recovers, finished.recovery.trans recovered,
      fun apart => ?_⟩
    · rw [finished.status, recovered]
      rfl
    · rw [kept]
      exact present
    · obtain ⟨source, same, there, recoversToo, noted, bytes, sidecar⟩ := stored apart _ recovered
      rw [← finished.path] at there
      cases there.symm.trans found
      cases recovers.unique recoversToo
      rw [recoveredPlace, ← finished.path] at bytes sidecar
      exact ⟨(kept _).trans bytes, (notes _).trans sidecar⟩

/-- Places that the second pass and the record of the analysis leave alone. -/
theorem sidecarPath_elsewhere (parts : List String) : (sidecarPath ("recovered" :: parts)).head? ≠ some "projects" ∧
    sidecarPath ("recovered" :: parts) ≠ gameAnalysisFile := by
  obtain ⟨rest, place | place⟩ := sidecarPath_head parts <;> rw [place] <;> simp [gameAnalysisFile]

/-- A whole generation, between the end of its passes and its result. -/
structure Stages (tools : ProjectTools) (recovery : Option (Bytes → Except GameFailure RecoveryResult)) (files : List IsoFile)
    (manifest : GameDiscManifest) (examined : ExamineRun) (run : GenerateRun) (tree : ProjectTree)
    (records : List GameModuleAnalysisRecord) : Prop where
  source : ModulesOf tools files manifest
  first : FirstPassed tools recovery (ProjectTree.putAll [] (moduleFiles tools manifest.bootPath files)) manifest.modules examined
  stored : PlacesApart manifest.modules → ∀ prepared ∈ examined.pass.prepared, RecoveryStored recovery tools.dumps
    (ProjectTree.putAll [] (moduleFiles tools manifest.bootPath files)) examined.tree prepared
  second : SecondPassed tools examined.tree examined.pass.prepared run
  collected : recordsInOrder run.linking.records (sortCandidates (treeTools tools recovery []) manifest.modules) = .ok records
  result : tree = run.tree.set gameAnalysisFile (.json (analysisJson manifest records))

section Stages
variable {files : List IsoFile} {manifest : GameDiscManifest} {examined : ExamineRun} {run : GenerateRun}

theorem FirstPassed.noProject (passed : FirstPassed tools recovery (ProjectTree.putAll [] (moduleFiles tools manifest.bootPath files))
    candidates examined) {path : WorkspacePath} {file : ProjectFile} (found : examined.tree.get? path = some file) :
    path.head? ≠ some "projects" := by
  rcases passed.added path file found with copy | ⟨outside, _⟩
  · obtain ⟨_, _, _, rfl, _⟩ := moduleFiles_copied copy
    simp
  · exact outside

theorem FirstPassed.perm {copied : ProjectTree} {others : List GameModuleRecord} (same : candidates.Perm others)
    (passed : FirstPassed tools recovery copied candidates examined) : FirstPassed tools recovery copied others examined where
  copies := passed.copies
  added path file found := (passed.added path file found).imp_right fun ⟨outside, candidate, listed, rest⟩ =>
    ⟨outside, candidate, same.mem_iff.mp listed, rest⟩
  prepared module member :=
    let examinedFrom := passed.prepared module member
    ⟨same.mem_iff.mp examinedFrom.listed, examinedFrom.root, examinedFrom.copy⟩
  records := passed.records

theorem generateGameTree_stages (generated : generateGameTree tools recovery sourceName source = .ok (tree, records)) :
    ∃ files manifest examined run, sourceFiles tools source = .ok files ∧ scanGame tools sourceName source = .ok manifest ∧
      Stages tools recovery files manifest examined run tree records := by
  obtain ⟨files, walked, generated⟩ := bind_ok.mp generated
  obtain ⟨manifest, scanned, generated⟩ := bind_ok.mp generated
  obtain ⟨examined, first, generated⟩ := bind_ok.mp generated
  obtain ⟨placements, _, generated⟩ := bind_ok.mp generated
  obtain ⟨run, second, generated⟩ := bind_ok.mp generated
  obtain ⟨ordered, collected, returned⟩ := bind_ok.mp generated
  cases returned
  have sorted := List.perm_insertionSort (fun module other : GameModuleRecord => tools.casefold module.path ≤ tools.casefold other.path)
    manifest.modules
  have ofSource := scanGame_modules walked scanned
  have copies : ∀ candidate ∈ sortCandidates (treeTools tools recovery []) manifest.modules, CopiedCandidate candidate :=
    fun candidate member => ofSource.copied candidate (sorted.mem_iff.mp member)
  have passed := (firstPassed copies first).perm sorted
  refine ⟨files, manifest, examined, run, walked, scanned, ofSource, passed,
    fun apart => recoveryStored copies (apart.perm sorted.symm) first, ?_, collected, rfl⟩
  refine secondPassed ⟨fun _ _ => rfl, fun _ _ found _ => Or.inl found, ?_⟩ ?_ ?_ (fun _ => (List.mem_insertionSort _).mp) second
  · exact fun item member => ⟨(passed.records item member).1, Or.inl (passed.records item member).2⟩
  · intro prepared member
    rcases posixParts_extracted (passed.prepared prepared member) with top | top <;> simp [ReadsElsewhere, top]
  · intro prepared member
    rw [(passed.prepared prepared member).root, posixParts_placeIn projects_proper]
    rfl

variable (stages : Stages tools recovery files manifest examined run tree records)
include stages

/-- The projects and the record of the analysis are written beside everything that a module is read from. -/
theorem Stages.beside {path : WorkspacePath} (outside : path.head? ≠ some "projects") (other : path ≠ gameAnalysisFile) :
    tree.get? path = examined.tree.get? path := by
  rw [stages.result, Dict.get?_set, if_neg (Ne.symm other), stages.second.kept path outside]

theorem Stages.copies (parts : List String) : tree.get? ("modules" :: parts) =
    (ProjectTree.putAll [] (moduleFiles tools manifest.bootPath files)).get? ("modules" :: parts) := by
  rw [stages.beside (by simp) (by simp [gameAnalysisFile]), stages.first.copies]

/-- What the record of a candidate says. -/
theorem Stages.accounts {candidate : GameModuleRecord} {record : GameModuleAnalysisRecord}
    (found : run.linking.records.get? candidate.path = some record) :
    record.path = candidate.path ∧ Accounts tools recovery tree manifest.modules record := by
  obtain ⟨path, unfinished | ⟨prepared, member, finished⟩⟩ := stages.second.records _ (Dict.mem_of_get? found)
  · exact ⟨path, Or.inl unfinished⟩
  · refine ⟨path, finished_accounts (stages.first.prepared prepared member) finished (fun apart => stages.stored apart prepared member)
      stages.copies (fun parts => ?_) fun parts => ?_⟩
    · exact stages.beside (by simp) (by simp [gameAnalysisFile])
    · exact stages.beside (sidecarPath_elsewhere parts).1 (sidecarPath_elsewhere parts).2

/-- What the generator has been given for a project still lies in the output. -/
theorem Stages.projectOf {prepared : PreparedModule} {path : WorkspacePath} {file : ProjectFile}
    (member : prepared ∈ examined.pass.prepared) (written : WrittenFor tools examined.tree prepared path file) :
    ProjectOf tools tree manifest.modules path file := by
  obtain ⟨data, loadAddress, rest, read, rfl, generated⟩ := written
  have origin := stages.first.prepared prepared member
  have place := posixParts_extracted origin
  refine ⟨prepared.candidate, origin.listed, prepared.extracted, ?_, data, loadAddress, rest, ?_, ?_, generated⟩
  · obtain ⟨_, _, _, _, ⟨_, named⟩ | ⟨named, _⟩⟩ := origin <;> simp [named]
  · rw [← read, readProjectFile, readProjectFile, stages.beside] <;> rcases place with place | place <;> simp [place, gameAnalysisFile]
  · rw [origin.root, posixParts_placeIn projects_proper]
    rfl

theorem Stages.written {path : WorkspacePath} {file : ProjectFile} (found : tree.get? path = some file) :
    path.head? = some "modules" ∨ path = gameAnalysisFile ∧ file = .json (analysisJson manifest records) ∨
      RecoveredFrom recovery tools.dumps tree manifest.modules path file ∨ ProjectOf tools tree manifest.modules path file := by
  by_cases analysis : path = gameAnalysisFile
  · rw [stages.result, Dict.get?_set, if_pos analysis.symm] at found
    exact Or.inr (Or.inl ⟨analysis, (Option.some.inj found).symm⟩)
  by_cases inside : path.head? = some "projects"
  · rw [stages.result, Dict.get?_set, if_neg (Ne.symm analysis)] at found
    rcases stages.second.projects path file found inside with old | ⟨prepared, member, generated⟩
    · exact absurd inside (stages.first.noProject old)
    · exact Or.inr (Or.inr (Or.inr (stages.projectOf member generated)))
  · rw [stages.beside inside analysis] at found
    rcases stages.first.added path file found with copy | ⟨_, candidate, member, source, result, there, rest⟩
    · obtain ⟨_, _, _, rfl, _⟩ := moduleFiles_copied copy
      exact Or.inl rfl
    · exact Or.inr (Or.inr (Or.inl ⟨candidate, member, source, result, (stages.copies _).trans there, rest⟩))

end Stages

end Results

/-- A fixed executable of one segment. -/
def loadedExecutable : Bytes :=
  elfMagic ++ [1, 1, 1] ++ List.replicate 9 0 ++ [2, 0, 8, 0, 1, 0, 0, 0, 0, 0, 0x80, 0x08, 52, 0, 0, 0, 0, 0, 0, 0, 0, 0, 0, 0,
    52, 0, 32, 0, 1, 0, 40, 0, 0, 0, 0, 0] ++
  [1, 0, 0, 0, 0, 0, 0, 0, 0, 0, 0x80, 0x08, 0, 0, 0x80, 0x08, 84, 0, 0, 0, 84, 0, 0, 0, 5, 0, 0, 0, 16, 0, 0, 0]

def oneFileProjects : ProjectTools := { foldingTools with
  isDigit := (· = "1")
  openDisc := fun _ => .error (.parseError "not an image")
  dumps := fun _ => []
  writable := fun _ _ => .ok ()
  disassemble := fun _ _ _ => .ok ⟨0, 0, 0, 0, []⟩
  generateProject := fun _ data _ => ([(["target.bin"], .bytes data)], .ok ()) }

/-- A game whose boot file is encrypted. -/
def encryptedGame : HostSource :=
  .directory ⟨0, 0⟩ [⟨discEboot, false, true, sampleContainer, 5⟩, ⟨"a.prx", false, true, loadedExecutable, 5⟩]

def encryptedGameRecovery : Option (Bytes → Except GameFailure RecoveryResult) :=
  gameRecovery sampleTools [{ sampleBackend with recover := fun _ => .ok ⟨loadedExecutable, none, []⟩ }] 100

end PspDisasm
