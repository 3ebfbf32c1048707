import PspDisasm.WorkspaceSources

namespace PspDisasm
open Foundations

def gameRoot : WorkspacePath := ["analysis", "game_project"]
def gameAnalysis : WorkspacePath := gameRoot ++ ["metadata", "game_analysis.json"]
def moduleLinks : WorkspacePath := gameRoot ++ ["metadata", "module_links.json"]
def propagatedSymbols : WorkspacePath := gameRoot ++ ["metadata", "propagated_symbols.json"]
def modulePlacements : WorkspacePath := gameRoot ++ ["metadata", "module_placements.json"]

structure NidDatabase where
  path : String
  data : Option Bytes

/-- The options of an analysis. A recovery backend counts by its name. -/
structure AnalysisConfig where
  nidDatabases : List NidDatabase
  recoveryBackends : List String
  recoveryMaxOutputBytes : Nat

/-- What the key of an analysis is the digest of. -/
structure KeyPayload where
  sourceIdentity : String
  analysisSchemaVersion : Nat
  toolkitVersion : String
  nidDatabases : List (Nat × String)
  recoveryBackends : List String
  recoveryMaxOutputBytes : Nat
deriving DecidableEq, Repr

structure AnalysisTools extends WorkspaceTools where
  keyDigest : KeyPayload → String

/-- The outputs of one whole-game analysis: the files it writes before its metadata, the four metadata files
in their order, the counters, and the analysis states read off the outputs. -/
structure Generation where
  earlier : List (WorkspacePath × Contents)
  analysis : Contents
  links : Contents
  symbols : Contents
  placements : Contents
  summary : GameProjectSummary
  states : String → Option String
  inside : ∀ file ∈ earlier, gameRoot <+: file.1 ∧ file.1 ≠ gameAnalysis

inductive Decision
  | reuse (key : String) (summary : GameProjectSummary)
  | regenerate (manifest : GameWorkspaceManifest) (source : HostSource) (key : String)
deriving DecidableEq, Repr

section Analysis
variable (tools : AnalysisTools)

def analysisKey (manifest : GameWorkspaceManifest) (config : AnalysisConfig) : Except WorkspaceFailure String := do
  let nidIdentity ← config.nidDatabases.mapM fun database =>
    match database.data with
    | none => .error (.workspaceError s!"NID database is not readable: {database.path}")
    | some data => .ok (data.length, tools.sha256 data)
  return tools.keyDigest ⟨manifest.sourceIdentity, analysisSchemaVersion, tools.toolkitVersion, nidIdentity,
    config.recoveryBackends, config.recoveryMaxOutputBytes⟩

/-- The first half of an analysis run: the checks, the key, and whether the old result is reused. -/
def decideAnalysis (host : String → Option HostSource) (disk : WorkspaceDisk) (config : AnalysisConfig) :
    Except WorkspaceFailure Decision := do
  let (manifest, source) ← openWorkspace tools.toWorkspaceTools host disk
  let key ← analysisKey tools manifest config
  if (disk analysisState).isSome ∧ (disk gameAnalysis).isSome then
    match ← loadJson disk analysisState with
    | .state state =>
      if state.analysisKey = key then return .reuse key state.gameProject
      else return .regenerate manifest source key
    | _ => return .regenerate manifest source key
  else return .regenerate manifest source key

/-- A file that is opened, cut off, and filled. -/
def plainWrite (file : WorkspacePath × Contents) : List (DiskOp WorkspacePath Contents) :=
  [.write file.1 (.torn "Unterminated string"), .write file.1 file.2]

def Generation.files (generation : Generation) : List (WorkspacePath × Contents) :=
  generation.earlier ++ [(gameAnalysis, generation.analysis), (moduleLinks, generation.links),
    (propagatedSymbols, generation.symbols), (modulePlacements, generation.placements)]

def generateGameProject (generation : Generation) : List (DiskOp WorkspacePath Contents) :=
  generation.files.flatMap plainWrite

def updateAnalysisStates (manifest : GameWorkspaceManifest) (generation : Generation) : List (DiskOp WorkspacePath Contents) :=
  atomicWriteText filesManifest (.files (manifest.files.map fun record =>
    { record with analysisState := (generation.states (tools.casefold record.path)).getD record.analysisState }))

/-- The second half of an analysis run: the old tree is removed in the given order, the new one is written,
and last the marker of the completed run. -/
def regenerationOps (order : List WorkspacePath) (generation : Generation) (manifest : GameWorkspaceManifest) (key : String) :
    List (DiskOp WorkspacePath Contents) :=
  order.map .remove ++ (generateGameProject generation ++ (updateAnalysisStates tools manifest generation ++
    atomicWriteText analysisState (.state ⟨analysisSchemaVersion, key, manifest.sourceIdentity, generation.summary⟩)))

/-- The files below the old tree, in some order. -/
def RemovalOrder (disk : WorkspaceDisk) (order : List WorkspacePath) : Prop :=
  ∀ path, path ∈ order ↔ gameRoot <+: path ∧ (disk path).isSome

/-- A run that has written its marker. -/
structure CompletedRun where
  key : String
  summary : GameProjectSummary
  tree : WorkspaceDisk

structure CacheState where
  disk : WorkspaceDisk
  completed : List CompletedRun

/-- What an exception handler still does: it removes the temporary file of an atomic write. -/
def Cleanup (ops : List (DiskOp WorkspacePath Contents)) : Prop :=
  ∀ op ∈ ops, ∃ path ∈ [workspaceFile, filesManifest, localFile, analysisState], op = .remove (tempName path)

/-- The runs over one workspace: preparations and analyses that complete, or that are stopped by a crash
or an exception after any of their steps. `allowed` restricts where analyses are stopped. -/
inductive CacheRun (allowed : WorkspaceDisk → List (DiskOp WorkspacePath Contents) → Prop) : CacheState → Prop
  | start {disk} : disk analysisState = none → CacheRun allowed ⟨disk, []⟩
  | prepare {s preparation done cleanup} : CacheRun allowed s → done <+: writeWorkspace preparation → Cleanup cleanup →
      CacheRun allowed ⟨runOps (done ++ cleanup) s.disk, s.completed⟩
  | complete {s host config manifest source key order generation} : CacheRun allowed s →
      decideAnalysis tools host s.disk config = .ok (.regenerate manifest source key) → RemovalOrder s.disk order →
      CacheRun allowed ⟨runOps (regenerationOps tools order generation manifest key) s.disk,
        s.completed ++ [⟨key, generation.summary, runOps (regenerationOps tools order generation manifest key) s.disk⟩]⟩
  | stop {s host config manifest source key order generation done cleanup} : CacheRun allowed s →
      decideAnalysis tools host s.disk config = .ok (.regenerate manifest source key) → RemovalOrder s.disk order →
      done <+: regenerationOps tools order generation manifest key →
      done ≠ regenerationOps tools order generation manifest key → Cleanup cleanup → allowed s.disk done →
      CacheRun allowed ⟨runOps (done ++ cleanup) s.disk, s.completed⟩

/-- Whenever a run reuses a result, the tree on disk and the counters are those of a completed run with its key. -/
def ReuseSound (s : CacheState) : Prop :=
  ∀ host config key summary, decideAnalysis tools host s.disk config = .ok (.reuse key summary) →
    ∃ run ∈ s.completed, run.key = key ∧ run.summary = summary ∧ ∀ path, gameRoot <+: path → s.disk path = run.tree path

/-- An analysis is stopped while the workspace has no completed-state marker, or before it has changed the old tree,
or while the main output is missing. -/
def HarmlessStop (disk : WorkspaceDisk) (done : List (DiskOp WorkspacePath Contents)) : Prop :=
  disk analysisState = none ∨ (∀ path, gameRoot <+: path → runOps done disk path = disk path) ∨
    runOps done disk gameAnalysis = none

end Analysis

section Rules
variable {tools : AnalysisTools} {done ops : List (DiskOp WorkspacePath Contents)} {path : WorkspacePath}

/-- The paths that the cache depends on. -/
def CachePath (path : WorkspacePath) : Prop := path = analysisState ∨ gameRoot <+: path

theorem cached_marker : CachePath analysisState := Or.inl rfl

theorem cached_analysis : CachePath gameAnalysis := Or.inr (List.prefix_append ..)

theorem CachePath.ne {other : WorkspacePath} (cached : CachePath path) (elsewhere : ¬gameRoot <+: other)
    (notMarker : analysisState ≠ other) : path ≠ other := by
  rcases cached with rfl | inTree
  · exact notMarker
  · rintro rfl
    exact elsewhere inTree

theorem CachePath.not_workspace (cached : CachePath path) : ∀ other ∈ [workspaceFile, filesManifest, localFile],
    path ≠ other ∧ path ≠ tempName other := by
  intro other member
  have facts : (¬gameRoot <+: other ∧ analysisState ≠ other) ∧ ¬gameRoot <+: tempName other ∧ analysisState ≠ tempName other := by
    revert other
    decide
  exact ⟨cached.ne facts.1.1 facts.1.2, cached.ne facts.2.1 facts.2.2⟩

theorem CachePath.not_temp (cached : CachePath path) :
    ∀ other ∈ [workspaceFile, filesManifest, localFile, analysisState], path ≠ tempName other := by
  intro other member
  have facts : ¬gameRoot <+: tempName other ∧ analysisState ≠ tempName other := by
    revert other
    decide
  exact cached.ne facts.1 facts.2

theorem Cleanup.spares (cleanup : Cleanup ops) (cached : CachePath path) : Spares ops path := by
  intro op member
  obtain ⟨other, listed, rfl⟩ := cleanup op member
  exact cached.not_temp other listed

theorem Spares.of_begun (spares : Spares ops path) (begun : done <+: ops) : Spares done path :=
  fun op member => spares op (begun.subset member)

/-- A preparation leaves the cache alone. -/
theorem writeWorkspace_spares (preparation : Preparation) (cached : CachePath path) :
    Spares (writeWorkspace preparation) path := by
  have apart := cached.not_workspace
  refine Spares.append ?_ (Spares.append ?_ ?_)
  · exact atomicWriteText_spares (apart _ (by simp)).1 (apart _ (by simp)).2
  · exact atomicWriteText_spares (apart _ (by simp)).1 (apart _ (by simp)).2
  · exact atomicWriteText_spares (apart _ (by simp)).1 (apart _ (by simp)).2

theorem analysisState_outside {other : WorkspacePath} (inTree : gameRoot <+: other) : analysisState ≠ other := by
  rintro rfl
  exact absurd inTree (by decide)

theorem Generation.inTree (generation : Generation) {file : WorkspacePath × Contents} (listed : file ∈ generation.files) :
    gameRoot <+: file.1 := by
  rcases List.mem_append.mp listed with early | metadata
  · exact (generation.inside file early).1
  · simp only [List.mem_cons, List.not_mem_nil, or_false] at metadata
    rcases metadata with rfl | rfl | rfl | rfl
    · exact List.prefix_append ..
    · exact List.prefix_append ..
    · exact List.prefix_append ..
    · exact List.prefix_append ..

/-- Until the marker is written, a regeneration leaves the old one alone. -/
theorem regeneration_spares_marker {s : CacheState} {order : List WorkspacePath} {generation : Generation}
    {manifest : GameWorkspaceManifest} {key : String} (removal : RemovalOrder s.disk order)
    (begun : done <+: regenerationOps tools order generation manifest key)
    (stopped : done ≠ regenerationOps tools order generation manifest key) : Spares done analysisState := by
  have removals : Spares (order.map .remove) analysisState := by
    intro op member
    obtain ⟨other, listed, rfl⟩ := List.mem_map.mp member
    exact analysisState_outside ((removal other).mp listed).1
  have generated : Spares (generateGameProject generation) analysisState := by
    intro op member
    obtain ⟨file, listed, written⟩ := List.mem_flatMap.mp member
    have inTree := generation.inTree listed
    simp only [plainWrite, List.mem_cons, List.not_mem_nil, or_false] at written
    rcases written with rfl | rfl
    · exact analysisState_outside inTree
    · exact analysisState_outside inTree
  have updated : Spares (updateAnalysisStates tools manifest generation) analysisState := by
    have apart := cached_marker.not_workspace filesManifest (by simp)
    exact atomicWriteText_spares apart.1 apart.2
  unfold regenerationOps at begun stopped
  rcases begun_append begun with early | ⟨afterRemoval, begunNext, rfl⟩
  · exact removals.of_begun early
  rcases begun_append begunNext with early | ⟨afterGeneration, begunUpdate, rfl⟩
  · exact removals.append (generated.of_begun early)
  rcases begun_append begunUpdate with early | ⟨last, begunMarker, rfl⟩
  · exact removals.append (generated.append (updated.of_begun early))
  rcases atomicWriteText_begun begunMarker with whole | early
  · exact absurd (by rw [whole]) stopped
  · exact removals.append (generated.append (updated.append
      (early analysisState (cached_marker.not_temp _ (by simp)))))

/-- The marker on disk, when the main output is there, is that of a completed run whose tree is on disk. -/
def MarkerSound (s : CacheState) : Prop :=
  ∀ state, s.disk analysisState = some (.state state) → (s.disk gameAnalysis).isSome →
    ∃ run ∈ s.completed, run.key = state.analysisKey ∧ run.summary = state.gameProject ∧
      ∀ path, gameRoot <+: path → s.disk path = run.tree path

/-- Steps that leave the cache as it was keep the marker sound. -/
theorem MarkerSound.of_same {s : CacheState} {disk : WorkspaceDisk} (sound : MarkerSound s)
    (same : ∀ path, CachePath path → disk path = s.disk path) : MarkerSound ⟨disk, s.completed⟩ := by
  intro state marker present
  dsimp only at marker present ⊢
  rw [same _ cached_marker] at marker
  rw [same _ cached_analysis] at present
  obtain ⟨run, member, key, summary, tree⟩ := sound state marker present
  refine ⟨run, member, key, summary, fun path inTree => ?_⟩
  rw [same path (Or.inr inTree), tree path inTree]

theorem CacheRun.markerSound {s : CacheState} (run : CacheRun tools HarmlessStop s) : MarkerSound s := by
  induction run with
  | start fresh =>
    intro state marker
    dsimp only at marker
    rw [fresh] at marker
    cases marker
  | prepare _ begun cleanup ih =>
    exact ih.of_same fun path cached =>
      runOps_untouched (((writeWorkspace_spares _ cached).of_begun begun).append (cleanup.spares cached))
  | @complete s host config manifest source key order generation _ _ removal _ =>
    intro state marker _
    refine ⟨_, List.mem_append_right _ (List.mem_singleton_self _), ?_, ?_, fun _ _ => rfl⟩
    all_goals
      dsimp only at marker
      rw [regenerationOps, runOps_append, runOps_append, runOps_append,
        atomicWriteText_written (cached_marker.not_temp _ (by simp))] at marker
      cases marker
      rfl
  | @stop s host config manifest source key order generation done cleanup _ _ removal begun stopped clean harmless ih =>
    have marked := regeneration_spares_marker removal begun stopped
    rcases harmless with unmarked | unchanged | missing
    · intro state marker
      dsimp only at marker
      rw [runOps_untouched (marked.append (clean.spares cached_marker)), unmarked] at marker
      cases marker
    · refine ih.of_same fun path cached => ?_
      rw [runOps_append, runOps_untouched (clean.spares cached)]
      rcases cached with rfl | inTree
      · exact runOps_untouched marked
      · exact unchanged path inTree
    · intro state _ present
      dsimp only at present
      rw [runOps_append, runOps_untouched (clean.spares cached_analysis), missing] at present
      cases present

theorem decideAnalysis_reuse {host : String → Option HostSource} {disk : WorkspaceDisk} {config : AnalysisConfig}
    {key : String} {summary : GameProjectSummary} (decided : decideAnalysis tools host disk config = .ok (.reuse key summary)) :
    (disk gameAnalysis).isSome ∧ ∃ state, disk analysisState = some (.state state) ∧ state.analysisKey = key ∧
      state.gameProject = summary := by
  obtain ⟨⟨manifest, source⟩, _, rest⟩ := bind_ok.mp decided
  obtain ⟨key', _, rest⟩ := bind_ok.mp rest
  split at rest
  · rename_i present
    obtain ⟨contents, loaded, rest⟩ := bind_ok.mp rest
    split at rest
    · rename_i state
      by_cases same : state.analysisKey = key'
      · rw [if_pos same] at rest
        cases rest
        refine ⟨present.2, state, ?_, same, rfl⟩
        unfold loadJson at loaded
        split at loaded
        · cases loaded
        · cases loaded
        · rename_i found
          cases loaded
          exact found
      · rw [if_neg same] at rest
        cases rest
    · cases rest
  · cases rest

/-- In every sequence of preparations and analyses whose analyses are stopped only at harmless points, a reused
result is that of a completed run with its key. -/
theorem CacheRun.reuseSound {s : CacheState} (run : CacheRun tools HarmlessStop s) : ReuseSound tools s := by
  intro host config key summary decided
  obtain ⟨present, state, marker, rfl, rfl⟩ := decideAnalysis_reuse decided
  exact run.markerSound state marker present

def Generation.paths (generation : Generation) : List WorkspacePath := generation.files.map Prod.fst

theorem removals_apply (order : List WorkspacePath) (disk : WorkspaceDisk) (path : WorkspacePath) :
    runOps (order.map .remove) disk path = if path ∈ order then none else disk path := by
  induction order generalizing disk with
  | nil => rfl
  | cons first order ih =>
    change runOps (order.map .remove) (DiskOp.apply (.remove first) disk) path = _
    rw [ih, DiskOp.apply]
    by_cases later : path ∈ order
    · rw [if_pos later, if_pos (List.mem_cons_of_mem _ later)]
    · by_cases same : path = first
      · rw [if_neg later, same, Function.update_self, if_pos List.mem_cons_self]
      · rw [if_neg later, Function.update_of_ne same, if_neg (by simp [same, later])]

theorem plainWrites_isSome (files : List (WorkspacePath × Contents)) (disk : WorkspaceDisk) (path : WorkspacePath) :
    (runOps (files.flatMap plainWrite) disk path).isSome ↔ path ∈ files.map Prod.fst ∨ (disk path).isSome := by
  induction files generalizing disk with
  | nil => simp [runOps]
  | cons file files ih =>
    rw [List.flatMap_cons, runOps_append, ih, List.map_cons, List.mem_cons]
    by_cases same : path = file.1
    · simp [same, runOps, plainWrite, DiskOp.apply]
    · have kept : runOps (plainWrite file) disk path = disk path := by
        simp [runOps, plainWrite, DiskOp.apply, Function.update_of_ne same]
      rw [kept]
      simp [same]

/-- The tree after a completed run consists of the files of this run. -/
theorem regeneration_tree {disk : WorkspaceDisk} {order : List WorkspacePath} (removal : RemovalOrder disk order)
    (generation : Generation) (manifest : GameWorkspaceManifest) (key : String) :
    RemovalOrder (runOps (regenerationOps tools order generation manifest key) disk) generation.paths := by
  intro path
  have outside : gameRoot <+: path → runOps (regenerationOps tools order generation manifest key) disk path =
      runOps (generateGameProject generation) (runOps (order.map .remove) disk) path := by
    intro inTree
    have apart := CachePath.not_workspace (Or.inr inTree) filesManifest (by simp)
    have notMarker := (analysisState_outside inTree).symm
    have notTemp := CachePath.not_temp (Or.inr inTree) analysisState (by simp)
    rw [regenerationOps, runOps_append, runOps_append, runOps_append, atomicWriteText_elsewhere notMarker notTemp,
      updateAnalysisStates, atomicWriteText_elsewhere apart.1 apart.2]
  have cleared : gameRoot <+: path → runOps (order.map .remove) disk path = none := by
    intro inTree
    rw [removals_apply]
    by_cases listed : path ∈ order
    · exact if_pos listed
    · rw [if_neg listed]
      by_contra there
      exact listed ((removal path).mpr ⟨inTree, Option.isSome_iff_ne_none.mpr there⟩)
  have written : gameRoot <+: path → (path ∈ generation.paths ↔
      (runOps (regenerationOps tools order generation manifest key) disk path).isSome) := by
    intro inTree
    rw [outside inTree, generateGameProject, plainWrites_isSome, cleared inTree]
    simp [Generation.paths]
  constructor
  · intro member
    obtain ⟨file, listed, rfl⟩ := List.mem_map.mp member
    have inTree := generation.inTree listed
    exact ⟨inTree, (written inTree).mp member⟩
  · rintro ⟨inTree, present⟩
    exact (written inTree).mpr present

end Rules

/-- Texts of the identities in place of the digest of a key. -/
def plainAnalysisTools : AnalysisTools :=
  { plainWorkspaceTools with
    keyDigest := fun payload => payload.sourceIdentity ++ "|" ++ ",".intercalate (payload.nidDatabases.map Prod.snd) }

/-- An analysis with one NID database of one byte, or without any. -/
def databaseConfig (bytes : List Bytes) : AnalysisConfig := ⟨bytes.map fun data => ⟨"nids.csv", some data⟩, [], 0⟩

def plainGeneration (text : String) : Generation :=
  ⟨[], .output text, .output text, .output text, .output text, ⟨1, 1, 0, 0, 0, 0, 0, 0, 0, 0, 0, 0⟩, fun _ => none,
    List.forall_mem_nil _⟩

def preparedDisk : WorkspaceDisk := runOps (writeWorkspace (gamePreparation "a" "1") ++ []) fun _ => none

def plainRegeneration (order : List WorkspacePath) (text key : String) : List (DiskOp WorkspacePath Contents) :=
  regenerationOps plainAnalysisTools order (plainGeneration text) (gamePreparation "a" "1").manifest key

def analyzedDisk : WorkspaceDisk := runOps (plainRegeneration [] "first" "EBOOT.BIN:1|") preparedDisk

theorem preparedDisk_noTree : RemovalOrder preparedDisk [] := by
  intro path
  refine iff_of_false List.not_mem_nil ?_
  rintro ⟨inTree, present⟩
  rw [preparedDisk, List.append_nil, runOps_untouched (writeWorkspace_spares _ (Or.inr inTree))] at present
  cases present

theorem analyzed_run (allowed : WorkspaceDisk → List (DiskOp WorkspacePath Contents) → Prop) :
    CacheRun plainAnalysisTools allowed
      ⟨analyzedDisk, [⟨"EBOOT.BIN:1|", (plainGeneration "first").summary, analyzedDisk⟩]⟩ := by
  have prepared : CacheRun plainAnalysisTools allowed ⟨preparedDisk, []⟩ :=
    .prepare (.start rfl) List.prefix_rfl (List.forall_mem_nil _)
  have decided : decideAnalysis plainAnalysisTools twoGames preparedDisk (databaseConfig []) =
      .ok (.regenerate (gamePreparation "a" "1").manifest (.directory ⟨0, 0⟩ [⟨"EBOOT.BIN", false, true, [1], 5⟩])
        "EBOOT.BIN:1|") := by decide
  exact .complete prepared decided preparedDisk_noTree

theorem analyzed_reuseSound : ReuseSound plainAnalysisTools
    ⟨analyzedDisk, [⟨"EBOOT.BIN:1|", (plainGeneration "first").summary, analyzedDisk⟩]⟩ :=
  CacheRun.reuseSound (analyzed_run HarmlessStop)

/-- A run with other options that is stopped after its main output leaves that output to the next run with the
old options, under the old key and with the old counters. -/
theorem stopped_reuse_mixes : ¬∀ (tools : AnalysisTools) (s : CacheState), CacheRun tools (fun _ _ => True) s →
    ReuseSound tools s := by
  intro sound
  have decided : decideAnalysis plainAnalysisTools twoGames analyzedDisk (databaseConfig [[9]]) =
      .ok (.regenerate (gamePreparation "a" "1").manifest (.directory ⟨0, 0⟩ [⟨"EBOOT.BIN", false, true, [1], 5⟩])
        "EBOOT.BIN:1|9") := by decide
  have removal : RemovalOrder analyzedDisk (plainGeneration "first").paths :=
    regeneration_tree preparedDisk_noTree (plainGeneration "first") _ _
  have stopped := @CacheRun.stop plainAnalysisTools _ _ _ _ _ _ _ _ (plainGeneration "second") _ []
    (analyzed_run fun _ _ => True) decided removal (List.take_prefix 6 _)
    (fun same => absurd (congrArg List.length same) (by decide)) (List.forall_mem_nil _) trivial
  have reused : decideAnalysis plainAnalysisTools twoGames (runOps
      ((plainRegeneration (plainGeneration "first").paths "second" "EBOOT.BIN:1|9").take 6 ++ []) analyzedDisk)
      (databaseConfig []) = .ok (.reuse "EBOOT.BIN:1|" (plainGeneration "first").summary) := by decide
  obtain ⟨run, member, _, _, tree⟩ := sound _ _ stopped _ _ _ _ reused
  rw [List.mem_singleton.mp member] at tree
  have mixed := tree gameAnalysis (List.prefix_append ..)
  have second : runOps ((plainRegeneration (plainGeneration "first").paths "second" "EBOOT.BIN:1|9").take 6 ++ [])
      analyzedDisk gameAnalysis = some (.output "second") := by decide
  have first : analyzedDisk gameAnalysis = some (.output "first") := by decide
  exact absurd ((second.symm.trans mixed).trans first) (by decide)

end PspDisasm
