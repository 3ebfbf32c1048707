import PspDisasm.Decompile.Rediscovery
import PspDisasm.Decompile.Selection
import PspDisasm.Runtime.EvidencePersistence

namespace PspDisasm
open Foundations

/-- A stored record as the enrichment reads it, by its static address and its status. -/
def Evidence.Reconciliation.located (record : Evidence.Reconciliation) : RuntimeReconciliation where
  staticKind := record.staticKind
  staticAddress := record.staticAddress
  staticEvidence := []
  runtimeAddress := record.runtimeAddress
  resolvedModuleOffset := record.resolvedModuleOffset
  observationCount := record.observationCount.toNat
  status := record.status
  conflicts := []

/-- The statuses of the records inside a function. -/
def statusesFor (records : List Evidence.Reconciliation) (function : QueuedFunction) : List String :=
  runtimeMatches (records.map (·.located)) function

/-- `enrich_with_runtime_evidence` with what a workspace holds. -/
def enrichStored (tools : Evidence.Tools) (disk : StoreDisk) (functions : List QueuedFunction) :
    Except DecompileFailure (List QueuedFunction) := do
  let records ← Evidence.loadReconciliation tools disk
  if records.isEmpty then return functions
  return enrichWithRuntimeEvidence (records.map (·.located)) functions

/-- The status of the highest rank among some, or none where there are none. -/
def HighestRanked (statuses : List String) : Option String → Prop
  | none => statuses = []
  | some best => best ∈ statuses ∧ ∀ status ∈ statuses, runtimeStatusRank best ≤ runtimeStatusRank status

section Enrichment
variable {function : QueuedFunction} {tools : Evidence.Tools} {disk : StoreDisk} {functions enriched : List QueuedFunction}

/-- A function has the status of the highest rank just when there is evidence inside it, or when it had no status. -/
theorem enrichFunction_highest (reconciliations : List RuntimeReconciliation) (function : QueuedFunction) :
    HighestRanked (runtimeMatches reconciliations function) (enrichFunction reconciliations function).state.runtimeStatus ↔
      (function.state.runtimeStatus ≠ none → runtimeMatches reconciliations function ≠ []) := by
  unfold enrichFunction
  cases chosen : (runtimeMatches reconciliations function).argmin runtimeStatusRank with
  | none =>
    have empty := List.argmin_eq_none.mp chosen
    dsimp only
    rw [empty]
    cases function.state.runtimeStatus with
    | none => exact iff_of_true rfl fun had => absurd rfl had
    | some status => exact iff_of_false (fun highest => absurd highest.1 List.not_mem_nil) fun covered => covered nofun rfl
  | some best =>
    have member := List.argmin_mem chosen
    refine iff_of_true ⟨member, fun status listed => List.le_of_mem_argmin listed chosen⟩ fun _ empty => ?_
    rw [empty] at member
    cases member

theorem enrichFunction_nil (function : QueuedFunction) : enrichFunction [] function = function := rfl

/-- The enrichment looks at each function alone. -/
theorem enrichStored_ok {records : List Evidence.Reconciliation} (loaded : Evidence.loadReconciliation tools disk = .ok records)
    (ran : enrichStored tools disk functions = .ok enriched) :
    enriched = functions.map (enrichFunction (records.map (·.located))) := by
  unfold enrichStored at ran
  rw [loaded, ok_bind] at ran
  split at ran
  · rename_i empty
    cases ran
    rw [List.isEmpty_iff.mp empty, List.map_nil]
    exact (List.map_id' functions).symm
  · cases ran
    rfl

theorem enrichFunction_keys (reconciliations : List RuntimeReconciliation) (function : QueuedFunction) :
    (enrichFunction reconciliations function).key = function.key ∧
      (enrichFunction reconciliations function).state.key = function.state.key := by
  unfold enrichFunction
  split
  · exact ⟨rfl, rfl⟩
  · exact ⟨rfl, rfl⟩

theorem enrichFunction_range (reconciliations others : List RuntimeReconciliation) (function : QueuedFunction) :
    runtimeMatches others (enrichFunction reconciliations function) = runtimeMatches others function := by
  unfold enrichFunction
  split
  · rfl
  · rfl

end Enrichment

section Runs
variable (tools : Evidence.Tools) (digests : OrchestratorTools) (projects : String → FunctionsFile)

/-- Each function that is discovered next has, once it is enriched, the status of the highest rank in the current evidence. -/
def ReflectsEvidence (disk : StoreDisk) : Prop :=
  ∀ records found enriched, Evidence.loadReconciliation tools disk = .ok records →
    discoverFunctions tools.toStoreTools projects disk = .ok found → enrichStored tools disk found = .ok enriched →
      ∀ item ∈ enriched, HighestRanked (statusesFor records item) item.state.runtimeStatus

/-- The evidence that is to replace the current one lies in every function that is stored with a status. -/
def StillCovered (disk : StoreDisk) (records : List Evidence.Reconciliation) : Prop :=
  ∀ found, discoverFunctions tools.toStoreTools projects disk = .ok found →
    ∀ item ∈ found, item.state.runtimeStatus ≠ none → statusesFor records item ≠ []

/-- When a function is saved with a status, the current evidence lies in every function with the same directory. -/
def CoversSharers (disk : StoreDisk) (saved : QueuedFunction) : Prop :=
  saved.state.runtimeStatus ≠ none → ∀ records found, Evidence.loadReconciliation tools disk = .ok records →
    discoverFunctions tools.toStoreTools projects disk = .ok found →
      ∀ item ∈ found, item.key.dir tools.toStoreTools = saved.key.dir tools.toStoreTools → statusesFor records item ≠ []

/-- The runs of a workspace that starts without statuses: evidence is saved in place of the old one, functions are
discovered and enriched, and any of them are run and saved. The list holds the functions that were enriched last. -/
inductive EnrichmentRun (replaces : StoreDisk → List Evidence.Reconciliation → Prop)
    (saves : StoreDisk → QueuedFunction → Prop) : StoreDisk → List QueuedFunction → Prop
  | start {disk} : (∀ found, discoverFunctions tools.toStoreTools projects disk = .ok found → ∀ item ∈ found,
        item.state.runtimeStatus = none ∧ item.state.key.dir tools.toStoreTools = item.key.dir tools.toStoreTools) →
      EnrichmentRun replaces saves disk []
  | replace {disk queue records path final} : EnrichmentRun replaces saves disk queue → replaces disk records →
      Evidence.saveReconciliation tools records disk = .ok path final → EnrichmentRun replaces saves final []
  | enrich {disk queue found enriched} : EnrichmentRun replaces saves disk queue →
      discoverFunctions tools.toStoreTools projects disk = .ok found → enrichStored tools disk found = .ok enriched →
      EnrichmentRun replaces saves disk enriched
  | persist {disk queue item inputs state final} : EnrichmentRun replaces saves disk queue → item ∈ queue → saves disk item →
      runAndPersist digests inputs item tools.toStoreTools disk = .ok state final → EnrichmentRun replaces saves final queue
  | raised {disk queue item inputs failure final} : EnrichmentRun replaces saves disk queue → item ∈ queue →
      runAndPersist digests inputs item tools.toStoreTools disk = .error failure final → EnrichmentRun replaces saves final queue

/-- What holds between the steps of a run: every stored status belongs to current evidence inside its function. -/
structure EnrichmentKept (disk : StoreDisk) (queue : List QueuedFunction) : Prop where
  own : ∀ found, discoverFunctions tools.toStoreTools projects disk = .ok found →
    ∀ item ∈ found, item.state.key.dir tools.toStoreTools = item.key.dir tools.toStoreTools
  covered : ∀ found, discoverFunctions tools.toStoreTools projects disk = .ok found → ∀ item ∈ found,
    item.state.runtimeStatus ≠ none → ∀ records, Evidence.loadReconciliation tools disk = .ok records → statusesFor records item ≠ []
  queued : ∀ item ∈ queue, item.state.key.dir tools.toStoreTools = item.key.dir tools.toStoreTools ∧
    (∃ target, item.key.dir tools.toStoreTools = .ok target) ∧ ∃ found, discoverFunctions tools.toStoreTools projects disk = .ok found

end Runs

section Steps
variable {tools : Evidence.Tools} {digests : OrchestratorTools} {projects : String → FunctionsFile}
  {disk final : StoreDisk} {queue : List QueuedFunction} {item : QueuedFunction}

/-- The two places that a save of evidence leaves alone: the analysis of the game, and the states of the functions. -/
theorem saveReconciliation_analysis (dir : WorkspacePath) (records : List Evidence.Reconciliation) :
    Maintains (Leaves fun s => fileAt s (dir ++ ["game_analysis.json"])) (Evidence.saveReconciliation tools records) := by
  have schema : Maintains (Leaves fun s => fileAt s (dir ++ ["game_analysis.json"])) (Evidence.ensureSchema tools) := by
    intro s
    rw [Evidence.ensureSchema_run]
    split
    · exact Maintains.lifted _ s
    · exact @atomicWriteJson_leaves dir Evidence.runtimeRoot _ _ Evidence.schemaPath_apart (by decide) (by decide) _ s
  have written : Maintains (Leaves fun s => fileAt s (dir ++ ["game_analysis.json"]))
      (Evidence.writeJson Evidence.reconciliationPath (.arr (records.map Evidence.reconciliationToDict))) := by
    intro s
    rw [Evidence.reconciliationPath, Evidence.writeJson_eq (by decide)]
    exact @atomicWriteJson_leaves dir Evidence.runtimeRoot _ _ (by decide) (by decide) (by decide) _ s
  exact schema.bind fun _ => (Maintains.lifted _).bind fun _ => written.bind fun _ => Maintains.pure _

theorem saveReconciliation_states (records : List Evidence.Reconciliation) (key : FunctionKey) (disk : StoreDisk) :
    key.load tools.toStoreTools (finalState (Evidence.saveReconciliation tools records disk)) = key.load tools.toStoreTools disk := by
  have frame := @Evidence.load_frame tools (.reconciliation records) (.functionState key.module key.function) (by simp [Evidence.Saving.place, Evidence.Place.kind]) disk
  exact map_ok_injective (fun _ _ same => Evidence.Loaded.functionState.inj same) frame

theorem saveFunctionState_evidence (state : FunctionDecompilationState) (disk : StoreDisk) :
    Evidence.loadReconciliation tools (finalState (saveFunctionState tools.toStoreTools state disk)) =
      Evidence.loadReconciliation tools disk := by
  have frame := @Evidence.load_frame tools (.functionState state) .reconciliation (by simp [Evidence.Saving.place, Evidence.Place.kind]) disk
  exact map_ok_injective (fun _ _ same => Evidence.Loaded.reconciliation.inj same) frame

/-- A call keeps the status that the queue has attached. -/
theorem stateToPersist_runtimeStatus {inputs : RunInputs} {state : FunctionDecompilationState}
    (ran : stateToPersist digests inputs item = .ok state) : state.runtimeStatus = item.state.runtimeStatus := by
  by_cases degraded : ∃ added, EndsDegraded digests inputs item added
  · obtain ⟨added, ends⟩ := degraded
    cases ends with
    | unsupported counted =>
      obtain ⟨message, marked⟩ := @stateToPersist_unsupported digests inputs item counted
      cases ran.symm.trans marked
      rfl
    | decompiler counted missing =>
      cases ran.symm.trans (stateToPersist_blocked counted missing)
      rfl
    | backend counted found misses =>
      cases ran.symm.trans (stateToPersist_loop counted found misses.stopped)
      rfl
  · obtain ⟨_, _, attempts, _, _, _, rfl⟩ := stateToPersist_finished (not_exists.mp degraded) ran
    rfl

/-- The disk after a call is the old one, or the one after the save of the state that the call has built. -/
theorem runAndPersist_final (inputs : RunInputs) (store : StoreTools) :
    finalState (runAndPersist digests inputs item store disk) = disk ∨
      ∃ state, stateToPersist digests inputs item = .ok state ∧
        finalState (runAndPersist digests inputs item store disk) = finalState (saveFunctionState store state disk) := by
  cases decided : stateToPersist digests inputs item with
  | error raised =>
    have ended : runAndPersist digests inputs item store disk = .error raised disk := bind_raised (by rw [decided, lifted])
    rw [ended]
    exact Or.inl rfl
  | ok state =>
    have rest : runAndPersist digests inputs item store disk = (saveFunctionState store state >>= fun _ => pure state) disk :=
      bind_after (by rw [decided, lifted])
    refine Or.inr ⟨state, rfl, ?_⟩
    rw [rest]
    cases saved : saveFunctionState store state disk with
    | ok path after =>
      rw [bind_after saved]
      rfl
    | error raised after =>
      rw [bind_raised saved]
      rfl

theorem runAndPersist_evidence (inputs : RunInputs) :
    Evidence.loadReconciliation tools (finalState (runAndPersist digests inputs item tools.toStoreTools disk)) =
      Evidence.loadReconciliation tools disk := by
  obtain same | ⟨state, _, same⟩ := @runAndPersist_final digests disk item inputs tools.toStoreTools
  · rw [same]
  · rw [same, saveFunctionState_evidence]

theorem runAndPersist_analysis (dir : WorkspacePath) (inputs : RunInputs) :
    fileAt (finalState (runAndPersist digests inputs item tools.toStoreTools disk)) (dir ++ ["game_analysis.json"]) =
      fileAt disk (dir ++ ["game_analysis.json"]) := by
  obtain same | ⟨state, _, same⟩ := @runAndPersist_final digests disk item inputs tools.toStoreTools
  · rw [same]
  · rw [same]
    exact saveFunctionState_analysis dir state disk

/-- After a call that saved, every function with the same directory has the new state, and every other one its old state. -/
theorem runAndPersist_loads {inputs : RunInputs} {state : FunctionDecompilationState} {key : FunctionKey} {target : WorkspacePath}
    (own : item.state.key.dir tools.toStoreTools = item.key.dir tools.toStoreTools)
    (ran : runAndPersist digests inputs item tools.toStoreTools disk = .ok state final)
    (located : key.dir tools.toStoreTools = .ok target) :
    (key.dir tools.toStoreTools = item.key.dir tools.toStoreTools ∧ key.load tools.toStoreTools final = .ok (some state)) ∨
      key.load tools.toStoreTools final = key.load tools.toStoreTools disk := by
  obtain ⟨decided, path, saved⟩ := runAndPersist_ok ran
  have dir := stateToPersist_dir own decided
  by_cases same : state.key.dir tools.toStoreTools = .ok target
  · exact Or.inl ⟨by rw [located, ← dir, same], saved_same saved located same⟩
  · exact Or.inr (saved_apart saved located same)

/-- A call that raises leaves what is loaded for each function. -/
theorem runAndPersist_raisedLoads {inputs : RunInputs} {failure : DecompileFailure} {key : FunctionKey} {target own : WorkspacePath}
    (ownLocated : item.state.key.dir tools.toStoreTools = .ok own)
    (same : item.state.key.dir tools.toStoreTools = item.key.dir tools.toStoreTools)
    (ran : runAndPersist digests inputs item tools.toStoreTools disk = .error failure final)
    (located : key.dir tools.toStoreTools = .ok target) :
    key.load tools.toStoreTools final = key.load tools.toStoreTools disk := by
  have ends := @runAndPersist_final digests disk item inputs tools.toStoreTools
  rw [ran] at ends
  obtain rfl | ⟨state, decided, rfl⟩ := ends
  · rfl
  · have stateLocated : state.key.dir tools.toStoreTools = .ok own := by rw [stateToPersist_dir same decided, ← same, ownLocated]
    have effect := saveFunctionState_effect stateLocated disk
    refine FunctionKey.load_congr located effect.schema ?_
    by_cases apart : target = own
    · subst apart
      rcases effect.ended with ⟨_, ⟨path, after, saved⟩, _⟩ | ⟨_, kept⟩
      · have rest : runAndPersist digests inputs item tools.toStoreTools disk =
            (saveFunctionState tools.toStoreTools state >>= fun _ => pure state) disk := bind_after (by rw [decided, lifted])
        rw [rest, bind_after saved] at ran
        cases ran
      · exact kept
    · exact effect.others target apart

/-- Where the analysis and what is loaded are the same, discovery finds the same functions. -/
theorem discoverFunctions_same {store : StoreTools}
    (kept : fileAt final (store.resolve gameAnalysis.dropLast ++ ["game_analysis.json"]) =
      fileAt disk (store.resolve gameAnalysis.dropLast ++ ["game_analysis.json"]))
    (loads : ∀ listed ∈ queue, ∀ target, listed.key.dir store = .ok target → listed.key.load store final = listed.key.load store disk)
    (discovered : discoverFunctions store projects disk = .ok queue) : discoverFunctions store projects final = .ok queue := by
  have same : ∀ listed ∈ queue, listed.key.load store final = listed.key.load store disk := by
    intro listed member
    obtain ⟨target, located⟩ := (discoverFunctions_attached discovered listed member).located
    exact loads listed member target located
  have again := discoverFunctions_again kept (fun listed member => by
    rw [same listed member]
    exact (discoverFunctions_attached discovered listed member).loads) discovered
  rw [again]
  refine congrArg Except.ok ((List.map_congr_left fun listed member => ?_).trans (List.map_id' queue))
  rw [QueuedFunction.shownBy, shownState_congr (same listed member), ← (discoverFunctions_attached discovered listed member).shown]

theorem EnrichmentKept.start (fresh : ∀ found, discoverFunctions tools.toStoreTools projects disk = .ok found → ∀ item ∈ found,
    item.state.runtimeStatus = none ∧ item.state.key.dir tools.toStoreTools = item.key.dir tools.toStoreTools) :
    EnrichmentKept tools projects disk [] where
  own found discovered item member := (fresh found discovered item member).2
  covered found discovered item member status := absurd (fresh found discovered item member).1 status
  queued _ member := by cases member

theorem EnrichmentKept.replace {records : List Evidence.Reconciliation} {path : WorkspacePath}
    (kept : EnrichmentKept tools projects disk queue) (covered : StillCovered tools projects disk records)
    (saved : Evidence.saveReconciliation tools records disk = .ok path final) : EnrichmentKept tools projects final [] := by
  have before : ∀ found, discoverFunctions tools.toStoreTools projects final = .ok found →
      discoverFunctions tools.toStoreTools projects disk = .ok found := by
    intro found discovered
    have analysis := @saveReconciliation_analysis tools (tools.resolve gameAnalysis.dropLast) records disk
    rw [saved] at analysis
    refine discoverFunctions_same analysis.symm (fun listed _ _ _ => ?_) discovered
    have loads := @saveReconciliation_states tools records listed.key disk
    rw [saved] at loads
    exact loads.symm
  refine ⟨fun found discovered => kept.own found (before found discovered), ?_, fun _ member => by cases member⟩
  intro found discovered item member status current loaded
  have stored : Evidence.loadReconciliation tools final = .ok records := by
    exact map_ok_injective (fun _ _ same => Evidence.Loaded.reconciliation.inj same)
      (@Evidence.load_saved tools disk final path (.reconciliation records) saved)
  cases loaded.symm.trans stored
  exact covered found (before found discovered) item member status

theorem EnrichmentKept.enrich {found enriched : List QueuedFunction} (kept : EnrichmentKept tools projects disk queue)
    (discovered : discoverFunctions tools.toStoreTools projects disk = .ok found)
    (ran : enrichStored tools disk found = .ok enriched) : EnrichmentKept tools projects disk enriched := by
  refine ⟨kept.own, kept.covered, ?_⟩
  obtain ⟨records, loaded, _⟩ := bind_ok.mp ran
  rw [enrichStored_ok loaded ran, List.forall_mem_map]
  intro item member
  obtain ⟨key, stateKey⟩ := enrichFunction_keys (records.map (·.located)) item
  rw [key, stateKey]
  exact ⟨kept.own found discovered item member, (discoverFunctions_attached discovered item member).located, found, discovered⟩

theorem EnrichmentKept.persist {inputs : RunInputs} {state : FunctionDecompilationState}
    (kept : EnrichmentKept tools projects disk queue) (member : item ∈ queue) (covers : CoversSharers tools projects disk item)
    (ran : runAndPersist digests inputs item tools.toStoreTools disk = .ok state final) :
    EnrichmentKept tools projects final queue := by
  obtain ⟨own, ⟨target, located⟩, found, discovered⟩ := kept.queued item member
  obtain ⟨decided, path, saved⟩ := runAndPersist_ok ran
  have analysis := @runAndPersist_analysis tools digests disk item (tools.resolve gameAnalysis.dropLast) inputs
  have evidence := @runAndPersist_evidence tools digests disk item inputs
  rw [ran, finalState] at analysis evidence
  have loads : ∀ listed ∈ found, (listed.key.dir tools.toStoreTools = item.key.dir tools.toStoreTools ∧
      listed.key.load tools.toStoreTools final = .ok (some state)) ∨
        listed.key.load tools.toStoreTools final = listed.key.load tools.toStoreTools disk := by
    intro listed member
    obtain ⟨place, located⟩ := (discoverFunctions_attached discovered listed member).located
    exact runAndPersist_loads own ran located
  have again := discoverFunctions_again analysis (fun listed member => by
    rcases loads listed member with ⟨_, new⟩ | old
    · exact ⟨_, new⟩
    · rw [old]
      exact (discoverFunctions_attached discovered listed member).loads) discovered
  have shown : ∀ listed ∈ found, (listed.key.dir tools.toStoreTools = item.key.dir tools.toStoreTools ∧
      listed.shownState tools.toStoreTools final = state) ∨ listed.shownState tools.toStoreTools final = listed.state := by
    intro listed member
    rcases loads listed member with ⟨same, new⟩ | old
    · exact Or.inl ⟨same, by rw [QueuedFunction.shownState, new]⟩
    · exact Or.inr ((shownState_congr old).trans (discoverFunctions_attached discovered listed member).shown.symm)
  refine ⟨?_, ?_, ?_⟩
  · intro now discoveredNow
    cases discoveredNow.symm.trans again
    rw [List.forall_mem_map]
    intro listed member
    rcases shown listed member with ⟨same, new⟩ | old
    · show (listed.shownState tools.toStoreTools final).key.dir tools.toStoreTools = listed.key.dir tools.toStoreTools
      rw [new, same]
      exact stateToPersist_dir own decided
    · show (listed.shownState tools.toStoreTools final).key.dir tools.toStoreTools = listed.key.dir tools.toStoreTools
      rw [old]
      exact kept.own found discovered listed member
  · intro now discoveredNow
    cases discoveredNow.symm.trans again
    rw [List.forall_mem_map]
    intro listed member status records loaded
    rw [evidence] at loaded
    rcases shown listed member with ⟨same, new⟩ | old
    · have carried : item.state.runtimeStatus ≠ none := by
        rw [← stateToPersist_runtimeStatus decided, ← new]
        exact status
      exact covers carried records found loaded discovered listed member same
    · exact kept.covered found discovered listed member (old ▸ status) records loaded
  · intro listed member
    obtain ⟨ownListed, place, _⟩ := kept.queued listed member
    exact ⟨ownListed, place, _, again⟩

theorem EnrichmentKept.raised {inputs : RunInputs} {failure : DecompileFailure}
    (kept : EnrichmentKept tools projects disk queue) (member : item ∈ queue)
    (ran : runAndPersist digests inputs item tools.toStoreTools disk = .error failure final) :
    EnrichmentKept tools projects final queue := by
  obtain ⟨own, ⟨target, located⟩, found, discovered⟩ := kept.queued item member
  have analysis := @runAndPersist_analysis tools digests disk item (tools.resolve gameAnalysis.dropLast) inputs
  have evidence := @runAndPersist_evidence tools digests disk item inputs
  rw [ran, finalState] at analysis evidence
  have again := discoverFunctions_same analysis
    (fun listed _ _ place => runAndPersist_raisedLoads (own.trans located) own ran place) discovered
  refine ⟨?_, ?_, ?_⟩
  · intro now discoveredNow
    cases discoveredNow.symm.trans again
    exact kept.own found discovered
  · intro now discoveredNow
    cases discoveredNow.symm.trans again
    intro listed member status records loaded
    exact kept.covered found discovered listed member status records (evidence ▸ loaded)
  · intro listed member
    obtain ⟨ownListed, place, _⟩ := kept.queued listed member
    exact ⟨ownListed, place, found, again⟩

/-- With sound states under covered statuses, the next enrichment shows the current evidence. -/
theorem EnrichmentKept.reflects (kept : EnrichmentKept tools projects disk queue) : ReflectsEvidence tools projects disk := by
  intro records found enriched loaded discovered ran
  rw [enrichStored_ok loaded ran, List.forall_mem_map]
  intro item member
  rw [statusesFor, enrichFunction_range]
  exact (enrichFunction_highest _ item).mpr fun status => kept.covered found discovered item member status records loaded

theorem EnrichmentRun.kept
    (run : EnrichmentRun tools digests projects (StillCovered tools projects) (CoversSharers tools projects) disk queue) :
    EnrichmentKept tools projects disk queue := by
  induction run with
  | start fresh => exact .start fresh
  | replace _ covered saved ih => exact ih.replace covered saved
  | enrich _ discovered ran ih => exact ih.enrich discovered ran
  | persist _ member covers ran ih => exact ih.persist member covers ran
  | raised _ member ran ih => exact ih.raised member ran

/-- In a run where each new evidence lies in every function that is stored with a status, no status outlives its evidence. -/
theorem EnrichmentRun.reflectsEvidence
    (run : EnrichmentRun tools digests projects (StillCovered tools projects) (CoversSharers tools projects) disk queue) :
    ReflectsEvidence tools projects disk := run.kept.reflects

end Steps

section Sample

def sampleRecord (status : String) : Evidence.Reconciliation where
  staticKind := "function"
  staticAddress := some ⟨"analysis", 0x08804000, some "EBOOT.BIN"⟩
  staticEvidence := []
  runtimeAddress := .runtime 0x08804000
  resolvedModuleOffset := none
  observationCount := 1
  status := status
  conflicts := []

def observedProjects : String → FunctionsFile := sampleProjects [sampleEntry "func_08804000" 0x08804000]

/-- The workspace after the first evidence was saved. -/
def observedWorkspace : StoreDisk :=
  finalState (Evidence.saveReconciliation Evidence.plainTools [sampleRecord "runtime_observed"] analyzedWorkspace)

def observedFound : List QueuedFunction :=
  (discoverFunctions Evidence.plainTools.toStoreTools observedProjects observedWorkspace).toOption.getD []

def observedQueue : List QueuedFunction := (enrichStored Evidence.plainTools observedWorkspace observedFound).toOption.getD []

def observedFunction : QueuedFunction := observedQueue.headD (sampleQueued samplePending)

/-- The workspace after the function was run with its status. -/
def persistedWorkspace : StoreDisk :=
  finalState (runAndPersist sampleDigests exactInputs observedFunction Evidence.plainTools.toStoreTools observedWorkspace)

def replacedWorkspace (records : List Evidence.Reconciliation) : StoreDisk :=
  finalState (Evidence.saveReconciliation Evidence.plainTools records persistedWorkspace)

theorem observedFound_ok :
    discoverFunctions Evidence.plainTools.toStoreTools observedProjects observedWorkspace = .ok observedFound := by
  obtain ⟨found, discovered⟩ : ∃ found,
      discoverFunctions Evidence.plainTools.toStoreTools observedProjects observedWorkspace = .ok found := exists_ok (by decide +kernel)
  rw [observedFound, discovered]
  rfl

theorem observedQueue_ok : enrichStored Evidence.plainTools observedWorkspace observedFound = .ok observedQueue := by
  obtain ⟨enriched, ran⟩ : ∃ enriched, enrichStored Evidence.plainTools observedWorkspace observedFound = .ok enriched :=
    exists_ok (by decide +kernel)
  rw [observedQueue, ran]
  rfl

theorem observedFunction_queued : observedFunction ∈ observedQueue := by
  have listed : observedQueue ≠ [] := List.isEmpty_eq_false_iff.mp (by decide +kernel)
  rw [observedFunction]
  cases queue : observedQueue with
  | nil => exact absurd queue listed
  | cons first rest => exact List.mem_cons_self

/-- One function is observed, enriched and saved, and then the evidence is replaced. -/
theorem sampleEnrichments {replaces : StoreDisk → List Evidence.Reconciliation → Prop} {saves : StoreDisk → QueuedFunction → Prop}
    (records : List Evidence.Reconciliation) (first : replaces analyzedWorkspace [sampleRecord "runtime_observed"])
    (persists : saves observedWorkspace observedFunction) (second : replaces persistedWorkspace records)
    (succeeds : (outcome (Evidence.saveReconciliation Evidence.plainTools records persistedWorkspace)).isOk = true) :
    EnrichmentRun Evidence.plainTools sampleDigests observedProjects replaces saves (replacedWorkspace records) [] := by
  have fresh : ∀ item ∈ ((discoverFunctions Evidence.plainTools.toStoreTools observedProjects analyzedWorkspace).toOption.getD []),
      item.state.runtimeStatus = none ∧ item.state.key.dir Evidence.plainTools.toStoreTools =
        item.key.dir Evidence.plainTools.toStoreTools := by decide +kernel
  have start : EnrichmentRun Evidence.plainTools sampleDigests observedProjects replaces saves analyzedWorkspace [] := by
    refine .start fun found discovered => ?_
    rw [discovered] at fresh
    exact fresh
  obtain ⟨_, observed⟩ := @outcome_isOk _ _ _ (Evidence.saveReconciliation Evidence.plainTools [sampleRecord "runtime_observed"])
    analyzedWorkspace (by decide +kernel)
  obtain ⟨_, persisted⟩ := @outcome_isOk _ _ _ (runAndPersist sampleDigests exactInputs observedFunction Evidence.plainTools.toStoreTools)
    observedWorkspace (by decide +kernel)
  obtain ⟨_, replaced⟩ := outcome_isOk succeeds
  exact .replace (.persist (.enrich (.replace start first observed) observedFound_ok observedQueue_ok)
    observedFunction_queued persists persisted) second replaced

/-- The evidence is replaced by none at all, and the function keeps the status of the old one. -/
theorem supersededStatus_stays : ¬∀ tools digests projects disk queue,
    EnrichmentRun tools digests projects (fun _ _ => True) (fun _ _ => True) disk queue → ReflectsEvidence tools projects disk := by
  intro claim
  have reflects := claim _ _ _ _ _ (sampleEnrichments [] trivial trivial trivial (by decide +kernel))
  have loads : (Evidence.loadReconciliation Evidence.plainTools (replacedWorkspace [])).toOption.map List.isEmpty = some true := by
    decide +kernel
  obtain ⟨records, loaded, empty⟩ := toOption_map_ok loads
  cases List.isEmpty_iff.mp empty
  have statuses : (discoverFunctions Evidence.plainTools.toStoreTools observedProjects (replacedWorkspace [])).toOption.map
      (List.map (·.state.runtimeStatus)) = some [some "runtime_observed"] := by decide +kernel
  obtain ⟨found, discovered, carried⟩ := toOption_map_ok statuses
  have ran : enrichStored Evidence.plainTools (replacedWorkspace []) found = .ok found := by
    rw [enrichStored, loaded]
    rfl
  obtain ⟨item, member, status⟩ : ∃ item ∈ found, item.state.runtimeStatus = some "runtime_observed" :=
    List.mem_map.mp (carried ▸ List.mem_cons_self)
  have highest := reflects [] found found loaded discovered ran item member
  rw [status] at highest
  exact absurd highest.1 List.not_mem_nil

/-- New evidence inside the same function takes the place of the old one. -/
theorem coveredStatus_replaced :
    ReflectsEvidence Evidence.plainTools observedProjects (replacedWorkspace [sampleRecord "runtime_verified"]) := by
  have noStatus : ∀ item ∈
      (discoverFunctions Evidence.plainTools.toStoreTools observedProjects analyzedWorkspace).toOption.getD [],
      item.state.runtimeStatus ≠ none → statusesFor [sampleRecord "runtime_observed"] item ≠ [] := by decide +kernel
  have current : ∀ item ∈ observedFound, statusesFor
      ((Evidence.loadReconciliation Evidence.plainTools observedWorkspace).toOption.getD []) item ≠ [] := by decide +kernel
  have covered : ∀ item ∈
      (discoverFunctions Evidence.plainTools.toStoreTools observedProjects persistedWorkspace).toOption.getD [],
      item.state.runtimeStatus ≠ none → statusesFor [sampleRecord "runtime_verified"] item ≠ [] := by decide +kernel
  refine EnrichmentRun.reflectsEvidence (sampleEnrichments [sampleRecord "runtime_verified"] ?_ ?_ ?_ (by decide +kernel))
  · intro found discovered
    rw [discovered] at noStatus
    exact noStatus
  · intro _ records found loaded discovered item member _
    cases discovered.symm.trans observedFound_ok
    rw [loaded] at current
    exact current item member
  · intro found discovered
    rw [discovered] at covered
    exact covered

end Sample

end PspDisasm
