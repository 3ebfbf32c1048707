import PspDisasm.Decompile.Batch

namespace PspDisasm
open Foundations

section Shown
variable (store : StoreTools) (disk : StoreDisk)

/-- The status that a disk shows for a function. Without a file it is pending. -/
def FunctionKey.shownStatus (key : FunctionKey) : String :=
  match key.load store disk with
  | .ok (some state) => state.status
  | _ => DecompilationStatus.pending.value

def QueuedFunction.shownState (item : QueuedFunction) : FunctionDecompilationState :=
  match item.key.load store disk with
  | .ok (some state) => state
  | _ => .pending item.module item.function item.address

/-- The function with the state that a disk shows for it. -/
def QueuedFunction.shownBy (item : QueuedFunction) : QueuedFunction := { item with state := item.shownState store disk }

/-- Every function of a queue has a directory of its own, and the state it has belongs there. -/
structure SoundQueue (store : StoreTools) (queue : List QueuedFunction) : Prop where
  apart : (queue.map fun item => item.key.dir store).Nodup
  own : ∀ item ∈ queue, item.state.key.dir store = item.key.dir store

end Shown

section Shown
variable {store : StoreTools} {disk next : StoreDisk} {item : QueuedFunction}

theorem shownState_status : (item.shownState store disk).status = item.key.shownStatus store disk := by
  unfold QueuedFunction.shownState FunctionKey.shownStatus
  split
  · rfl
  · rfl

theorem Attached.loads (attached : Attached store disk item) : ∃ known, item.key.load store disk = .ok known := by
  obtain ⟨known, loaded, _⟩ := attached
  exact ⟨known, loaded⟩

theorem Attached.shown (attached : Attached store disk item) : item.state = item.shownState store disk := by
  obtain ⟨known, loaded, state⟩ := attached
  have found : item.key.load store disk = .ok known := loaded
  rw [QueuedFunction.shownState, found, state]
  cases known with
  | none => rfl
  | some state => rfl

theorem Attached.status (attached : Attached store disk item) : item.state.status = item.key.shownStatus store disk := by
  rw [attached.shown, shownState_status]

theorem Attached.located (attached : Attached store disk item) : ∃ target, item.key.dir store = .ok target := by
  obtain ⟨known, loaded, _⟩ := attached
  obtain ⟨_, _, rest⟩ := bind_ok.mp loaded
  obtain ⟨target, located, _⟩ := bind_ok.mp rest
  exact ⟨target, located⟩

theorem shownState_congr (same : item.key.load store next = item.key.load store disk) :
    item.shownState store next = item.shownState store disk := by
  rw [QueuedFunction.shownState, QueuedFunction.shownState, same]

theorem shownStatus_congr {key : FunctionKey} (same : key.load store next = key.load store disk) :
    key.shownStatus store next = key.shownStatus store disk := by
  rw [FunctionKey.shownStatus, FunctionKey.shownStatus, same]

/-- A function that is queued again differs only in its state. -/
theorem queueFunction_again {module projectPath : String} {entry : FunctionEntry}
    (loads : ∃ known, item.key.load store next = .ok known)
    (ran : queueFunction store disk module projectPath entry = .ok item) :
    queueFunction store next module projectPath entry = .ok (item.shownBy store next) := by
  obtain ⟨_, _, rest⟩ := bind_ok.mp ran
  obtain ⟨size, sized, rest⟩ := bind_ok.mp rest
  obtain ⟨count, counted, rest⟩ := bind_ok.mp rest
  cases rest
  obtain ⟨known, loaded⟩ := loads
  have again : loadFunctionState store next module entry.name = .ok known := loaded
  rw [queueFunction, again, sized, counted, QueuedFunction.shownBy, QueuedFunction.shownState, loaded]
  cases known with
  | none => rfl
  | some state => rfl

theorem loadGameAnalysisModules_kept {modules : List Fields} (loaded : loadGameAnalysisModules store disk = .ok modules)
    (kept : fileAt next (store.resolve gameAnalysis.dropLast ++ ["game_analysis.json"]) =
      fileAt disk (store.resolve gameAnalysis.dropLast ++ ["game_analysis.json"])) :
    loadGameAnalysisModules store next = .ok modules := by
  have same : next (store.resolve gameAnalysis.dropLast ++ ["game_analysis.json"]) =
      disk (store.resolve gameAnalysis.dropLast ++ ["game_analysis.json"]) := by
    unfold loadGameAnalysisModules at loaded
    unfold fileAt at kept
    cases found : disk (store.resolve gameAnalysis.dropLast ++ ["game_analysis.json"]) with
    | none =>
      rw [found] at loaded
      cases loaded
    | some node =>
      cases node with
      | directory =>
        rw [found] at loaded
        cases loaded
      | file contents =>
        rw [found] at kept
        split at kept
        · cases kept
          assumption
        · cases kept
  rw [← loaded, loadGameAnalysisModules, same]
  rfl

/-- Where the list of modules is the same, discovery finds the same functions, with the states that are there now. -/
theorem discoverFunctions_again {projects : String → FunctionsFile} {queue : List QueuedFunction}
    (kept : fileAt next (store.resolve gameAnalysis.dropLast ++ ["game_analysis.json"]) =
      fileAt disk (store.resolve gameAnalysis.dropLast ++ ["game_analysis.json"]))
    (loads : ∀ item ∈ queue, ∃ known, item.key.load store next = .ok known)
    (discovered : discoverFunctions store projects disk = .ok queue) :
    discoverFunctions store projects next = .ok (queue.map (·.shownBy store next)) := by
  obtain ⟨modules, loaded, rest⟩ := bind_ok.mp discovered
  obtain ⟨named, texts, rest⟩ := bind_ok.mp rest
  obtain ⟨lists, each, rest⟩ := bind_ok.mp rest
  cases rest
  refine bind_ok.mpr ⟨modules, loadGameAnalysisModules_kept loaded kept, bind_ok.mpr ⟨named, texts, ?_⟩⟩
  refine bind_ok.mpr ⟨lists.map (List.map (·.shownBy store next)), mapM_map_of_ok ?_ each, ?_⟩
  · intro module items listed queued
    obtain ⟨projectPath, path, entries⟩ := bind_ok.mp queued
    rw [queueModule, path, ok_bind]
    refine mapM_map_of_ok (fun member found => queueFunction_again ?_ found) entries
    exact loads _ (List.mem_flatten.mpr ⟨items, listed, member⟩)
  · exact congrArg Except.ok List.map_flatten.symm

end Shown

section Batch
variable {tools : OrchestratorTools} {store : StoreTools} {inputsOf : QueuedFunction → RunInputs}
  {queue selected : List QueuedFunction} {disk final : StoreDisk} {states : List FunctionDecompilationState}

/-- An atomic write touches no file of another name, its temporary one apart. -/
theorem atomicWriteJson_leaves {dir target : WorkspacePath} {name last : String} (apart : tempName (target ++ [last]) ≠ target ++ [last])
    (notFile : name ≠ last) (notTemp : name ≠ "." ++ last ++ ".tmp") (value : Json) :
    Maintains (Leaves fun s => fileAt s (dir ++ [name])) (atomicWriteJson (target ++ [last]) value) := by
  intro s
  apply (atomicWriteJson_cases value s apart).1
  rw [List.mem_cons, List.mem_singleton, not_or, tempName_concat]
  exact ⟨concat_ne notTemp, concat_ne notFile⟩

/-- A save leaves the analysis of the game alone. -/
theorem saveFunctionState_analysis (dir : WorkspacePath) (state : FunctionDecompilationState) :
    Maintains (Leaves fun s => fileAt s (dir ++ ["game_analysis.json"])) (saveFunctionState store state) := by
  have schema : Maintains (Leaves fun s => fileAt s (dir ++ ["game_analysis.json"])) (ensureSchema store) := by
    intro s
    rw [ensureSchema_run]
    split
    · exact Maintains.lifted _ s
    · exact atomicWriteJson_leaves schema_apart (by decide) (by decide) _ s
  refine schema.bind fun _ => (Maintains.lifted _).bind fun target => Maintains.bind ?_ fun _ => Maintains.pure _
  exact atomicWriteJson_leaves state_apart (by decide) (by decide) _

theorem runBatch_analysis (dir : WorkspacePath) :
    Maintains (Leaves fun s => fileAt s (dir ++ ["game_analysis.json"])) (runBatch tools store queue inputsOf) := by
  refine Maintains.mapM (fun queued => ?_) queue
  exact (Maintains.lifted _).bind fun state => (saveFunctionState_analysis dir state).bind fun _ => Maintains.pure _

/-- A call saves its state in the directory of the function when the state before it belongs there. -/
theorem stateToPersist_dir {inputs : RunInputs} {queued : QueuedFunction} {state : FunctionDecompilationState}
    (own : queued.state.key.dir store = queued.key.dir store) (ran : stateToPersist tools inputs queued = .ok state) :
    state.key.dir store = queued.key.dir store := by
  rcases stateToPersist_cases ran with ⟨added, _, ended⟩ | ⟨_, added, rfl⟩
  · rw [ended.key, own]
  · rfl

/-- The loop leaves what is loaded for a function in whose directory it saves nothing. -/
theorem runBatch_others {key : FunctionKey} {target : WorkspacePath} (located : key.dir store = .ok target)
    (own : ∀ queued ∈ queue, queued.state.key.dir store = queued.key.dir store)
    (apart : ∀ queued ∈ queue, queued.key.dir store ≠ .ok target)
    (ran : runBatch tools store queue inputsOf disk = .ok states final) : key.load store final = key.load store disk := by
  induction queue generalizing disk states with
  | nil =>
    cases ran
    rfl
  | cons queued queue ih =>
    obtain ⟨state, rest, middle, rfl, first, later⟩ := runBatch_cons ran
    obtain ⟨decided, path, saved⟩ := runAndPersist_ok first
    obtain ⟨ownHere, ownLater⟩ := List.forall_mem_cons.mp own
    obtain ⟨apartHere, apartLater⟩ := List.forall_mem_cons.mp apart
    rw [← stateToPersist_dir ownHere decided] at apartHere
    rw [ih ownLater apartLater later, saved_apart saved located apartHere]

/-- After the loop over functions with directories of their own, the store holds for each what its call returned. -/
theorem runBatch_each (sound : SoundQueue store queue) (ran : runBatch tools store queue inputsOf disk = .ok states final) :
    ∀ queued ∈ queue, ∃ state, stateToPersist tools (inputsOf queued) queued = .ok state ∧
      queued.key.load store final = .ok (some state) := by
  induction queue generalizing disk states with
  | nil => exact List.forall_mem_nil _
  | cons queued queue ih =>
    obtain ⟨state, rest, middle, rfl, first, later⟩ := runBatch_cons ran
    obtain ⟨decided, path, saved⟩ := runAndPersist_ok first
    obtain ⟨ownHere, ownLater⟩ := List.forall_mem_cons.mp sound.own
    have apart := sound.apart
    rw [List.map_cons, List.nodup_cons] at apart
    obtain ⟨target, located⟩ := saved_located saved
    have here : queued.key.dir store = .ok target := stateToPersist_dir ownHere decided ▸ located
    refine List.forall_mem_cons.mpr ⟨⟨state, decided, ?_⟩, ih ⟨apart.2, ownLater⟩ later⟩
    have others : ∀ other ∈ queue, other.key.dir store ≠ .ok target := by
      intro other member same
      exact apart.1 (here ▸ same ▸ List.mem_map_of_mem member)
    rw [runBatch_others here ownLater others later]
    exact saved_same saved here located

end Batch

end PspDisasm
