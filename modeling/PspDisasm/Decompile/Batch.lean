import PspDisasm.Decompile.Attempts
import PspDisasm.Decompile.DecompileRuns
import PspDisasm.Decompile.ProjectReaders
import PspDisasm.Decompile.StoreShape

namespace PspDisasm
open Foundations

/-- m2c is found, and for every variant each of the tools returns a result or fails in its documented way. -/
structure ToolsAnswer (inputs : RunInputs) : Prop where
  found : ∃ command, inputs.m2cCommand = .ok command
  decompile : ∀ variant failure, inputs.decompile variant = .error failure → ∃ message, failure = .failed message
  compile : ∀ variant failure, inputs.compile variant = .error failure → ∃ message, failure = .failed message
  matching : ∀ variant failure, inputs.matching variant = .error failure → ∃ message, failure = .failed message

section Batch
variable (tools : OrchestratorTools) (readers : ReaderTools) (store : StoreTools) (projects : String → FunctionsFile)
  (options : QueuedFunction → RunInputs) (queue : List QueuedFunction)

/-- The loop of `decompile-workspace` over the selected functions. -/
def runBatch (inputsOf : QueuedFunction → RunInputs) : StoreM (List FunctionDecompilationState) :=
  queue.mapM fun queued => runAndPersist tools (inputsOf queued) queued store

/-- The function as the matcher finds it in the project. -/
def resolvedFunction (queued : QueuedFunction) : Except String MatchFunction :=
  resolveMatchFunction readers (functionsPath s!"{store.workspaceDir}/analysis/game_project/{queued.projectDir}")
    (projects queued.projectDir) queued.function

/-- What `run_function` meets for each function of the queue. -/
def queueInputs (queued : QueuedFunction) : RunInputs := projectInputs readers store projects (options queued) queued

/-- The name under which the state of a queued function is saved: its own, or that of the state it has when it has
no instructions. -/
def savedKey (inputs : RunInputs) (queued : QueuedFunction) : FunctionKey :=
  match inputs.instructionCount with
  | .ok 0 => queued.state.key
  | _ => queued.key

/-- The loop returns a state for every function of the queue, and the store holds one that it has returned. -/
def Isolates (inputsOf : QueuedFunction → RunInputs) (disk : StoreDisk) : Prop :=
  ∃ states final, runBatch tools store queue inputsOf disk = .ok states final ∧
    List.Forall₂ (fun queued state => state.key = savedKey (inputsOf queued) queued) queue states ∧
    ∀ queued ∈ queue, ∃ state ∈ states, (savedKey (inputsOf queued) queued).load store final = .ok (some state)

/-- Files for the states of the queue can be written one after the other. -/
def Savable (inputsOf : QueuedFunction → RunInputs) (disk : StoreDisk) : Prop :=
  ∃ paths final, (queue.mapM fun queued =>
    let key := savedKey (inputsOf queued) queued
    saveFunctionState store (.pending key.module key.function queued.address)) disk = .ok paths final

end Batch

section Calls
variable {tools : OrchestratorTools} {inputs : RunInputs} {queued : QueuedFunction} {command : List String}
  {history : List DecompilationAttempt} {variant : RetryVariant} {variants : List RetryVariant}

theorem ToolsAnswer.runOneAttempt (answers : ToolsAnswer inputs) (base : DecompilationAttempt) (variant : RetryVariant) :
    ∃ attempt, runOneAttempt tools inputs base variant = .ok (some attempt) := by
  unfold PspDisasm.runOneAttempt
  cases decompiled : inputs.decompile variant with
  | error failure =>
    obtain ⟨message, rfl⟩ := answers.decompile variant failure decompiled
    exact ⟨_, rfl⟩
  | ok decompilation =>
    cases built : inputs.compile variant with
    | error failure =>
      obtain ⟨message, rfl⟩ := answers.compile variant failure built
      exact ⟨_, rfl⟩
    | ok object =>
      cases matched : inputs.matching variant with
      | error failure =>
        obtain ⟨message, rfl⟩ := answers.matching variant failure matched
        exact ⟨_, rfl⟩
      | ok result => exact ⟨_, rfl⟩

theorem ToolsAnswer.runVariant (answers : ToolsAnswer inputs) {assembly : String} (read : inputs.assemblyText variant = .ok assembly) :
    runVariant tools inputs queued command history variant = .ok .skipped ∨
      ∃ attempt, runVariant tools inputs queued command history variant = .ok (.added attempt) := by
  unfold PspDisasm.runVariant
  cases digests : variant.contexts.mapM inputs.contextSha256 with
  | error reason =>
    dsimp only
    split
    · exact Or.inl rfl
    · exact Or.inr ⟨_, rfl⟩
  | ok contextSha256 =>
    simp only [read, ok_bind]
    split
    · exact Or.inl rfl
    · obtain ⟨attempt, ran⟩ := @ToolsAnswer.runOneAttempt tools inputs answers
        (baseAttempt tools inputs queued command variant contextSha256 (tools.sha256Text assembly)) variant
      exact Or.inr ⟨attempt, by rw [ran]; rfl⟩

/-- When all tools answer, the loop over the variants comes to its end. -/
theorem ToolsAnswer.runVariants (answers : ToolsAnswer inputs) (read : ∀ variant, ∃ assembly, inputs.assemblyText variant = .ok assembly) :
    ∃ attempts, runVariants tools inputs queued command history variants = .ok (.finished attempts) := by
  induction variants generalizing history with
  | nil => exact ⟨history, rfl⟩
  | cons variant rest ih =>
    obtain ⟨assembly, text⟩ := read variant
    rcases @ToolsAnswer.runVariant tools inputs queued command history variant answers assembly text with skipped | ⟨attempt, added⟩
    · rw [PspDisasm.runVariants, skipped]
      exact ih
    · rw [PspDisasm.runVariants, added, ok_bind]
      dsimp only
      split
      · exact ⟨_, rfl⟩
      · exact ih

/-- A function that is found gets a state when all tools answer. -/
theorem ToolsAnswer.stateToPersist (answers : ToolsAnswer inputs) {count : Nat} (counted : inputs.instructionCount = .ok count)
    (read : ∀ variant, ∃ assembly, inputs.assemblyText variant = .ok assembly) :
    ∃ state, stateToPersist tools inputs queued = .ok state ∧ state.key = savedKey inputs queued := by
  cases count with
  | zero =>
    obtain ⟨state, decided, ended⟩ := EndsDegraded.state (@EndsDegraded.unsupported tools inputs queued counted)
    refine ⟨state, decided, ?_⟩
    rw [ended.key, savedKey, counted]
    rfl
  | succ count =>
    obtain ⟨command, found⟩ := answers.found
    obtain ⟨attempts, looped⟩ := @ToolsAnswer.runVariants tools inputs queued command queued.state.attemptHistory
      inputs.variants answers read
    refine ⟨finishedState queued attempts, ?_, ?_⟩
    · rw [PspDisasm.stateToPersist, runFunction_loop counted found, looped]
      rfl
    · rw [savedKey, counted]
      rfl

end Calls

section Projects
variable {tools : OrchestratorTools} {readers : ReaderTools} {store : StoreTools} {projects : String → FunctionsFile}
  {options : QueuedFunction → RunInputs} {queued : QueuedFunction}

theorem projectInputs_count : (queueInputs readers store projects options queued).instructionCount =
    ((resolvedFunction readers store projects queued).map (·.instructions.length)).mapError .other := rfl

theorem onceFound_error {α β : Type} {found : Except String β} {answer : Except ToolFailure α} {failure : ToolFailure}
    (failed : onceFound found answer = .error failure) : (∃ message, failure = .failed message) ∨ answer = .error failure := by
  cases found with
  | error message =>
    cases failed
    exact Or.inl ⟨message, rfl⟩
  | ok _ => exact Or.inr failed

theorem projectInputs_answer (answers : ToolsAnswer (options queued)) :
    ToolsAnswer (queueInputs readers store projects options queued) := by
  refine ⟨answers.found, fun variant failure failed => ?_, answers.compile, fun variant failure failed => ?_⟩
  · rcases onceFound_error failed with unresolved | answered
    · exact unresolved
    · exact answers.decompile variant failure answered
  · rcases onceFound_error failed with unresolved | answered
    · exact unresolved
    · exact answers.matching variant failure answered

/-- A list of functions that the matcher reads gives the orchestrator an assembly text. -/
theorem assemblyTextFor_resolved {path selector : String} {file : FunctionsFile} {function : MatchFunction}
    (found : resolveMatchFunction readers path file selector = .ok function) (other : String) :
    ∃ text, assemblyTextFor readers other file selector = .ok text := by
  obtain ⟨functions, loaded, _⟩ := bind_ok.mp found
  unfold loadFunctions readFunctions at loaded
  split at loaded
  · cases loaded
  · cases loaded
  · exact ⟨_, rfl⟩
  · cases loaded

theorem resolvedFunction_persists (answers : ToolsAnswer (options queued)) {function : MatchFunction}
    (found : resolvedFunction readers store projects queued = .ok function) :
    ∃ state, stateToPersist tools (queueInputs readers store projects options queued) queued = .ok state ∧
      state.key = savedKey (queueInputs readers store projects options queued) queued := by
  have counted : (queueInputs readers store projects options queued).instructionCount = .ok function.instructions.length := by
    rw [projectInputs_count, found]
    rfl
  exact (projectInputs_answer answers).stateToPersist counted fun _ => assemblyTextFor_resolved found _

/-- A function that the matcher does not find raises out of the call. -/
theorem unresolvedFunction_raises {message : String} (missing : resolvedFunction readers store projects queued = .error message) :
    stateToPersist tools (queueInputs readers store projects options queued) queued = .error (.other message) := by
  rw [stateToPersist, runFunction, projectInputs_count, missing]
  rfl

end Projects

section Batch
variable {tools : OrchestratorTools} {readers : ReaderTools} {store : StoreTools} {projects : String → FunctionsFile}
  {options : QueuedFunction → RunInputs} {inputsOf : QueuedFunction → RunInputs} {queue : List QueuedFunction}
  {disk final : StoreDisk} {states : List FunctionDecompilationState} {state : FunctionDecompilationState} {path : WorkspacePath}

theorem saved_located (saved : saveFunctionState store state disk = .ok path final) :
    ∃ target, state.key.dir store = .ok target := by
  obtain ⟨_, _, _, rest⟩ := effect_bind_ok.mp saved
  obtain ⟨target, _, located, _⟩ := effect_bind_ok.mp rest
  exact ⟨target, (lifted_ok.mp located).1⟩

theorem saved_load (saved : saveFunctionState store state disk = .ok path final) :
    state.key.load store final = .ok (some state) := by
  obtain ⟨target, located⟩ := saved_located saved
  exact roundTrips located disk state path final rfl saved

/-- A save is what is loaded for every function that lies in its directory. -/
theorem saved_same (saved : saveFunctionState store state disk = .ok path final) {key : FunctionKey} {target : WorkspacePath}
    (located : key.dir store = .ok target) (ownLocated : state.key.dir store = .ok target) :
    key.load store final = .ok (some state) := by
  have effect := saveFunctionState_effect ownLocated disk
  rcases effect.ended with ⟨valid, _, stored⟩ | ⟨raised, _⟩
  · have schema := effect.schema
    rw [saved] at schema stored
    exact FunctionKey.load_stored located (schema.trans valid) stored
  · exact absurd saved (raised path final)

theorem saved_apart (saved : saveFunctionState store state disk = .ok path final) {key : FunctionKey} {target : WorkspacePath}
    (located : key.dir store = .ok target) (apart : state.key.dir store ≠ .ok target) :
    key.load store final = key.load store disk := by
  obtain ⟨own, ownLocated⟩ := saved_located saved
  have alone := leavesAlone ownLocated located (fun same => apart (same ▸ ownLocated)) disk state rfl
  rw [saved] at alone
  exact alone

/-- A save leaves what is loaded for another function, unless both share a directory. -/
theorem saved_other (saved : saveFunctionState store state disk = .ok path final) {key : FunctionKey} {target : WorkspacePath}
    (located : key.dir store = .ok target) :
    key.load store final = key.load store disk ∨ key.load store final = .ok (some state) := by
  by_cases same : state.key.dir store = .ok target
  · exact Or.inr (saved_same saved located same)
  · exact Or.inl (saved_apart saved located same)

theorem runBatch_cons {queued : QueuedFunction} (ran : runBatch tools store (queued :: queue) inputsOf disk = .ok states final) :
    ∃ state rest middle, states = state :: rest ∧ runAndPersist tools (inputsOf queued) queued store disk = .ok state middle ∧
      runBatch tools store queue inputsOf middle = .ok rest final := by
  unfold runBatch at ran
  rw [List.mapM_cons] at ran
  obtain ⟨state, middle, first, later⟩ := effect_bind_ok.mp ran
  obtain ⟨rest, last, others, done⟩ := effect_bind_ok.mp later
  obtain ⟨rfl, rfl⟩ := effect_pure_ok.mp done
  exact ⟨state, rest, middle, rfl, first, others⟩

/-- What the store holds for a function after the loop is what it held before, or a state that the loop returns. -/
theorem runBatch_load {key : FunctionKey} {target : WorkspacePath} (located : key.dir store = .ok target)
    (ran : runBatch tools store queue inputsOf disk = .ok states final) :
    key.load store final = key.load store disk ∨ ∃ state ∈ states, key.load store final = .ok (some state) := by
  induction queue generalizing disk states with
  | nil =>
    cases ran
    exact Or.inl rfl
  | cons queued queue ih =>
    obtain ⟨state, rest, middle, rfl, first, later⟩ := runBatch_cons ran
    obtain ⟨_, path, saved⟩ := runAndPersist_ok first
    rcases ih later with same | ⟨other, member, loaded⟩
    · rw [same]
      rcases saved_other saved located with kept | replaced
      · exact Or.inl kept
      · exact Or.inr ⟨state, List.mem_cons_self, replaced⟩
    · exact Or.inr ⟨other, List.mem_cons_of_mem _ member, loaded⟩

/-- The store holds a returned state for everything that the loop has saved. -/
theorem runBatch_persists (ran : runBatch tools store queue inputsOf disk = .ok states final) :
    ∀ state ∈ states, ∃ other ∈ states, state.key.load store final = .ok (some other) := by
  induction queue generalizing disk states with
  | nil =>
    cases ran
    exact fun _ member => absurd member List.not_mem_nil
  | cons queued queue ih =>
    obtain ⟨first, rest, middle, rfl, head, later⟩ := runBatch_cons ran
    obtain ⟨_, path, saved⟩ := runAndPersist_ok head
    intro state member
    rcases List.mem_cons.mp member with rfl | inRest
    · obtain ⟨target, located⟩ := saved_located saved
      rcases runBatch_load located later with same | ⟨other, listed, loaded⟩
      · exact ⟨state, List.mem_cons_self, same.trans (saved_load saved)⟩
      · exact ⟨other, List.mem_cons_of_mem _ listed, loaded⟩
    · obtain ⟨other, listed, loaded⟩ := ih later state inRest
      exact ⟨other, List.mem_cons_of_mem _ listed, loaded⟩

theorem runBatch_returned (ran : runBatch tools store queue inputsOf disk = .ok states final) :
    List.Forall₂ (fun queued state => stateToPersist tools (inputsOf queued) queued = .ok state) queue states := by
  induction queue generalizing disk states with
  | nil =>
    cases ran
    exact .nil
  | cons queued queue ih =>
    obtain ⟨first, rest, middle, rfl, head, later⟩ := runBatch_cons ran
    exact .cons (runAndPersist_ok head).1 (ih later)

theorem runBatch_keys (each : ∀ queued ∈ queue, ∃ state, stateToPersist tools (inputsOf queued) queued = .ok state ∧
      state.key = savedKey (inputsOf queued) queued) (ran : runBatch tools store queue inputsOf disk = .ok states final) :
    List.Forall₂ (fun queued state => state.key = savedKey (inputsOf queued) queued) queue states := by
  have returned := runBatch_returned ran
  clear ran
  induction returned with
  | nil => exact .nil
  | cons head _ ih =>
    obtain ⟨⟨state, decided, key⟩, later⟩ := List.forall_mem_cons.mp each
    cases decided.symm.trans head
    exact .cons key (ih later)

/-- The loop goes alike with one that saves a fresh state for each function. -/
theorem runBatch_lockstep (each : ∀ queued ∈ queue, ∃ state, stateToPersist tools (inputsOf queued) queued = .ok state ∧
      state.key = savedKey (inputsOf queued) queued) :
    Lockstep (SameShape store) (runBatch tools store queue inputsOf) (queue.mapM fun queued =>
      let key := savedKey (inputsOf queued) queued
      saveFunctionState store (.pending key.module key.function queued.address)) := by
  refine Lockstep.mapM fun queued member => ?_
  obtain ⟨state, decided, key⟩ := each queued member
  have alike : Lockstep (SameShape store) (saveFunctionState store state >>= fun _ => pure state)
      (saveFunctionState store (.pending (savedKey (inputsOf queued) queued).module
        (savedKey (inputsOf queued) queued).function queued.address) >>= pure) :=
    Lockstep.bind (saveFunctionState_lockstep key) fun _ _ => .pure _ _
  rw [bind_pure] at alike
  intro s t shape
  rw [show runAndPersist tools (inputsOf queued) queued store s = (saveFunctionState store state >>= fun _ => pure state) s from
    bind_after (by rw [decided, lifted])]
  exact alike s t shape

/-- A loop that returns has found every function. -/
theorem Isolates.resolved (isolates : Isolates tools store queue (queueInputs readers store projects options) disk) :
    ∀ queued ∈ queue, (resolvedFunction readers store projects queued).isOk := by
  obtain ⟨states, final, ran, _⟩ := isolates
  intro queued member
  cases found : resolvedFunction readers store projects queued with
  | ok function => rfl
  | error message =>
    obtain ⟨state, _, decided⟩ := forall₂_mem (runBatch_returned ran).flip member
    cases (unresolvedFunction_raises found).symm.trans decided

end Batch

/-- Readers that meet no name that is a number. -/
def asciiReaders : ReaderTools where
  reprText := fun text => s!"'{text}'"
  reprJson := fun _ => "payload"
  int := fun _ _ => none
  isDecimal := fun _ => false
  resolve := id

/-- An entry of a function that returns at once. -/
def sampleEntry (name : String) (address : Int) : Json := .obj [
  ("name", .str name), ("address", .int address), ("size", .int 4), ("section", .str ".text"), ("assembly", .str "jr $ra"),
  ("instruction_count", .int 1), ("instructions", .arr [.obj [("address", .int address), ("word", .int 0x03E00008),
    ("text", .str "jr $ra"), ("valid", .bool true), ("implemented", .bool true)]])]

def sampleProjects (entries : List Json) (path : String) : FunctionsFile :=
  if path = "modules/eboot" then some (.ok (.arr entries)) else none

def sampleOptions (_ : QueuedFunction) : RunInputs := exactInputs

theorem sampleOptions_answer (queued : QueuedFunction) : ToolsAnswer (sampleOptions queued) :=
  ⟨⟨_, rfl⟩, nofun, nofun, nofun⟩

/-- A workspace with one analyzed module. -/
def analyzedWorkspace : StoreDisk :=
  Function.update freshDisk ["analysis", "game_project", "metadata", "game_analysis.json"] (some (.file (.ok (.obj [
    ("modules", .arr [.obj [("path", .str "EBOOT.BIN"), ("status", .str "analyzed"), ("project_path", .str "modules/eboot")]])]))))

def duplicateProjects : String → FunctionsFile :=
  sampleProjects [sampleEntry "duplicate" 0x08804000, sampleEntry "duplicate" 0x08804004, sampleEntry "func_08804008" 0x08804008]

def duplicateQueue : List QueuedFunction :=
  (discoverFunctions asciiTools duplicateProjects analyzedWorkspace).toOption.getD []

end PspDisasm
