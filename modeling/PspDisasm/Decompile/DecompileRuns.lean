import PspDisasm.Decompile.History

namespace PspDisasm
open Foundations

/-- What a caller may hand over for a state: the function of the state, with the runtime and the static evidence
that the queue has attached. -/
structure Queues (queued : QueuedFunction) (state : FunctionDecompilationState) : Prop where
  key : queued.key = state.key
  evidence : ∃ runtime confidence evidence, queued.state = { state with
    runtimeStatus := runtime, staticConfidence := confidence, staticEvidence := evidence }

/-- The runs of calls on one function, from a pending state on: the states that earlier calls have left, newest
first, the disk, and the current state. A call that raises leaves the old state. -/
inductive DecompileRun (store : StoreTools) (tools : OrchestratorTools) (allowed : RunInputs → QueuedFunction → Prop) :
    List FunctionDecompilationState → StoreDisk → FunctionDecompilationState → Prop
  | pending {disk} (module function : String) (address : Int) :
      DecompileRun store tools allowed [] disk (.pending module function address)
  | call {past disk state inputs queued next final} : DecompileRun store tools allowed past disk state →
      Queues queued state → allowed inputs queued →
      runAndPersist tools inputs queued store disk = .ok next final →
      DecompileRun store tools allowed (state :: past) final next
  | raised {past disk state inputs queued failure final} : DecompileRun store tools allowed past disk state →
      Queues queued state → allowed inputs queued →
      runAndPersist tools inputs queued store disk = .error failure final →
      DecompileRun store tools allowed past final state

section Runs
variable {store : StoreTools} {tools : OrchestratorTools} {allowed : RunInputs → QueuedFunction → Prop}
  {inputs : RunInputs} {queued : QueuedFunction} {state next : FunctionDecompilationState}
  {past : List FunctionDecompilationState} {disk final : StoreDisk}

theorem Queues.history (queues : Queues queued state) : queued.state.attemptHistory = state.attemptHistory := by
  obtain ⟨_, _, _, same⟩ := queues.evidence
  rw [same]

theorem Queues.consistent (queues : Queues queued state) (consistent : ConsistentState state) :
    ConsistentState queued.state := by
  obtain ⟨_, _, _, same⟩ := queues.evidence
  rw [same]
  exact ⟨consistent.attempts, consistent.bestId, consistent.bestPercent, consistent.exact⟩

theorem runAndPersist_ok (ran : runAndPersist tools inputs queued store disk = .ok next final) :
    stateToPersist tools inputs queued = .ok next ∧ ∃ path, saveFunctionState store next disk = .ok path final := by
  obtain ⟨state, same, first, rest⟩ := effect_bind_ok.mp ran
  obtain ⟨decided, rfl⟩ := lifted_ok.mp first
  obtain ⟨path, t, saved, done⟩ := effect_bind_ok.mp rest
  obtain ⟨rfl, rfl⟩ := effect_pure_ok.mp done
  exact ⟨decided, path, saved⟩

/-- The history of a state goes on from the history of every earlier one. -/
theorem DecompileRun.history (run : DecompileRun store tools allowed past disk state) :
    ∀ earlier ∈ past, earlier.attemptHistory <+: state.attemptHistory := by
  induction run with
  | pending _ _ _ =>
    intro earlier member
    cases member
  | call _ queues _ ran ih =>
    have grown := stateToPersist_history (runAndPersist_ok ran).1
    rw [queues.history] at grown
    intro earlier member
    rcases List.mem_cons.mp member with rfl | before
    · exact grown
    · exact (ih earlier before).trans grown
  | raised _ _ _ _ ih => exact ih

theorem DecompileRun.consistent_state (run : DecompileRun store tools (HarmlessCall tools) past disk state) :
    ConsistentState state := by
  induction run with
  | pending module function address => exact pending_consistent module function address
  | call _ queues harmless ran ih =>
    exact (stateToPersist_consistent_iff (queues.consistent ih) (runAndPersist_ok ran).1).mpr harmless
  | raised _ _ _ _ ih => exact ih

theorem runAndPersist_save {path : WorkspacePath} (decided : stateToPersist tools inputs queued = .ok next)
    (saved : saveFunctionState store next disk = .ok path final) :
    runAndPersist tools inputs queued store disk = .ok next final := by
  refine (bind_after ?_).trans (bind_after saved)
  rw [decided, lifted]

/-- In a run of harmless calls every state is consistent with its history, and after an exact match every state
is an exact match. -/
theorem DecompileRun.consistentThroughout (run : DecompileRun store tools (HarmlessCall tools) past disk state) :
    ConsistentState state ∧
      ∀ earlier ∈ past, HasExact earlier.attemptHistory → state.status = DecompilationStatus.matchedExact.value := by
  refine ⟨run.consistent_state, fun earlier member exact => ?_⟩
  obtain ⟨attempt, listed, matched⟩ := exact
  exact run.consistent_state.exact ⟨attempt, (run.history earlier member).subset listed, matched⟩

theorem stateToPersist_key (key : queued.key = queued.state.key) (ran : stateToPersist tools inputs queued = .ok next) :
    next.key = queued.key := by
  rcases stateToPersist_cases ran with ⟨added, _, ended⟩ | ⟨_, added, rfl⟩
  · rw [ended.key, key]
  · rfl

theorem Queues.stateKey (queues : Queues queued state) : queued.key = queued.state.key := by
  obtain ⟨_, _, _, same⟩ := queues.evidence
  rw [queues.key, same]
  rfl

theorem DecompileRun.key (run : DecompileRun store tools allowed past disk state) {earlier : FunctionDecompilationState}
    (member : earlier ∈ past) : earlier.key = state.key := by
  induction run with
  | pending _ _ _ => cases member
  | call _ queues _ ran ih =>
    have same := stateToPersist_key queues.stateKey (runAndPersist_ok ran).1
    rw [queues.key] at same
    rcases List.mem_cons.mp member with rfl | before
    · exact same.symm
    · exact (ih before).trans same.symm
  | raised _ _ _ _ ih => exact ih member

/-- A call that raises leaves the function's file as it was. -/
theorem runAndPersist_raised {failure : DecompileFailure} {target : WorkspacePath} (located : queued.key.dir store = .ok target)
    (key : queued.key = queued.state.key) (ran : runAndPersist tools inputs queued store disk = .error failure final) :
    queued.key.load store final = queued.key.load store disk := by
  cases decided : stateToPersist tools inputs queued with
  | error raised =>
    have ended : runAndPersist tools inputs queued store disk = .error raised disk := by
      refine bind_raised ?_
      rw [decided, lifted]
    rw [ended] at ran
    cases ran
    rfl
  | ok next =>
    have nextKey := stateToPersist_key key decided
    rw [← nextKey] at located ⊢
    have effect := saveFunctionState_effect located disk
    have rest : runAndPersist tools inputs queued store disk = (saveFunctionState store next >>= fun _ => pure next) disk := by
      refine bind_after ?_
      rw [decided, lifted]
    rw [rest] at ran
    cases saved : saveFunctionState store next disk with
    | ok path t =>
      rw [bind_after saved] at ran
      cases ran
    | error raised t =>
      rw [bind_raised saved] at ran
      cases ran
      rcases effect.ended with ⟨_, ⟨path, other, ok⟩, _⟩ | ⟨_, same⟩
      · cases saved.symm.trans ok
      · have schema := effect.schema
        rw [saved] at same schema
        exact FunctionKey.load_congr located schema same

/-- After the first call that did not raise, the store gives the current state to the next one. -/
theorem DecompileRun.persisted {target : WorkspacePath} (run : DecompileRun store tools allowed past disk state)
    (located : state.key.dir store = .ok target) (called : past ≠ []) : state.key.load store disk = .ok (some state) := by
  induction run with
  | pending _ _ _ => exact absurd rfl called
  | call _ queues _ ran _ =>
    obtain ⟨_, path, saved⟩ := runAndPersist_ok ran
    exact roundTrips located _ _ _ _ rfl saved
  | raised _ queues _ ran ih =>
    have unchanged := runAndPersist_raised (queues.key ▸ located) queues.stateKey ran
    rw [queues.key, ih located called] at unchanged
    exact unchanged

end Runs

/-- The digests of the texts and bytes of one function's attempt. -/
def sampleDigests : OrchestratorTools where
  reprText := fun text => s!"'{text}'"
  sha256Text := fun _ => "34522ca468ebdbf50e990a335f3a2878cc10f58429c5a71c1e483eda2221eae0"
  sha256Bytes := fun _ => "e3b0c44298fc1c149afbf4c8996fb92427ae41e4649b934ca495991b7852b855"
  attemptId := fun _ => "0bc9f93523915d75"

/-- A call whose only attempt is an exact match. -/
def exactInputs : RunInputs where
  instructionCount := .ok 2
  m2cCommand := .ok ["/usr/bin/m2c"]
  m2cVersion := none
  contexts := []
  target := "mipsel-gcc-c"
  maxAttempts := 2
  force := false
  toolchainName := "external-compiler:/usr/bin/psp-gcc"
  toolchainIdentity := [("kind", .str "external_compiler"), ("compiler", .str "/usr/bin/psp-gcc"),
    ("compiler_sha256", .null), ("flags", .arr [.str "-O2"])]
  hasKnownReferences := false
  contextSha256 := fun _ => .error "No such file or directory"
  assemblyText := fun _ => .ok "jr $ra\nnop\n"
  decompile := fun _ => .ok ⟨"src/nonmatching/func_08804000.0bc9f93523915d75.c", [], []⟩
  compile := fun _ => .ok ⟨"build/nonmatching/func_08804000.0bc9f93523915d75.o",
    "e3b0c44298fc1c149afbf4c8996fb92427ae41e4649b934ca495991b7852b855", []⟩
  matching := fun _ => .ok ⟨"metadata/match.json", 0, 100, 100, 2, 0, 0, 0, []⟩

/-- The same call on a machine without m2c. -/
def withoutDecompiler : RunInputs := { exactInputs with m2cCommand := .error "m2c is required for assisted C decompilation." }

def sampleQueued (state : FunctionDecompilationState) : QueuedFunction where
  module := "EBOOT.BIN"
  projectDir := "modules/eboot"
  function := "func_08804000"
  address := 0x08804000
  size := 8
  instructionCount := 2
  state := state

def samplePending : FunctionDecompilationState := .pending "EBOOT.BIN" "func_08804000" 0x08804000

def sampleMatched : FunctionDecompilationState :=
  (stateToPersist sampleDigests exactInputs (sampleQueued samplePending)).toOption.getD samplePending

theorem sampleMatched_decided : stateToPersist sampleDigests exactInputs (sampleQueued samplePending) = .ok sampleMatched := rfl

theorem sampleDir : functionDir asciiTools "EBOOT.BIN" "func_08804000" =
    .ok ["decompilation", "functions", "EBOOT.BIN", "func_08804000"] := by decide +kernel

theorem queues_sample {state : FunctionDecompilationState} (named : state.key = ⟨"EBOOT.BIN", "func_08804000"⟩) :
    Queues (sampleQueued state) state := ⟨named.symm, _, _, _, rfl⟩

theorem exactInputs_harmless : HarmlessCall sampleDigests exactInputs (sampleQueued samplePending) := by
  intro added degraded
  obtain ⟨next, ran, ended⟩ := degraded.state
  cases sampleMatched_decided.symm.trans ran
  exact absurd rfl ended.status

theorem sampleRun (allowed : RunInputs → QueuedFunction → Prop) (harmless : allowed exactInputs (sampleQueued samplePending)) :
    ∃ disk, DecompileRun asciiTools sampleDigests allowed [samplePending] disk sampleMatched ∧
      HoldsOnly asciiTools ["decompilation", "functions", "EBOOT.BIN", "func_08804000"] disk := by
  obtain ⟨disk, saved, only⟩ := @saveFunctionState_fresh asciiTools sampleMatched _ sampleDir
  exact ⟨disk, .call (.pending "EBOOT.BIN" "func_08804000" 0x08804000) (queues_sample rfl) harmless
    (runAndPersist_save sampleMatched_decided saved), only⟩

theorem exactRun_consistent : ∃ disk, DecompileRun asciiTools sampleDigests (HarmlessCall sampleDigests) [samplePending] disk sampleMatched ∧
    ConsistentState sampleMatched ∧ ∀ earlier ∈ [samplePending], HasExact earlier.attemptHistory →
      sampleMatched.status = DecompilationStatus.matchedExact.value := by
  obtain ⟨disk, run, _⟩ := sampleRun (HarmlessCall sampleDigests) exactInputs_harmless
  exact ⟨disk, run, DecompileRun.consistentThroughout run⟩

/-- A machine without m2c takes the exact match away. -/
theorem withoutDecompiler_forgets : ¬∀ past disk state, DecompileRun asciiTools sampleDigests (fun _ _ => True) past disk state →
    ConsistentState state ∧
      ∀ earlier ∈ past, HasExact earlier.attemptHistory → state.status = DecompilationStatus.matchedExact.value := by
  intro claim
  obtain ⟨disk, run, only⟩ := sampleRun (fun _ _ => True) trivial
  let blocked := sampleMatched.marked .blocked "m2c is required for assisted C decompilation."
  obtain ⟨final, saved, _⟩ := @HoldsOnly.save asciiTools disk blocked _ sampleDir only
  have decided : stateToPersist sampleDigests withoutDecompiler (sampleQueued sampleMatched) = .ok blocked := rfl
  have again := DecompileRun.call run (queues_sample rfl) trivial (runAndPersist_save decided saved)
  have exact : HasExact sampleMatched.attemptHistory := ⟨_, List.mem_cons_self, rfl⟩
  exact absurd ((claim _ _ _ again).1.exact exact) (by decide)

end PspDisasm
