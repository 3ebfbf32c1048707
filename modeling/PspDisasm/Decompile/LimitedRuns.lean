import PspDisasm.Decompile.Rediscovery
import PspDisasm.Decompile.Selection
import PspDisasm.Foundations.LimitedRounds

namespace PspDisasm
open Foundations

section Conclusions

/-- The best of the attempts, if there is one, is exact, or it has neither a similarity nor a candidate. -/
def Decided (attempts : List DecompilationAttempt) : Prop :=
  ∀ best, selectBestAttempt attempts = some best →
    best.matchExact = some true ∨ best.matchSimilarityPercent = none ∧ best.candidateSha256 = none

/-- A call ends degraded, or with a best attempt that leaves no candidate to improve. -/
def Concludes (tools : OrchestratorTools) (inputs : RunInputs) (queued : QueuedFunction) : Prop :=
  (∃ added, EndsDegraded tools inputs queued added) ∨ ∃ count command attempts,
    inputs.instructionCount = .ok (count + 1) ∧ inputs.m2cCommand = .ok command ∧
    runVariants tools inputs queued command queued.state.attemptHistory inputs.variants = .ok (.finished attempts) ∧
    Decided attempts

def isOpen (status : String) : Bool := status ∉ doneStatuses

def isFresh (status : String) : Bool := status = DecompilationStatus.pending.value

variable {tools : OrchestratorTools} {inputs : RunInputs} {queued : QueuedFunction} {attempts : List DecompilationAttempt}
  {state : FunctionDecompilationState}

theorem isOpen_of_isFresh (status : String) (fresh : isFresh status = true) : isOpen status = true := by
  rw [isFresh, decide_eq_true_iff] at fresh
  rw [fresh]
  decide

theorem statusFromBest_open : isOpen (statusFromBest (selectBestAttempt attempts)).value = false ↔ Decided attempts := by
  unfold Decided
  cases selectBestAttempt attempts with
  | none =>
    refine iff_of_true (by decide) fun best impossible => ?_
    cases impossible
  | some best =>
    rw [statusFromBest]
    by_cases exact : best.matchExact = some true
    · rw [if_pos exact]
      exact iff_of_true (by decide) fun _ same => Or.inl (Option.some.inj same ▸ exact)
    · rw [if_neg exact]
      have inexact : (∀ other, some best = some other → other.matchExact = some true ∨
          other.matchSimilarityPercent = none ∧ other.candidateSha256 = none) ↔
          best.matchSimilarityPercent = none ∧ best.candidateSha256 = none := by
        simp [exact]
      rw [inexact]
      cases best.matchSimilarityPercent with
      | some similarity =>
        rw [Option.isSome_some, if_pos rfl]
        exact iff_of_false (by decide) (by simp)
      | none =>
        rw [Option.isSome_none, if_neg Bool.false_ne_true]
        cases best.candidateSha256 with
        | some candidate =>
          rw [Option.isSome_some, if_pos rfl]
          exact iff_of_false (by decide) (by simp)
        | none => exact iff_of_true (by decide) ⟨rfl, rfl⟩

theorem statusFromBest_attempted : isFresh (statusFromBest (selectBestAttempt attempts)).value = false := by
  unfold statusFromBest
  split
  · decide
  · split
    · decide
    · split
      · decide
      · split
        · decide
        · decide

theorem stateToPersist_attempted (ran : stateToPersist tools inputs queued = .ok state) : isFresh state.status = false := by
  rcases stateToPersist_cases ran with ⟨added, degraded, _⟩ | ⟨_, added, rfl⟩
  · rcases degraded.status ran with blocked | unsupported
    · rw [blocked]
      decide
    · rw [unsupported]
      decide
  · exact statusFromBest_attempted

/-- The calls after which a function needs no more work are those that conclude. -/
theorem concludes_iff (ran : stateToPersist tools inputs queued = .ok state) :
    Concludes tools inputs queued ↔ isOpen state.status = false := by
  by_cases degraded : ∃ added, EndsDegraded tools inputs queued added
  · refine iff_of_true (Or.inl degraded) ?_
    obtain ⟨added, ends⟩ := degraded
    rcases ends.status ran with blocked | unsupported
    · rw [blocked]
      decide
    · rw [unsupported]
      decide
  · obtain ⟨count, command, attempts, counted, found, looped, rfl⟩ := stateToPersist_finished (not_exists.mp degraded) ran
    refine Iff.trans ?_ statusFromBest_open.symm
    constructor
    · rintro (ends | ⟨_, other, others, _, foundOther, loopedOther, decided⟩)
      · exact absurd ends degraded
      · cases found.symm.trans foundOther
        cases looped.symm.trans loopedOther
        exact decided
    · intro decided
      exact Or.inr ⟨count, command, attempts, counted, found, looped, decided⟩

end Conclusions

section Selected
variable {command : WorkspaceCommand} {limit : Nat} {queue selected : List QueuedFunction} {item : QueuedFunction}
  {disk : StoreDisk}

theorem enrichFunction_cases (reconciliations : List RuntimeReconciliation) (item : QueuedFunction) :
    ∃ runtime, enrichFunction reconciliations item = { item with state := { item.state with runtimeStatus := runtime } } := by
  unfold enrichFunction
  split
  · exact ⟨item.state.runtimeStatus, rfl⟩
  · exact ⟨_, rfl⟩

@[simp] theorem enrichFunction_key (reconciliations : List RuntimeReconciliation) (item : QueuedFunction) :
    (enrichFunction reconciliations item).key = item.key := by
  obtain ⟨runtime, same⟩ := enrichFunction_cases reconciliations item
  rw [same]
  rfl

@[simp] theorem enrichFunction_stateKey (reconciliations : List RuntimeReconciliation) (item : QueuedFunction) :
    (enrichFunction reconciliations item).state.key = item.state.key := by
  obtain ⟨runtime, same⟩ := enrichFunction_cases reconciliations item
  rw [same]
  rfl

@[simp] theorem enrichFunction_status (reconciliations : List RuntimeReconciliation) (item : QueuedFunction) :
    (enrichFunction reconciliations item).state.status = item.state.status := by
  obtain ⟨runtime, same⟩ := enrichFunction_cases reconciliations item
  rw [same]

/-- The functions that a limited run works through, in their order. -/
def WorkspaceCommand.ordered (command : WorkspaceCommand) (queue : List QueuedFunction) : List QueuedFunction :=
  sortByPriority command.store.casefold
    ((enrichWithRuntimeEvidence command.reconciliations queue).filter fun item => isOpen item.state.status)

theorem selected_take (discovered : command.discover disk = .ok queue)
    (selection : command.selected (.limited limit) disk = .ok selected) : selected = (command.ordered queue).take limit := by
  rw [WorkspaceCommand.selected, discovered, ok_bind] at selection
  cases selection
  rfl

theorem ordered_perm (command : WorkspaceCommand) (queue : List QueuedFunction) : (command.ordered queue).Perm
    ((queue.map (enrichFunction command.reconciliations)).filter fun item => isOpen item.state.status) :=
  List.perm_insertionSort _ _

theorem ordered_origin (member : item ∈ command.ordered queue) :
    ∃ origin ∈ queue, enrichFunction command.reconciliations origin = item :=
  List.mem_map.mp (List.mem_of_mem_filter ((ordered_perm command queue).mem_iff.mp member))

theorem ordered_keys (attached : ∀ item ∈ queue, Attached command.store disk item) :
    ((command.ordered queue).map (·.key)).Perm
      ((queue.map (·.key)).filter fun key => isOpen (key.shownStatus command.store disk)) := by
  refine ((ordered_perm command queue).map _).trans (List.Perm.of_eq ?_)
  rw [List.filter_map, List.filter_map, List.map_map]
  have sameOpen : queue.filter ((fun item => isOpen item.state.status) ∘ enrichFunction command.reconciliations) =
      queue.filter ((fun key => isOpen (key.shownStatus command.store disk)) ∘ (·.key)) := by
    refine List.filter_congr fun item member => ?_
    rw [Function.comp_apply, Function.comp_apply, enrichFunction_status, (attached item member).status]
  rw [sameOpen]
  exact List.map_congr_left fun item _ => enrichFunction_key command.reconciliations item

theorem ordered_sound (sound : SoundQueue command.store queue) : SoundQueue command.store ((command.ordered queue).take limit) := by
  refine ⟨?_, fun item taken => ?_⟩
  · have dirs : ((queue.map (enrichFunction command.reconciliations)).map fun item => item.key.dir command.store) =
        queue.map fun item => item.key.dir command.store := by
      rw [List.map_map]
      exact List.map_congr_left fun item _ => congrArg (·.dir command.store) (enrichFunction_key _ item)
    have apart := dirs ▸ sound.apart
    have filtered := apart.sublist (List.Sublist.map _ (List.filter_sublist (p := fun item => isOpen item.state.status)))
    exact (((ordered_perm command queue).map _).nodup_iff.mpr filtered).sublist (List.Sublist.map _ (List.take_sublist _ _))
  · obtain ⟨origin, member, rfl⟩ := ordered_origin (List.mem_of_mem_take taken)
    rw [enrichFunction_key, enrichFunction_stateKey]
    exact sound.own origin member

end Selected

section Runs
variable (command : WorkspaceCommand) (limit : Nat)

/-- A function that was never attempted is not among the selected ones. -/
def LeavesOut (queue selected : List QueuedFunction) : Prop :=
  ∃ item ∈ queue, item.state.status = DecompilationStatus.pending.value ∧ item.key ∉ selected.map (·.key)

/-- If a function that was never attempted is left out, every selected function concludes. -/
def Concluding (queue selected : List QueuedFunction) : Prop :=
  LeavesOut queue selected → ∀ item ∈ selected, Concludes command.digests (command.inputsOf item) item

/-- Commands with the same limit, inputs and tools, one after the other: what they have selected, newest first, and
the workspace after them. Between them nothing changes that discovery sees. -/
inductive LimitedRuns (allowed : List QueuedFunction → List QueuedFunction → Prop) (start : StoreDisk) :
    List (List QueuedFunction) → StoreDisk → Prop
  | start : LimitedRuns allowed start [] start
  | run {past disk queue selected states final next} : LimitedRuns allowed start past disk →
      command.discover disk = .ok queue → command.selected (.limited limit) disk = .ok selected → allowed queue selected →
      command.run (.limited limit) disk = .ok states final → command.discover next = command.discover final →
      LimitedRuns allowed start (selected :: past) next

/-- Some function of the workspace was never attempted. -/
def Remaining (disk : StoreDisk) : Prop :=
  ∃ queue, command.discover disk = .ok queue ∧ ∃ item ∈ queue, item.state.status = DecompilationStatus.pending.value

/-- As long as a function was never attempted, the next command selects none that was selected before. Enough
commands select everything that was pending at the start. -/
structure MakesProgress (queue : List QueuedFunction) (past : List (List QueuedFunction)) (disk : StoreDisk) : Prop where
  unrepeated : ∀ again, Remaining command disk → command.selected (.limited limit) disk = .ok again →
    ∀ earlier ∈ past, ∀ item ∈ earlier, item.key ∉ again.map (·.key)
  covers : queue.length ≤ past.length * limit → ∀ item ∈ queue, item.state.status = DecompilationStatus.pending.value →
    ∃ earlier ∈ past, item.key ∈ earlier.map (·.key)

end Runs

section Runs
variable {command : WorkspaceCommand} {limit : Nat} {queue selected current : List QueuedFunction}
  {states : List FunctionDecompilationState} {item : QueuedFunction} {start disk final next : StoreDisk}
  {past : List (List QueuedFunction)}

/-- What a run leaves in the store: what the calls have returned, and what was there of all other functions. -/
structure RunEffect (command : WorkspaceCommand) (queue selected : List QueuedFunction) (disk final : StoreDisk) : Prop where
  each : ∀ item ∈ selected, ∃ state, stateToPersist command.digests (command.inputsOf item) item = .ok state ∧
    item.key.load command.store final = .ok (some state)
  others : ∀ item ∈ queue, item.key ∉ selected.map (·.key) →
    item.key.load command.store final = item.key.load command.store disk
  analysis : fileAt final (command.store.resolve gameAnalysis.dropLast ++ ["game_analysis.json"]) =
    fileAt disk (command.store.resolve gameAnalysis.dropLast ++ ["game_analysis.json"])

theorem run_effect (discovered : command.discover disk = .ok queue) (sound : SoundQueue command.store queue)
    (selection : command.selected (.limited limit) disk = .ok selected)
    (ran : command.run (.limited limit) disk = .ok states final) : RunEffect command queue selected disk final := by
  obtain ⟨_, _, looked, rest⟩ := effect_bind_ok.mp ran
  obtain ⟨rfl, rfl⟩ := effect_get_ok.mp looked
  obtain ⟨again, _, given, batch⟩ := effect_bind_ok.mp rest
  obtain ⟨same, rfl⟩ := lifted_ok.mp given
  cases selection.symm.trans same
  have taken := selected_take discovered selection
  have soundTaken : SoundQueue command.store selected := taken ▸ ordered_sound sound
  refine ⟨runBatch_each soundTaken batch, fun item member unselected => ?_, (runBatch_analysis _).ok batch⟩
  obtain ⟨target, located⟩ := (discoverFunctions_attached discovered item member).located
  refine runBatch_others located soundTaken.own (fun queued inSelected same => unselected ?_) batch
  rw [taken] at inSelected
  obtain ⟨origin, listed, rfl⟩ := ordered_origin (List.mem_of_mem_take inSelected)
  rw [enrichFunction_key, ← located] at same
  have one : origin = item := List.inj_on_of_nodup_map sound.apart listed member same
  rw [taken, ← one, ← enrichFunction_key command.reconciliations origin]
  exact List.mem_map_of_mem inSelected

theorem RunEffect.loads (effect : RunEffect command queue selected disk final) (discovered : command.discover disk = .ok queue) :
    ∀ item ∈ queue, ∃ known, item.key.load command.store final = .ok known := by
  intro item member
  by_cases inSelected : item.key ∈ selected.map (·.key)
  · obtain ⟨other, listed, same⟩ := List.mem_map.mp inSelected
    obtain ⟨state, _, loaded⟩ := effect.each other listed
    exact ⟨some state, same ▸ loaded⟩
  · rw [effect.others item member inSelected]
    exact (discoverFunctions_attached discovered item member).loads

/-- The queue after a run. -/
theorem RunEffect.discover (effect : RunEffect command queue selected disk final)
    (discovered : command.discover disk = .ok queue) :
    command.discover final = .ok (queue.map (·.shownBy command.store final)) :=
  discoverFunctions_again effect.analysis (effect.loads discovered) discovered

theorem RunEffect.sound (effect : RunEffect command queue selected disk final) (discovered : command.discover disk = .ok queue)
    (sound : SoundQueue command.store queue) (soundTaken : SoundQueue command.store selected) :
    SoundQueue command.store (queue.map (·.shownBy command.store final)) := by
  refine ⟨?_, fun later member => ?_⟩
  · rw [List.map_map]
    exact sound.apart
  · obtain ⟨item, listed, rfl⟩ := List.mem_map.mp member
    show (item.shownState command.store final).key.dir command.store = item.key.dir command.store
    by_cases inSelected : item.key ∈ selected.map (·.key)
    · obtain ⟨other, taken, same⟩ := List.mem_map.mp inSelected
      obtain ⟨state, decided, loaded⟩ := effect.each other taken
      have shown : item.shownState command.store final = state := by
        rw [QueuedFunction.shownState, ← same, loaded]
      rw [shown, ← same]
      exact stateToPersist_dir (soundTaken.own other taken) decided
    · rw [shownState_congr (effect.others item listed inSelected),
        ← (discoverFunctions_attached discovered item listed).shown]
      exact sound.own item listed

/-- The statuses of a queue are those that its workspace shows, also after a change that discovery does not see. -/
theorem shownStatus_next (discovered : command.discover final = .ok (queue.map (·.shownBy command.store final)))
    (same : command.discover next = command.discover final) (member : item ∈ queue) :
    item.key.shownStatus command.store next = item.key.shownStatus command.store final := by
  have attached := discoverFunctions_attached (same.trans discovered) (item.shownBy command.store final)
    (List.mem_map_of_mem member)
  have status : (item.shownState command.store final).status = item.key.shownStatus command.store next := attached.status
  rw [← status, shownState_status]

/-- The next command meets a selected function with the status that its call has returned. -/
theorem RunEffect.status (effect : RunEffect command queue selected disk final) (discovered : command.discover disk = .ok queue)
    (taken : selected = (command.ordered queue).take limit) (same : command.discover next = command.discover final) :
    ∀ item ∈ selected, ∃ state, stateToPersist command.digests (command.inputsOf item) item = .ok state ∧
      item.key.shownStatus command.store next = state.status := by
  intro item member
  obtain ⟨state, decided, loaded⟩ := effect.each item member
  obtain ⟨origin, listed, key⟩ := ordered_origin (List.mem_of_mem_take (taken ▸ member))
  have sameKey : origin.key = item.key := by rw [← key, enrichFunction_key]
  have later := shownStatus_next (effect.discover discovered) same listed
  rw [sameKey] at later
  refine ⟨state, decided, later.trans ?_⟩
  rw [FunctionKey.shownStatus, loaded]

/-- A workspace between two commands is one between two rounds of the functions that the first one has found. -/
structure FollowsRounds (command : WorkspaceCommand) (limit : Nat) (queue : List QueuedFunction) (start : StoreDisk)
    (past : List (List QueuedFunction)) (disk : StoreDisk) (current : List QueuedFunction) : Prop where
  discovered : command.discover disk = .ok current
  sound : SoundQueue command.store current
  keys : current.map (·.key) = queue.map (·.key)
  rounds : Rounds (queue.map (·.key)) limit isOpen isFresh (FunctionKey.shownStatus command.store start)
    (past.map (List.map (·.key))) (FunctionKey.shownStatus command.store disk)

theorem FollowsRounds.run (follows : FollowsRounds command limit queue start past disk current)
    (selection : command.selected (.limited limit) disk = .ok selected) (concluding : Concluding command current selected)
    (ran : command.run (.limited limit) disk = .ok states final) (same : command.discover next = command.discover final) :
    FollowsRounds command limit queue start (selected :: past) next (current.map (·.shownBy command.store final)) := by
  have discovered := follows.discovered
  have attached := discoverFunctions_attached discovered
  have taken := selected_take discovered selection
  have effect := run_effect discovered follows.sound selection ran
  have statuses := effect.status discovered taken same
  have takenKeys : selected.map (·.key) = ((command.ordered current).map (·.key)).take limit := by
    rw [taken, List.map_take]
  have order := @ordered_keys command current disk attached
  rw [follows.keys] at order
  refine ⟨same.trans (effect.discover discovered), ?_, ?_, ?_⟩
  · exact effect.sound discovered follows.sound (taken ▸ ordered_sound follows.sound)
  · rw [List.map_map, ← follows.keys]
    rfl
  · rw [List.map_cons, takenKeys]
    refine .round follows.rounds order ?_ ?_ ?_
    · intro key listed untaken
      rw [← follows.keys] at listed
      obtain ⟨item, member, rfl⟩ := List.mem_map.mp listed
      rw [shownStatus_next (effect.discover discovered) same member]
      exact shownStatus_congr (effect.others item member (takenKeys ▸ untaken))
    · intro key inTaken
      obtain ⟨item, member, rfl⟩ := List.mem_map.mp (takenKeys ▸ inTaken)
      obtain ⟨state, decided, status⟩ := statuses item member
      rw [status]
      exact stateToPersist_attempted decided
    · intro ⟨other, listed, untaken, fresh⟩ key inTaken
      rw [← follows.keys] at listed
      obtain ⟨left, memberLeft, rfl⟩ := List.mem_map.mp listed
      have pending : left.state.status = DecompilationStatus.pending.value := by
        rw [(attached left memberLeft).status]
        exact of_decide_eq_true fresh
      obtain ⟨item, member, rfl⟩ := List.mem_map.mp (takenKeys ▸ inTaken)
      obtain ⟨state, decided, status⟩ := statuses item member
      rw [status]
      exact (concludes_iff decided).mp (concluding ⟨left, memberLeft, pending, takenKeys ▸ untaken⟩ item member)

/-- Limited runs in which the selected functions conclude are rounds. -/
theorem LimitedRuns.rounds (discovered : command.discover start = .ok queue) (sound : SoundQueue command.store queue)
    (runs : LimitedRuns command limit (Concluding command) start past disk) :
    ∃ current, FollowsRounds command limit queue start past disk current := by
  induction runs with
  | start => exact ⟨queue, discovered, sound, rfl, .start⟩
  | run _ found selection concluding ran same ih =>
    obtain ⟨current, follows⟩ := ih
    cases found.symm.trans follows.discovered
    exact ⟨_, follows.run selection concluding ran same⟩

/-- Over limited runs each of which lets every selected function conclude, if it leaves out one that was never
attempted, the commands make progress. -/
theorem limitedRuns_progress (discovered : command.discover start = .ok queue) (sound : SoundQueue command.store queue)
    (runs : LimitedRuns command limit (Concluding command) start past disk) : MakesProgress command limit queue past disk := by
  obtain ⟨current, follows⟩ := runs.rounds discovered sound
  have attached := discoverFunctions_attached follows.discovered
  refine ⟨fun again remaining selection earlier inPast item member selected => ?_, fun enough item member pending => ?_⟩
  · obtain ⟨other, found, left, listed, pending⟩ := remaining
    cases found.symm.trans follows.discovered
    have fresh : isFresh (left.key.shownStatus command.store disk) = true := by
      rw [← (attached left listed).status, pending]
      decide
    have inQueue : left.key ∈ queue.map (·.key) := follows.keys ▸ List.mem_map_of_mem listed
    have closed := follows.rounds.closed ⟨left.key, inQueue, fresh⟩ _ (List.mem_map_of_mem inPast) _ (List.mem_map_of_mem member)
    rw [selected_take follows.discovered selection, List.map_take] at selected
    have opened := List.of_mem_filter ((ordered_keys attached).mem_iff.mp (List.mem_of_mem_take selected))
    rw [closed] at opened
    cases opened
  · have fresh : isFresh (item.key.shownStatus command.store start) = true := by
      rw [← (discoverFunctions_attached discovered item member).status, pending]
      decide
    have long : (queue.map (·.key)).length ≤ (past.map (List.map (·.key))).length * limit := by
      rw [List.length_map, List.length_map]
      exact enough
    obtain ⟨keys, inPast, taken⟩ := follows.rounds.covers isOpen_of_isFresh long (List.mem_map_of_mem member) fresh
    obtain ⟨earlier, listed, rfl⟩ := List.mem_map.mp inPast
    exact ⟨earlier, listed, taken⟩

end Runs

/-- A command on a workspace with two functions of one size. -/
def sampleCommand (inputs : RunInputs) : WorkspaceCommand :=
  let projects := sampleProjects [sampleEntry "func_08804000" 0x08804000, sampleEntry "func_08804004" 0x08804004]
  { digests := sampleDigests
    readers := asciiReaders
    store := asciiTools
    projects := projects
    reconciliations := []
    inputsOf := queueInputs asciiReaders asciiTools projects fun _ => inputs }

def sampleDiscovered : List QueuedFunction := ((sampleCommand exactInputs).discover analyzedWorkspace).toOption.getD []

theorem sampleDiscovered_found (inputs : RunInputs) : (sampleCommand inputs).discover analyzedWorkspace = .ok sampleDiscovered := by
  obtain ⟨queue, found⟩ : ∃ queue, (sampleCommand exactInputs).discover analyzedWorkspace = .ok queue :=
    exists_ok (by decide +kernel)
  have same : (sampleCommand inputs).discover analyzedWorkspace = .ok queue := found
  rw [sampleDiscovered, found, same]
  rfl

theorem sampleDiscovered_sound : SoundQueue asciiTools sampleDiscovered := by
  refine ⟨?_, ?_⟩
  · decide +kernel
  · decide +kernel

def sampleSelected : List QueuedFunction :=
  ((sampleCommand exactInputs).selected (.limited 1) analyzedWorkspace).toOption.getD []

theorem sampleSelected_found (inputs : RunInputs) :
    (sampleCommand inputs).selected (.limited 1) analyzedWorkspace = .ok sampleSelected := by
  obtain ⟨queue, found⟩ : ∃ queue, (sampleCommand exactInputs).selected (.limited 1) analyzedWorkspace = .ok queue :=
    exists_ok (by decide +kernel)
  have same : (sampleCommand inputs).selected (.limited 1) analyzedWorkspace = .ok queue := found
  rw [sampleSelected, found, same]
  rfl

theorem sampleSelected_concludes : ∀ item ∈ sampleSelected, Concludes sampleDigests ((sampleCommand exactInputs).inputsOf item) item := by
  have matched : ∀ item ∈ sampleSelected,
      (stateToPersist sampleDigests ((sampleCommand exactInputs).inputsOf item) item).toOption.map (·.status) =
        some "matched_exact" := by decide +kernel
  intro item member
  obtain ⟨state, decided, status⟩ := toOption_map_ok (matched item member)
  rw [concludes_iff decided, status]
  decide

/-- The first function comes to an exact match, and the next command goes on with the second. -/
theorem exactFirst_progress : ∃ final, LimitedRuns (sampleCommand exactInputs) 1 (Concluding (sampleCommand exactInputs))
      analyzedWorkspace [sampleSelected] final ∧
    MakesProgress (sampleCommand exactInputs) 1 sampleDiscovered [sampleSelected] final := by
  obtain ⟨states, ended⟩ : ∃ states, outcome ((sampleCommand exactInputs).run (.limited 1) analyzedWorkspace) = .ok states :=
    exists_ok (by decide +kernel)
  obtain ⟨final, ran⟩ := outcome_ok.mp ended
  have runs : LimitedRuns (sampleCommand exactInputs) 1 (Concluding (sampleCommand exactInputs)) analyzedWorkspace
      [sampleSelected] final :=
    .run .start (sampleDiscovered_found _) (sampleSelected_found _) (fun _ => sampleSelected_concludes) ran rfl
  exact ⟨final, runs, limitedRuns_progress (sampleDiscovered_found _) sampleDiscovered_sound runs⟩

/-- A call whose only attempt matches for four fifths. -/
def partialMatch : RunInputs := { exactInputs with matching := fun _ => .ok ⟨"metadata/match.json", 20, 100, 80, 1, 1, 0, 0, []⟩ }

def afterPartial : StoreDisk := finalState ((sampleCommand partialMatch).run (.limited 1) analyzedWorkspace)

/-- The first function matches in part, and the next command selects it again instead of the pending one. -/
theorem partialFirst_repeated : ¬∀ command limit queue start past disk, 0 < limit → command.discover start = .ok queue →
    SoundQueue command.store queue → LimitedRuns command limit (fun _ _ => True) start past disk →
    MakesProgress command limit queue past disk := by
  intro claim
  let command := sampleCommand partialMatch
  obtain ⟨states, ended⟩ : ∃ states, outcome (command.run (.limited 1) analyzedWorkspace) = .ok states :=
    exists_ok (by decide +kernel)
  obtain ⟨final, ran⟩ := outcome_ok.mp ended
  have after : final = afterPartial := by rw [afterPartial, ran, finalState]
  rw [after] at ran
  have runs : LimitedRuns command 1 (fun _ _ => True) analyzedWorkspace [sampleSelected] afterPartial :=
    .run .start (sampleDiscovered_found _) (sampleSelected_found _) trivial ran rfl
  have progress := claim command 1 _ _ _ _ Nat.one_pos (sampleDiscovered_found _) sampleDiscovered_sound runs
  have statuses : (command.discover afterPartial).toOption.map (List.map (·.state.status)) =
      some ["matched_partial", "pending"] := by decide +kernel
  have keys : (command.selected (.limited 1) afterPartial).toOption.map (List.map (·.key)) =
      some [⟨"EBOOT.BIN", "func_08804000"⟩] := by decide +kernel
  have earlierKeys : sampleSelected.map (·.key) = [⟨"EBOOT.BIN", "func_08804000"⟩] := by decide +kernel
  obtain ⟨queue, discovered, queueStatuses⟩ := toOption_map_ok statuses
  obtain ⟨again, selection, againKeys⟩ := toOption_map_ok keys
  have listed : "pending" ∈ queue.map (·.state.status) := by
    rw [queueStatuses]
    exact List.mem_cons_of_mem _ List.mem_cons_self
  obtain ⟨left, member, pending⟩ := List.mem_map.mp listed
  have selected : (⟨"EBOOT.BIN", "func_08804000"⟩ : FunctionKey) ∈ sampleSelected.map (·.key) := by
    rw [earlierKeys]
    exact List.mem_cons_self
  obtain ⟨item, inSelected, key⟩ := List.mem_map.mp selected
  refine progress.unrepeated again ⟨queue, discovered, left, member, pending⟩ selection _ List.mem_cons_self item inSelected ?_
  rw [key, againKeys]
  exact List.mem_cons_self

end PspDisasm
