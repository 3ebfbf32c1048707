import PspDisasm.Decompile.Orchestrator
import PspDisasm.Decompile.StoreLaws

namespace PspDisasm
open Foundations

def HasExact (attempts : List DecompilationAttempt) : Prop := ∃ attempt ∈ attempts, attempt.matchExact = some true

/-- The derived fields of a state say what its history says. -/
structure ConsistentState (state : FunctionDecompilationState) : Prop where
  attempts : state.attempts = state.attemptHistory.length
  bestId : state.bestAttemptId = (selectBestAttempt state.attemptHistory).map (·.attemptId)
  bestPercent : state.bestMatchPercent = (selectBestAttempt state.attemptHistory).bind (·.matchSimilarityPercent)
  exact : HasExact state.attemptHistory → state.status = DecompilationStatus.matchedExact.value

section Best
variable {attempts : List DecompilationAttempt}

theorem rank_exact {best attempt : DecompilationAttempt} (exact : attempt.matchExact = some true)
    (notLater : ¬rank attempt < rank best) : best.matchExact = some true := by
  by_contra inexact
  apply notLater
  rw [rank, rank, if_pos exact, if_neg inexact, Prod.Lex.toLex_lt_toLex]
  exact Or.inl Nat.zero_lt_one

/-- With an exact match among the attempts, the best one is exact. -/
theorem selectBestAttempt_exact (exact : HasExact attempts) :
    ∃ best, selectBestAttempt attempts = some best ∧ best.matchExact = some true := by
  obtain ⟨attempt, member, matched⟩ := exact
  cases selected : selectBestAttempt attempts with
  | none =>
    have empty : attempts = [] := List.argmin_eq_none.mp selected
    rw [empty] at member
    cases member
  | some best => exact ⟨best, rfl, rank_exact matched (List.not_lt_of_mem_argmin member selected)⟩

theorem finishedState_consistent (queued : QueuedFunction) (attempts : List DecompilationAttempt) :
    ConsistentState (finishedState queued attempts) := by
  refine ⟨rfl, rfl, rfl, fun exact => ?_⟩
  have inAttempts : HasExact attempts := exact
  obtain ⟨best, selected, matched⟩ := selectBestAttempt_exact inAttempts
  change (statusFromBest (selectBestAttempt attempts)).value = _
  rw [selected, statusFromBest, if_pos matched]

end Best

theorem pending_consistent (module function : String) (address : Int) :
    ConsistentState (.pending module function address) := by
  refine ⟨rfl, rfl, rfl, fun exact => ?_⟩
  obtain ⟨attempt, member, _⟩ := exact
  cases member

section Loop
variable (tools : OrchestratorTools) (inputs : RunInputs) (queued : QueuedFunction)

/-- A loop over these variants, with this history, meets a missing backend when it has added these attempts. -/
inductive MissesBackend (command : List String) :
    List DecompilationAttempt → List RetryVariant → List DecompilationAttempt → Prop
  | here {history variant rest} : runVariant tools inputs queued command history variant = .ok .missing →
      MissesBackend command history (variant :: rest) []
  | skipped {history variant rest added} : runVariant tools inputs queued command history variant = .ok .skipped →
      MissesBackend command history rest added → MissesBackend command history (variant :: rest) added
  | inexact {history variant rest attempt added} : runVariant tools inputs queued command history variant = .ok (.added attempt) →
      attempt.matchExact ≠ some true → MissesBackend command (history ++ [attempt]) rest added →
      MissesBackend command history (variant :: rest) (attempt :: added)

/-- A call ends without one of its tools, or without instructions, when it has added these attempts. -/
inductive EndsDegraded : List DecompilationAttempt → Prop
  | unsupported : inputs.instructionCount = .ok 0 → EndsDegraded []
  | decompiler {count message} : inputs.instructionCount = .ok (count + 1) → inputs.m2cCommand = .error message →
      EndsDegraded []
  | backend {count command added} : inputs.instructionCount = .ok (count + 1) → inputs.m2cCommand = .ok command →
      MissesBackend tools inputs queued command queued.state.attemptHistory inputs.variants added → EndsDegraded added

/-- A call that ends degraded finds no exact match in the history, and what it has added does not change the
identity or the similarity of the best attempt. -/
def HarmlessCall : Prop :=
  ∀ added, EndsDegraded tools inputs queued added →
    ¬HasExact queued.state.attemptHistory ∧
      (selectBestAttempt (queued.state.attemptHistory ++ added)).map (·.attemptId) =
        (selectBestAttempt queued.state.attemptHistory).map (·.attemptId) ∧
      (selectBestAttempt (queued.state.attemptHistory ++ added)).bind (·.matchSimilarityPercent) =
        (selectBestAttempt queued.state.attemptHistory).bind (·.matchSimilarityPercent)

end Loop

section Loop
variable {tools : OrchestratorTools} {inputs : RunInputs} {queued : QueuedFunction} {command : List String}
  {history added attempts : List DecompilationAttempt} {variants : List RetryVariant}

theorem MissesBackend.stopped (misses : MissesBackend tools inputs queued command history variants added) :
    runVariants tools inputs queued command history variants = .ok (.stopped (history ++ added)) := by
  induction misses with
  | here missing =>
    rw [runVariants, missing, List.append_nil]
    rfl
  | skipped skip _ ih =>
    rw [runVariants, skip]
    exact ih
  | inexact adds inexact _ ih =>
    rw [runVariants, adds, ok_bind]
    simp only [if_neg inexact]
    rw [ih, List.append_assoc]
    rfl

theorem MissesBackend.inexact_added (misses : MissesBackend tools inputs queued command history variants added) :
    ¬HasExact added := by
  induction misses with
  | here _ =>
    rintro ⟨attempt, member, _⟩
    cases member
  | skipped _ _ ih => exact ih
  | inexact _ notExact _ ih =>
    rintro ⟨attempt, member, exact⟩
    rcases List.mem_cons.mp member with rfl | later
    · exact notExact exact
    · exact ih ⟨attempt, later, exact⟩

/-- A loop ends at a missing backend or with a history that goes on from the one it started with. -/
theorem runVariants_cases {ending : LoopEnd} (ran : runVariants tools inputs queued command history variants = .ok ending) :
    (∃ added, ending = .stopped (history ++ added) ∧ MissesBackend tools inputs queued command history variants added) ∨
      ∃ added, ending = .finished (history ++ added) := by
  induction variants generalizing history with
  | nil =>
    cases ran
    exact Or.inr ⟨[], by rw [List.append_nil]⟩
  | cons variant rest ih =>
    obtain ⟨result, first, later⟩ := bind_ok.mp ran
    cases result with
    | skipped =>
      rcases ih later with ⟨added, stopped, misses⟩ | finished
      · exact Or.inl ⟨added, stopped, .skipped first misses⟩
      · exact Or.inr finished
    | missing =>
      cases later
      exact Or.inl ⟨[], by rw [List.append_nil], .here first⟩
    | added attempt =>
      by_cases exact : attempt.matchExact = some true
      · simp only [if_pos exact] at later
        cases later
        exact Or.inr ⟨[attempt], rfl⟩
      · simp only [if_neg exact] at later
        rcases ih later with ⟨added, stopped, misses⟩ | ⟨added, finished⟩
        · rw [List.append_assoc] at stopped
          exact Or.inl ⟨attempt :: added, stopped, .inexact first exact misses⟩
        · rw [List.append_assoc] at finished
          exact Or.inr ⟨attempt :: added, finished⟩

/-- What a degraded end makes of a state: it goes on with the old best attempt, and it is not an exact match. -/
structure DegradedState (state : FunctionDecompilationState) (added : List DecompilationAttempt)
    (next : FunctionDecompilationState) : Prop where
  key : next.key = state.key
  history : next.attemptHistory = state.attemptHistory ++ added
  attempts : next.attempts = (state.attemptHistory ++ added).length ∨ added = [] ∧ next.attempts = state.attempts
  bestId : next.bestAttemptId = state.bestAttemptId
  bestPercent : next.bestMatchPercent = state.bestMatchPercent
  status : next.status ≠ DecompilationStatus.matchedExact.value

theorem EndsDegraded.inexact_added (degraded : EndsDegraded tools inputs queued added) : ¬HasExact added := by
  cases degraded with
  | unsupported _ => exact fun exact => absurd exact.choose_spec.1 List.not_mem_nil
  | decompiler _ _ => exact fun exact => absurd exact.choose_spec.1 List.not_mem_nil
  | backend _ _ misses => exact misses.inexact_added

/-- With instructions and a decompiler, a call comes down to the loop over the variants. -/
theorem runFunction_loop {count : Nat} (counted : inputs.instructionCount = .ok (count + 1))
    (found : inputs.m2cCommand = .ok command) : runFunction tools inputs queued =
      ((runVariants tools inputs queued command queued.state.attemptHistory inputs.variants).mapError .other >>=
        fun ending => pure (ending.state queued)) := by
  rw [runFunction, counted, found]
  simp only [Except.mapError, ok_bind, raiseIf, if_neg (Nat.succ_ne_zero count)]

theorem value_ne {status : DecompilationStatus} (other : status ≠ .matchedExact) :
    status.value ≠ DecompilationStatus.matchedExact.value := by
  cases status with
  | matchedExact => exact absurd rfl other
  | _ => decide

theorem stateToPersist_unsupported (counted : inputs.instructionCount = .ok 0) :
    ∃ message, stateToPersist tools inputs queued = .ok (queued.state.marked .unsupported message) := by
  have raised : runFunction tools inputs queued =
      .error (.unsupportedFunction s!"function {tools.reprText queued.function} has no instructions to decompile") := by
    rw [runFunction, counted]
    rfl
  exact ⟨_, by rw [stateToPersist, raised]⟩

theorem stateToPersist_blocked {count : Nat} {message : String} (counted : inputs.instructionCount = .ok (count + 1))
    (missing : inputs.m2cCommand = .error message) :
    stateToPersist tools inputs queued = .ok (queued.state.marked .blocked message) := by
  have blocked : runFunction tools inputs queued = .ok (queued.state.marked .blocked message) := by
    rw [runFunction, counted, missing]
    simp only [Except.mapError, ok_bind, raiseIf, if_neg (Nat.succ_ne_zero count)]
    rfl
  rw [stateToPersist, blocked]

theorem stateToPersist_loop {count : Nat} {ending : LoopEnd} (counted : inputs.instructionCount = .ok (count + 1))
    (found : inputs.m2cCommand = .ok command)
    (looped : runVariants tools inputs queued command queued.state.attemptHistory inputs.variants = .ok ending) :
    stateToPersist tools inputs queued = .ok (ending.state queued) := by
  rw [stateToPersist, runFunction_loop counted found, looped]
  rfl

theorem EndsDegraded.state (degraded : EndsDegraded tools inputs queued added) :
    ∃ next, stateToPersist tools inputs queued = .ok next ∧ DegradedState queued.state added next := by
  cases degraded with
  | unsupported counted =>
    obtain ⟨message, ran⟩ := @stateToPersist_unsupported tools inputs queued counted
    refine ⟨_, ran, ?_⟩
    exact ⟨rfl, (List.append_nil _).symm, Or.inr ⟨rfl, rfl⟩, rfl, rfl, @value_ne .unsupported (by decide)⟩
  | decompiler counted missing =>
    refine ⟨_, stateToPersist_blocked counted missing, ?_⟩
    exact ⟨rfl, (List.append_nil _).symm, Or.inr ⟨rfl, rfl⟩, rfl, rfl, @value_ne .blocked (by decide)⟩
  | backend counted found misses =>
    refine ⟨_, stateToPersist_loop counted found misses.stopped, ?_⟩
    exact ⟨rfl, rfl, Or.inl rfl, rfl, rfl, @value_ne .blocked (by decide)⟩

theorem EndsDegraded.status {next : FunctionDecompilationState} (degraded : EndsDegraded tools inputs queued added)
    (ran : stateToPersist tools inputs queued = .ok next) :
    next.status = DecompilationStatus.blocked.value ∨ next.status = DecompilationStatus.unsupported.value := by
  cases degraded with
  | unsupported counted =>
    obtain ⟨message, marked⟩ := @stateToPersist_unsupported tools inputs queued counted
    cases ran.symm.trans marked
    exact Or.inr rfl
  | decompiler counted missing =>
    cases ran.symm.trans (stateToPersist_blocked counted missing)
    exact Or.inl rfl
  | backend counted found misses =>
    cases ran.symm.trans (stateToPersist_loop counted found misses.stopped)
    exact Or.inl rfl

theorem EndsDegraded.unique {other : List DecompilationAttempt} (degraded : EndsDegraded tools inputs queued added)
    (again : EndsDegraded tools inputs queued other) : added = other := by
  obtain ⟨next, ran, ended⟩ := degraded.state
  obtain ⟨same, ranAgain, endedAgain⟩ := again.state
  cases ran.symm.trans ranAgain
  exact List.append_cancel_left (ended.history.symm.trans endedAgain.history)

/-- A call that saves a state and does not end degraded comes to the end of the loop over the variants. -/
theorem stateToPersist_finished {next : FunctionDecompilationState} (complete : ∀ added, ¬EndsDegraded tools inputs queued added)
    (ran : stateToPersist tools inputs queued = .ok next) : ∃ count command attempts,
      inputs.instructionCount = .ok (count + 1) ∧ inputs.m2cCommand = .ok command ∧
      runVariants tools inputs queued command queued.state.attemptHistory inputs.variants = .ok (.finished attempts) ∧
      next = finishedState queued attempts := by
  cases counted : inputs.instructionCount with
  | error failure =>
    have raised : runFunction tools inputs queued = .error (.other failure) := by
      rw [runFunction, counted]
      rfl
    rw [stateToPersist, raised] at ran
    cases ran
  | ok count =>
    cases count with
    | zero => exact absurd (.unsupported counted) (complete [])
    | succ count =>
      cases found : inputs.m2cCommand with
      | error message => exact absurd (.decompiler counted found) (complete [])
      | ok command =>
        cases loop : runVariants tools inputs queued command queued.state.attemptHistory inputs.variants with
        | error failure =>
          rw [stateToPersist, runFunction_loop counted found, loop] at ran
          cases ran
        | ok ending =>
          cases ran.symm.trans (stateToPersist_loop counted found loop)
          rcases runVariants_cases loop with ⟨added, _, misses⟩ | ⟨added, rfl⟩
          · exact absurd (.backend counted found misses) (complete added)
          · exact ⟨count, command, _, rfl, rfl, loop, rfl⟩

/-- A call that saves a state ends degraded, or it builds the state from a history that goes on from the old one. -/
theorem stateToPersist_cases {next : FunctionDecompilationState} (ran : stateToPersist tools inputs queued = .ok next) :
    (∃ added, EndsDegraded tools inputs queued added ∧ DegradedState queued.state added next) ∨
      (∀ added, ¬EndsDegraded tools inputs queued added) ∧
        ∃ added, next = finishedState queued (queued.state.attemptHistory ++ added) := by
  by_cases degraded : ∃ added, EndsDegraded tools inputs queued added
  · obtain ⟨added, ends⟩ := degraded
    obtain ⟨same, ranSame, state⟩ := ends.state
    cases ran.symm.trans ranSame
    exact Or.inl ⟨added, ends, state⟩
  · have complete := not_exists.mp degraded
    obtain ⟨_, _, attempts, _, _, looped, rfl⟩ := stateToPersist_finished complete ran
    refine Or.inr ⟨complete, ?_⟩
    rcases runVariants_cases looped with ⟨_, stopped, _⟩ | ⟨added, finished⟩
    · cases stopped
    · cases finished
      exact ⟨added, rfl⟩

theorem hasExact_append : HasExact (history ++ added) ↔ HasExact history ∨ HasExact added := by
  simp only [HasExact, List.mem_append, or_and_right, exists_or]

/-- One call on a consistent state leaves a consistent one just when it is harmless. -/
theorem stateToPersist_consistent_iff {next : FunctionDecompilationState} (consistent : ConsistentState queued.state)
    (ran : stateToPersist tools inputs queued = .ok next) : ConsistentState next ↔ HarmlessCall tools inputs queued := by
  rcases stateToPersist_cases ran with ⟨added, degraded, ended⟩ | ⟨complete, added, rfl⟩
  · have length : next.attempts = (queued.state.attemptHistory ++ added).length := by
      rcases ended.attempts with counted | ⟨rfl, same⟩
      · exact counted
      · rw [same, consistent.attempts, List.append_nil]
    constructor
    · intro after other again
      cases degraded.unique again
      refine ⟨fun exact => ?_, ?_, ?_⟩
      · exact ended.status (after.exact (ended.history ▸ hasExact_append.mpr (Or.inl exact)))
      · rw [← ended.history, ← after.bestId, ended.bestId, consistent.bestId]
      · rw [← ended.history, ← after.bestPercent, ended.bestPercent, consistent.bestPercent]
    · intro harmless
      obtain ⟨inexact, sameId, samePercent⟩ := harmless added degraded
      refine ⟨by rw [length, ended.history], ?_, ?_, fun exact => ?_⟩
      · rw [ended.history, sameId, ended.bestId, consistent.bestId]
      · rw [ended.history, samePercent, ended.bestPercent, consistent.bestPercent]
      · rw [ended.history, hasExact_append] at exact
        exact absurd exact (not_or.mpr ⟨inexact, degraded.inexact_added⟩)
  · exact ⟨fun _ other degraded => absurd degraded (complete other), fun _ => finishedState_consistent queued _⟩

/-- No attempt is ever taken out of a history. -/
theorem stateToPersist_history {next : FunctionDecompilationState} (ran : stateToPersist tools inputs queued = .ok next) :
    queued.state.attemptHistory <+: next.attemptHistory := by
  rcases stateToPersist_cases ran with ⟨added, _, ended⟩ | ⟨_, added, rfl⟩
  · rw [ended.history]
    exact List.prefix_append _ added
  · exact List.prefix_append _ added

end Loop

end PspDisasm
