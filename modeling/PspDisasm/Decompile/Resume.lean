import PspDisasm.Decompile.AttemptLog

namespace PspDisasm
open Foundations

/-- m2c is found, and no variant meets a missing m2c, toolchain or matcher. -/
structure BackendsAvailable (inputs : RunInputs) (command : List String) : Prop where
  found : inputs.m2cCommand = .ok command
  decompile : ∀ variant, inputs.decompile variant ≠ .error .unavailable
  compile : ∀ variant, inputs.compile variant ≠ .error .unavailable
  matching : ∀ variant, inputs.matching variant ≠ .error .unavailable

def RunInputs.unforced (inputs : RunInputs) : RunInputs := { inputs with force := false }

def QueuedFunction.resumed (queued : QueuedFunction) (state : FunctionDecompilationState) : QueuedFunction :=
  { queued with state := state }

section Resume
variable (tools : OrchestratorTools) (inputs : RunInputs) (queued : QueuedFunction)

def defaultVariant : RetryVariant := ⟨"default", [], inputs.target⟩

def contextVariant : RetryVariant := ⟨"with_context", inputs.contexts, inputs.target⟩

/-- A call passes over every variant and returns the state that it was given. -/
structure ResumesFrom (command : List String) (state : FunctionDecompilationState) : Prop where
  skips : ∀ variant ∈ inputs.variants,
    runVariant tools inputs queued command state.attemptHistory variant = .ok .skipped
  returns : runFunction tools inputs queued = .ok state

/-- A call stops at an exact match of the default variant, before the one with contexts, which is not known. -/
structure LeavesVariant (command : List String) : Prop where
  contexts : inputs.contexts ≠ []
  allowed : 2 ≤ inputs.maxAttempts
  due : inputs.force = true ∨ ¬Recorded tools inputs queued command queued.state.attemptHistory (defaultVariant inputs)
  exact : AnswersExact inputs (defaultVariant inputs)
  unknown : ¬Recorded tools inputs queued command queued.state.attemptHistory (contextVariant inputs)
  distinct : variantId tools inputs queued command (contextVariant inputs) ≠
    variantId tools inputs queued command (defaultVariant inputs)

end Resume

section Resume
variable {tools : OrchestratorTools} {inputs : RunInputs} {queued : QueuedFunction} {command : List String}
  {history attempts : List DecompilationAttempt} {variant : RetryVariant} {variants : List RetryVariant}
  {state : FunctionDecompilationState}

theorem variants_cases (inputs : RunInputs) :
    inputs.variants = [defaultVariant inputs, contextVariant inputs] ∧ inputs.contexts ≠ [] ∧ 2 ≤ inputs.maxAttempts ∨
      (inputs.variants = [] ∨ inputs.variants = [defaultVariant inputs]) ∧ (inputs.contexts = [] ∨ inputs.maxAttempts < 2) := by
  have some (count : Nat) : [defaultVariant inputs].take count = [] ∨ [defaultVariant inputs].take count = [defaultVariant inputs] := by
    cases count with
    | zero => exact Or.inl rfl
    | succ count => exact Or.inr (List.take_of_length_le (Nat.le_add_left _ _))
  by_cases none : inputs.contexts = []
  · have single : defaultVariants inputs.contexts inputs.target = [defaultVariant inputs] := by
      rw [defaultVariants, if_pos none]
      rfl
    rw [RunInputs.variants, single]
    exact Or.inr ⟨some _, Or.inl none⟩
  · have two : defaultVariants inputs.contexts inputs.target = [defaultVariant inputs, contextVariant inputs] := by
      rw [defaultVariants, if_neg none]
      rfl
    rw [RunInputs.variants, two]
    by_cases allowed : 2 ≤ inputs.maxAttempts
    · rw [if_pos (by omega), List.take_of_length_le]
      · exact Or.inl ⟨rfl, none, allowed⟩
      · show 2 ≤ inputs.maxAttempts.toNat
        omega
    · refine Or.inr ⟨?_, Or.inr (by omega)⟩
      have short : (if 0 ≤ inputs.maxAttempts then inputs.maxAttempts.toNat else 2 - inputs.maxAttempts.natAbs) ≤ 1 := by
        split
        · omega
        · omega
      have first : (([defaultVariant inputs] ++ [contextVariant inputs]).take _) = _ := List.take_append_of_le_length short
      exact first ▸ some _

theorem BackendsAvailable.runVariant (available : BackendsAvailable inputs command) :
    PspDisasm.runVariant tools inputs queued command attempts variant ≠ .ok .missing := by
  intro ran
  obtain ⟨_, _, cases⟩ := runVariant_case ran
  cases cases with
  | missing lacks =>
    rcases lacks with decompile | compile | matching
    · exact available.decompile variant decompile
    · exact available.compile variant compile
    · exact available.matching variant matching

/-- With all backends, the loop comes to its end. -/
theorem BackendsAvailable.runVariants (available : BackendsAvailable inputs command) {ending : LoopEnd}
    (ran : PspDisasm.runVariants tools inputs queued command history variants = .ok ending) : ending = .finished ending.attempts := by
  induction variants generalizing history with
  | nil =>
    cases ran
    rfl
  | cons variant rest ih =>
    obtain ⟨result, first, later⟩ := bind_ok.mp ran
    cases result with
    | skipped => exact ih later
    | missing => exact absurd first available.runVariant
    | added attempt =>
      by_cases exact : attempt.matchExact = some true
      · simp only [if_pos exact] at later
        cases later
        rfl
      · simp only [if_neg exact] at later
        exact ih later

theorem Recorded.mono (recorded : Recorded tools inputs queued command history variant) (kept : history <+: attempts) :
    Recorded tools inputs queued command attempts variant := by
  obtain ⟨id, identified, known⟩ := recorded
  exact ⟨id, identified, (kept.map _).subset known⟩

/-- What the first of the variants comes to when the loop ends. -/
theorem runVariants_first (ran : runVariants tools inputs queued command history (variant :: variants) = .ok (.finished attempts)) :
    Recorded tools inputs queued command history variant ∧ (inputs.force = true → ¬AnswersExact inputs variant) ∧
        runVariants tools inputs queued command history variants = .ok (.finished attempts) ∨
      ∃ attempt, variantId tools inputs queued command variant = .ok attempt.attemptId ∧
        (inputs.force = true ∨ ¬Recorded tools inputs queued command history variant) ∧
        (AnswersExact inputs variant ∧ attempts = history ++ [attempt] ∨ ¬AnswersExact inputs variant ∧
          runVariants tools inputs queued command (history ++ [attempt]) variants = .ok (.finished attempts)) := by
  obtain ⟨result, first, later⟩ := bind_ok.mp ran
  obtain ⟨id, identified, cases⟩ := runVariant_case first
  cases cases with
  | skipped known unforced => exact Or.inl ⟨⟨id, identified, known⟩, unforced, later⟩
  | missing _ => cases later
  | @added attempt sameId fresh exact =>
    rw [← sameId] at identified fresh
    refine Or.inr ⟨attempt, identified, ?_, ?_⟩
    · by_cases forced : inputs.force = true
      · exact Or.inl forced
      · refine Or.inr fun ⟨other, again, known⟩ => fresh (Bool.not_eq_true _ ▸ forced) ?_
        cases identified.symm.trans again
        exact known
    · by_cases matched : attempt.matchExact = some true
      · simp only [if_pos matched] at later
        cases later
        exact Or.inl ⟨exact.mp matched, rfl⟩
      · simp only [if_neg matched] at later
        exact Or.inr ⟨fun answers => matched (exact.mpr answers), later⟩

theorem recorded_concat {attempt : DecompilationAttempt} :
    Recorded tools inputs queued command (history ++ [attempt]) variant ↔ Recorded tools inputs queued command history variant ∨
      variantId tools inputs queued command variant = .ok attempt.attemptId := by
  simp only [Recorded, List.map_append, List.mem_append, List.map_singleton, List.mem_singleton]
  constructor
  · rintro ⟨id, identified, known | rfl⟩
    · exact Or.inl ⟨id, identified, known⟩
    · exact Or.inr identified
  · rintro (⟨id, identified, known⟩ | identified)
    · exact ⟨id, identified, Or.inl known⟩
    · exact ⟨_, identified, Or.inr rfl⟩

/-- The last variant is recorded, whatever it comes to. -/
theorem runVariants_last (ran : runVariants tools inputs queued command history [variant] = .ok (.finished attempts)) :
    Recorded tools inputs queued command attempts variant := by
  have kept := (runVariants_grows ran).kept
  rcases runVariants_first ran with ⟨recorded, _, _⟩ | ⟨attempt, identified, _, ⟨_, rfl⟩ | ⟨_, rest⟩⟩
  · exact recorded.mono kept
  · exact recorded_concat.mpr (Or.inr identified)
  · cases rest
    exact recorded_concat.mpr (Or.inr identified)

/-- A call records all its variants, unless it stops before the one with contexts. -/
theorem runVariants_records_iff
    (ran : runVariants tools inputs queued command queued.state.attemptHistory inputs.variants = .ok (.finished attempts)) :
    (∀ variant ∈ inputs.variants, Recorded tools inputs queued command attempts variant) ↔
      ¬LeavesVariant tools inputs queued command := by
  rcases variants_cases inputs with ⟨both, contexts, allowed⟩ | ⟨few, limited⟩
  · rw [both] at ran ⊢
    rw [List.forall_mem_cons, List.forall_mem_singleton]
    have kept := (runVariants_grows ran).kept
    rcases runVariants_first ran with ⟨recorded, unforced, rest⟩ | ⟨attempt, identified, due, ⟨exact, rfl⟩ | ⟨inexact, rest⟩⟩
    · refine iff_of_true ⟨recorded.mono kept, runVariants_last rest⟩ fun leaves => ?_
      rcases leaves.due with forced | fresh
      · exact unforced forced leaves.exact
      · exact fresh recorded
    · have default : Recorded tools inputs queued command (queued.state.attemptHistory ++ [attempt]) (defaultVariant inputs) :=
        recorded_concat.mpr (Or.inr identified)
      constructor
      · rintro ⟨_, recorded⟩ leaves
        rcases recorded_concat.mp recorded with known | same
        · exact leaves.unknown known
        · exact leaves.distinct (same.trans identified.symm)
      · intro complete
        refine ⟨default, ?_⟩
        by_contra unrecorded
        rw [recorded_concat, not_or, ← identified] at unrecorded
        exact complete ⟨contexts, allowed, due, exact, unrecorded.1, unrecorded.2⟩
    · have default : Recorded tools inputs queued command attempts (defaultVariant inputs) :=
        Recorded.mono (recorded_concat.mpr (Or.inr identified)) (runVariants_grows rest).kept
      exact iff_of_true ⟨default, runVariants_last rest⟩ fun leaves => inexact leaves.exact
  · refine iff_of_true ?_ fun leaves => ?_
    · rcases few with none | one
      · rw [none]
        exact List.forall_mem_nil _
      · rw [one] at ran ⊢
        exact List.forall_mem_singleton.mpr (runVariants_last ran)
    · rcases limited with none | few
      · exact leaves.contexts none
      · exact absurd leaves.allowed (by omega)

/-- A call with all backends returns what its loop makes of the history. -/
theorem runFunction_finished (available : BackendsAvailable inputs command)
    (ran : runFunction tools inputs queued = .ok state) : ∃ count attempts, inputs.instructionCount = .ok (count + 1) ∧
      runVariants tools inputs queued command queued.state.attemptHistory inputs.variants = .ok (.finished attempts) ∧
      state = finishedState queued attempts := by
  obtain ⟨instructions, counted, rest⟩ := bind_ok.mp ran
  obtain ⟨_, some, rest⟩ := bind_ok.mp rest
  rw [available.found] at rest
  obtain ⟨ending, looped, last⟩ := bind_ok.mp rest
  cases instructions with
  | zero => exact absurd rfl (raiseIf_ok.mp some)
  | succ count =>
    cases loop : runVariants tools inputs queued command queued.state.attemptHistory inputs.variants with
    | error failure =>
      rw [loop] at looped
      cases looped
    | ok other =>
      rw [loop] at looped
      cases looped
      cases last
      have finished := available.runVariants loop
      cases ending with
      | stopped attempts => cases finished
      | finished attempts =>
        refine ⟨count, attempts, ?_, rfl, rfl⟩
        cases given : inputs.instructionCount with
        | error failure =>
          rw [given] at counted
          cases counted
        | ok number =>
          rw [given] at counted
          cases counted
          rfl

/-- With all backends available both times, a second call without force resumes from the state of the first just
when the first has not stopped before the variant with contexts. -/
theorem resumesFrom_iff (available : BackendsAvailable inputs command) (ran : runFunction tools inputs queued = .ok state) :
    ResumesFrom tools inputs.unforced (queued.resumed state) command state ↔
      ¬LeavesVariant tools inputs queued command := by
  obtain ⟨count, attempts, counted, looped, rfl⟩ := runFunction_finished available ran
  rw [← runVariants_records_iff looped]
  constructor
  · intro resumes variant listed
    obtain ⟨id, identified, cases⟩ := runVariant_case (resumes.skips variant listed)
    cases cases with
    | skipped known _ => exact ⟨id, identified, known⟩
  · intro recorded
    refine ⟨fun variant listed => ?_, ?_⟩
    · obtain ⟨id, identified, known⟩ := recorded variant listed
      exact runVariant_known rfl identified known
    · have again : runVariants tools inputs.unforced (queued.resumed (finishedState queued attempts)) command attempts
          inputs.variants = .ok (.finished attempts) := runVariants_recorded rfl recorded
      have loop : runFunction tools inputs.unforced (queued.resumed (finishedState queued attempts)) = _ :=
        runFunction_loop counted available.found
      rw [loop]
      change (runVariants tools inputs.unforced (queued.resumed (finishedState queued attempts)) command attempts
        inputs.variants).mapError RunFailure.other >>= _ = _
      rw [again]
      rfl

end Resume

theorem partial_available : BackendsAvailable (partialInputs "mipsel-gcc-c") ["/usr/bin/m2c"] :=
  ⟨rfl, nofun, nofun, nofun⟩

theorem partial_resumes : ResumesFrom targetDigests (partialInputs "mipsel-gcc-c").unforced
    ((sampleQueued samplePending).resumed samplePartial) ["/usr/bin/m2c"] samplePartial := by
  have ran : runFunction targetDigests (partialInputs "mipsel-gcc-c") (sampleQueued samplePending) = .ok samplePartial := rfl
  refine (resumesFrom_iff partial_available ran).mpr fun leaves => ?_
  obtain ⟨_, same, zero⟩ := leaves.exact.matched
  cases same
  cases zero

/-- The same call with an exact match of the default variant. -/
def exactWithContext : RunInputs := { partialInputs "mipsel-gcc-c" with matching := exactInputs.matching }

def stoppedState : FunctionDecompilationState := returnedState exactWithContext samplePending

/-- The second call compiles the function again, with the contexts. -/
theorem exactWithContext_notResumed : BackendsAvailable exactWithContext ["/usr/bin/m2c"] ∧ exactWithContext.force = false ∧
    runFunction targetDigests exactWithContext (sampleQueued samplePending) = .ok stoppedState ∧
    ¬ResumesFrom targetDigests exactWithContext ((sampleQueued samplePending).resumed stoppedState) ["/usr/bin/m2c"] stoppedState := by
  refine ⟨⟨rfl, nofun, nofun, nofun⟩, rfl, rfl, fun resumes => ?_⟩
  let again := returnedState exactWithContext stoppedState
  have ran : runFunction targetDigests exactWithContext ((sampleQueued samplePending).resumed stoppedState) = .ok again := rfl
  have same : again = stoppedState := Except.ok.inj (ran.symm.trans resumes.returns)
  have longer : again.attempts = 2 := rfl
  have short : stoppedState.attempts = 1 := rfl
  rw [same, short] at longer
  cases longer

end PspDisasm
