import PspDisasm.Decompile.Attempts
import PspDisasm.Decompile.DecompileRuns

namespace PspDisasm
open Foundations

def latestState (start : FunctionDecompilationState) (calls : List (RunInputs × FunctionDecompilationState)) :
    FunctionDecompilationState := (calls.head?.map (·.2)).getD start

/-- Calls of `run_function` on one function that return, newest first, from a state on: what each was given and
the state it returned. It is given the latest state, with the evidence that the queue attaches. -/
inductive FunctionCalls (tools : OrchestratorTools) (start : FunctionDecompilationState) :
    List (RunInputs × FunctionDecompilationState) → Prop
  | start : FunctionCalls tools start []
  | call {calls inputs queued next} : FunctionCalls tools start calls → Queues queued (latestState start calls) →
      runFunction tools inputs queued = .ok next → FunctionCalls tools start ((inputs, next) :: calls)

/-- What a call may make of a history: it stays at the front, and at most `max_attempts` attempts follow it. -/
structure Appends (inputs : RunInputs) (state next : FunctionDecompilationState) : Prop where
  kept : state.attemptHistory <+: next.attemptHistory
  bounded : 0 ≤ inputs.maxAttempts → (next.attemptHistory.length : Int) ≤ state.attemptHistory.length + inputs.maxAttempts

section Calls
variable {tools : OrchestratorTools} {inputs : RunInputs} {queued : QueuedFunction} {start state next : FunctionDecompilationState}
  {calls : List (RunInputs × FunctionDecompilationState)}

theorem variants_length (inputs : RunInputs) (allowed : 0 ≤ inputs.maxAttempts) :
    (inputs.variants.length : Int) ≤ inputs.maxAttempts := by
  have short := List.length_take_le inputs.maxAttempts.toNat (defaultVariants inputs.contexts inputs.target)
  rw [RunInputs.variants, if_pos allowed]
  omega

theorem runFunction_grows (ran : runFunction tools inputs queued = .ok next) :
    Grows (inputs.force = false) inputs.variants.length queued.state.attemptHistory next.attemptHistory := by
  obtain ⟨count, _, rest⟩ := bind_ok.mp ran
  obtain ⟨_, _, rest⟩ := bind_ok.mp rest
  cases found : inputs.m2cCommand with
  | error message =>
    rw [found] at rest
    cases rest
    exact .refl _ _
  | ok command =>
    rw [found] at rest
    obtain ⟨ending, looped, last⟩ := bind_ok.mp rest
    cases last
    cases loop : runVariants tools inputs queued command queued.state.attemptHistory inputs.variants with
    | error failure =>
      rw [loop] at looped
      cases looped
    | ok other =>
      rw [loop] at looped
      cases looped
      have grows := runVariants_grows loop
      cases ending with
      | finished attempts => exact grows
      | stopped attempts => exact grows

theorem runFunction_appends (queues : Queues queued state) (ran : runFunction tools inputs queued = .ok next) :
    Appends inputs state next := by
  have grows := runFunction_grows ran
  rw [queues.history] at grows
  refine ⟨grows.kept, fun allowed => ?_⟩
  have variants := variants_length inputs allowed
  have bounded := grows.bounded
  omega

theorem runFunction_distinct (queues : Queues queued state) (unforced : inputs.force = false)
    (ran : runFunction tools inputs queued = .ok next) (distinct : state.attemptIds.Nodup) : next.attemptIds.Nodup := by
  have grows := runFunction_grows ran
  rw [queues.history] at grows
  exact grows.distinct unforced distinct

/-- Over any calls, each returned history goes on from the one before it, by at most `max_attempts` attempts.
As long as nothing is forced, its identities stay distinct. -/
theorem FunctionCalls.appendOnly (ran : FunctionCalls tools start calls) :
    (∀ inputs next earlier, (inputs, next) :: earlier <:+ calls → Appends inputs (latestState start earlier) next) ∧
      ((∀ call ∈ calls, call.1.force = false) → start.attemptIds.Nodup → ∀ call ∈ calls, call.2.attemptIds.Nodup) := by
  induction ran with
  | start =>
    refine ⟨fun inputs next earlier suffix => ?_, fun _ _ call member => ?_⟩
    · cases List.suffix_nil.mp suffix
    · cases member
  | @call calls given queued returned _ queues last ih =>
    refine ⟨fun inputs next earlier suffix => ?_, fun unforced distinct => ?_⟩
    · rcases List.suffix_cons_iff.mp suffix with same | before
      · cases same
        exact runFunction_appends queues last
      · exact ih.1 inputs next earlier before
    · obtain ⟨now, before⟩ := List.forall_mem_cons.mp unforced
      have earlier := ih.2 before distinct
      refine List.forall_mem_cons.mpr ⟨runFunction_distinct queues now last ?_, earlier⟩
      cases calls with
      | nil => exact distinct
      | cons call calls => exact earlier call List.mem_cons_self

end Calls

/-- Digests that tell the target and the number of contexts apart. -/
def targetDigests : OrchestratorTools :=
  { sampleDigests with attemptId := fun payload => payload.target ++ toString payload.contextSha256.length }

/-- A call with a context file whose attempts match for four fifths. -/
def partialInputs (target : String) : RunInputs :=
  { exactInputs with
    contexts := ["include/psp.h"]
    target := target
    contextSha256 := fun _ => .ok "01ba4719c80b6fe911b091a7c05124b64eeece964e09c058ef8f9805daca546b"
    matching := fun _ => .ok ⟨"metadata/match.json", 20, 100, 80, 1, 1, 0, 0, []⟩ }

def returnedState (inputs : RunInputs) (state : FunctionDecompilationState) : FunctionDecompilationState :=
  (runFunction targetDigests inputs (sampleQueued state)).toOption.getD state

def samplePartial : FunctionDecompilationState := returnedState (partialInputs "mipsel-gcc-c") samplePending

def sampleRetargeted : FunctionDecompilationState := returnedState (partialInputs "mips-ido-c") samplePartial

theorem sampleCalls_run : FunctionCalls targetDigests samplePending
    [(partialInputs "mips-ido-c", sampleRetargeted), (partialInputs "mipsel-gcc-c", samplePartial)] := by
  have first : FunctionCalls targetDigests samplePending [(partialInputs "mipsel-gcc-c", samplePartial)] :=
    .call .start (queues_sample rfl) rfl
  exact .call first (queues_sample rfl) rfl

/-- Two calls for two targets add four attempts. -/
theorem sampleCalls_appendOnly : sampleRetargeted.attemptHistory.length = 4 ∧
    samplePartial.attemptHistory <+: sampleRetargeted.attemptHistory ∧ sampleRetargeted.attemptIds.Nodup := by
  obtain ⟨appends, distinct⟩ := FunctionCalls.appendOnly sampleCalls_run
  refine ⟨rfl, (appends _ _ _ (List.suffix_refl _)).kept, distinct ?_ List.nodup_nil _ List.mem_cons_self⟩
  intro call member
  rcases List.mem_pair.mp member with rfl | rfl
  · rfl
  · rfl

end PspDisasm
