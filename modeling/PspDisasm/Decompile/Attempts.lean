import PspDisasm.Decompile.Orchestrator

namespace PspDisasm
open Foundations

def FunctionDecompilationState.attemptIds (state : FunctionDecompilationState) : List String :=
  state.attemptHistory.map (·.attemptId)

section Ids
variable (tools : OrchestratorTools) (inputs : RunInputs) (queued : QueuedFunction)

/-- The identity of the attempt that a variant comes to. Contexts that cannot be read give the identity of a
placeholder. -/
def variantId (command : List String) (variant : RetryVariant) : Except DecompileFailure String :=
  match variant.contexts.mapM inputs.contextSha256 with
  | .error _ => .ok (baseAttempt tools inputs queued command variant [] "unavailable").attemptId
  | .ok contextSha256 => do
    let assembly ← inputs.assemblyText variant
    return (baseAttempt tools inputs queued command variant contextSha256 (tools.sha256Text assembly)).attemptId

/-- The contexts of a variant can be read, and the tools turn it into an object that is the original. -/
structure AnswersExact (variant : RetryVariant) : Prop where
  read : ∃ digests, variant.contexts.mapM inputs.contextSha256 = .ok digests
  decompiled : ∃ decompilation, inputs.decompile variant = .ok decompilation
  built : ∃ built, inputs.compile variant = .ok built
  matched : ∃ result, inputs.matching variant = .ok result ∧ result.rawScore = 0

/-- One of the tools that a variant needs is missing. -/
def LacksTool (variant : RetryVariant) : Prop :=
  inputs.decompile variant = .error .unavailable ∨ inputs.compile variant = .error .unavailable ∨
    inputs.matching variant = .error .unavailable

/-- What a variant can come to, with the attempts that are known. -/
inductive VariantCase (attempts : List DecompilationAttempt) (variant : RetryVariant) (id : String) : VariantEnd → Prop
  | skipped : id ∈ attempts.map (·.attemptId) → (inputs.force = true → ¬AnswersExact inputs variant) →
      VariantCase attempts variant id .skipped
  | added {attempt} : attempt.attemptId = id → (inputs.force = false → id ∉ attempts.map (·.attemptId)) →
      (attempt.matchExact = some true ↔ AnswersExact inputs variant) → VariantCase attempts variant id (.added attempt)
  | missing : LacksTool inputs variant → VariantCase attempts variant id .missing

/-- The attempt of a variant is among these. -/
def Recorded (command : List String) (attempts : List DecompilationAttempt) (variant : RetryVariant) : Prop :=
  ∃ id, variantId tools inputs queued command variant = .ok id ∧ id ∈ attempts.map (·.attemptId)

end Ids

section Ids
variable {tools : OrchestratorTools} {inputs : RunInputs} {queued : QueuedFunction} {command : List String}
  {attempts : List DecompilationAttempt} {variant : RetryVariant}

/-- An attempt has the identity it was begun with, and it is exact just when all tools answered and the matcher
found no difference. -/
theorem runOneAttempt_added {base attempt : DecompilationAttempt} {digests : List String}
    (read : variant.contexts.mapM inputs.contextSha256 = .ok digests) (fresh : base.matchExact = none)
    (ran : runOneAttempt tools inputs base variant = .ok (some attempt)) :
    attempt.attemptId = base.attemptId ∧ (attempt.matchExact = some true ↔ AnswersExact inputs variant) := by
  have inexact {reached : Option Bool} (none : reached = base.matchExact) (failed : ¬AnswersExact inputs variant) :
      reached = some true ↔ AnswersExact inputs variant := by
    rw [none, fresh]
    exact iff_of_false nofun failed
  unfold runOneAttempt at ran
  cases decompiled : inputs.decompile variant with
  | error failure =>
    have noCandidate : ¬AnswersExact inputs variant := by
      rintro ⟨_, ⟨_, other⟩, _, _⟩
      cases decompiled.symm.trans other
    rw [decompiled] at ran
    cases failure with
    | failed message =>
      cases ran
      exact ⟨rfl, inexact rfl noCandidate⟩
    | _ => cases ran
  | ok decompilation =>
    cases built : inputs.compile variant with
    | error failure =>
      have noObject : ¬AnswersExact inputs variant := by
        rintro ⟨_, _, ⟨_, other⟩, _⟩
        cases built.symm.trans other
      simp only [decompiled, built] at ran
      cases failure with
      | failed message =>
        cases ran
        exact ⟨rfl, inexact rfl noObject⟩
      | _ => cases ran
    | ok object =>
      simp only [decompiled, built] at ran
      cases matched : inputs.matching variant with
      | error failure =>
        have noScore : ¬AnswersExact inputs variant := by
          rintro ⟨_, _, _, _, other, _⟩
          cases matched.symm.trans other
        rw [matched] at ran
        cases failure with
        | failed message =>
          cases ran
          exact ⟨rfl, inexact rfl noScore⟩
        | _ => cases ran
      | ok result =>
        rw [matched] at ran
        cases ran
        refine ⟨rfl, ?_⟩
        simp only [Option.some.injEq, decide_eq_true_eq]
        constructor
        · exact fun zero => ⟨⟨_, read⟩, ⟨_, decompiled⟩, ⟨_, built⟩, result, matched, zero⟩
        · rintro ⟨_, _, _, other, found, zero⟩
          cases matched.symm.trans found
          exact zero

theorem runOneAttempt_missing {base : DecompilationAttempt} (ran : runOneAttempt tools inputs base variant = .ok none) :
    LacksTool inputs variant := by
  unfold runOneAttempt at ran
  split at ran
  · exact Or.inl ‹_›
  · cases ran
  · cases ran
  · split at ran
    · exact Or.inr (Or.inl ‹_›)
    · cases ran
    · cases ran
    · split at ran
      · exact Or.inr (Or.inr ‹_›)
      · cases ran
      · cases ran
      · cases ran

/-- A call of a variant that returns comes to what the identity of its attempt allows. -/
theorem runVariant_case {ending : VariantEnd} (ran : runVariant tools inputs queued command attempts variant = .ok ending) :
    ∃ id, variantId tools inputs queued command variant = .ok id ∧ VariantCase inputs attempts variant id ending := by
  unfold runVariant at ran
  unfold variantId
  cases digests : variant.contexts.mapM inputs.contextSha256 with
  | error reason =>
    rw [digests] at ran
    have unread : ¬AnswersExact inputs variant := by
      intro exact
      obtain ⟨_, read⟩ := exact.read
      cases digests.symm.trans read
    refine ⟨_, rfl, ?_⟩
    cases ran
    split
    · exact .skipped ‹_› fun _ => unread
    · exact .added rfl (fun _ => ‹_›) (iff_of_false nofun unread)
  | ok contextSha256 =>
    rw [digests] at ran
    obtain ⟨assembly, read, rest⟩ := bind_ok.mp ran
    refine ⟨_, by rw [read]; rfl, ?_⟩
    dsimp only at rest
    split at rest
    · rename_i known
      cases rest
      exact .skipped known.1 fun forced => absurd forced known.2
    · rename_i due
      obtain ⟨result, attempted, last⟩ := bind_ok.mp rest
      cases result with
      | none =>
        cases last
        exact .missing (runOneAttempt_missing attempted)
      | some attempt =>
        cases last
        obtain ⟨sameId, exact⟩ := runOneAttempt_added digests rfl attempted
        refine .added sameId (fun unforced known => due ⟨known, ?_⟩) exact
        rw [unforced]
        nofun

/-- A variant whose attempt is known is passed over, unless attempts are forced. -/
theorem runVariant_known {id : String} (unforced : inputs.force = false)
    (identified : variantId tools inputs queued command variant = .ok id) (known : id ∈ attempts.map (·.attemptId)) :
    runVariant tools inputs queued command attempts variant = .ok .skipped := by
  unfold variantId at identified
  unfold runVariant
  cases digests : variant.contexts.mapM inputs.contextSha256 with
  | error reason =>
    rw [digests] at identified
    cases identified
    exact congrArg Except.ok (if_pos known)
  | ok contextSha256 =>
    rw [digests] at identified
    obtain ⟨assembly, read, rest⟩ := bind_ok.mp identified
    cases rest
    simp only [read, ok_bind, unforced]
    exact if_pos ⟨known, nofun⟩

end Ids

def LoopEnd.attempts : LoopEnd → List DecompilationAttempt
  | .finished attempts => attempts
  | .stopped attempts => attempts

/-- What the attempts of a loop over this many variants are to the ones it started with. -/
structure Grows (unforced : Prop) (count : Nat) (history attempts : List DecompilationAttempt) : Prop where
  kept : history <+: attempts
  bounded : attempts.length ≤ history.length + count
  distinct : unforced → (history.map (·.attemptId)).Nodup → (attempts.map (·.attemptId)).Nodup

section Loop
variable {tools : OrchestratorTools} {inputs : RunInputs} {queued : QueuedFunction} {command : List String}
  {history attempts : List DecompilationAttempt} {variant : RetryVariant} {variants : List RetryVariant}

theorem Grows.refl (unforced : Prop) (count : Nat) : Grows unforced count history history :=
  ⟨List.prefix_refl history, Nat.le_add_right _ _, fun _ distinct => distinct⟩

theorem Grows.later {unforced : Prop} {count : Nat} (grows : Grows unforced count history attempts) :
    Grows unforced (count + 1) history attempts :=
  ⟨grows.kept, grows.bounded.trans (by omega), grows.distinct⟩

theorem Grows.cons {unforced : Prop} {count : Nat} {attempt : DecompilationAttempt}
    (fresh : unforced → attempt.attemptId ∉ history.map (·.attemptId))
    (grows : Grows unforced count (history ++ [attempt]) attempts) : Grows unforced (count + 1) history attempts := by
  refine ⟨(List.prefix_append _ _).trans grows.kept, ?_, fun mode distinct => grows.distinct mode ?_⟩
  · have bounded := grows.bounded
    rw [List.length_append, List.length_singleton] at bounded
    omega
  · rw [List.map_append, List.map_singleton, ← List.concat_eq_append]
    exact distinct.concat (fresh mode)

/-- Whatever the variants come to, the loop appends at most one attempt for each of them. Unless attempts are
forced, no identity is appended twice. -/
theorem runVariants_grows {ending : LoopEnd} (ran : runVariants tools inputs queued command history variants = .ok ending) :
    Grows (inputs.force = false) variants.length history ending.attempts := by
  induction variants generalizing history with
  | nil =>
    cases ran
    exact .refl _ _
  | cons variant rest ih =>
    obtain ⟨result, first, later⟩ := bind_ok.mp ran
    obtain ⟨id, _, cases⟩ := runVariant_case first
    cases cases with
    | skipped _ _ => exact (ih later).later
    | missing _ =>
      cases later
      exact .refl _ _
    | @added attempt sameId fresh _ =>
      rw [← sameId] at fresh
      by_cases exact : attempt.matchExact = some true
      · simp only [if_pos exact] at later
        cases later
        exact .cons fresh (.refl _ _)
      · simp only [if_neg exact] at later
        exact .cons fresh (ih later)

/-- When all the attempts are known, the loop leaves everything as it is. -/
theorem runVariants_recorded (unforced : inputs.force = false)
    (recorded : ∀ variant ∈ variants, Recorded tools inputs queued command history variant) :
    runVariants tools inputs queued command history variants = .ok (.finished history) := by
  induction variants with
  | nil => rfl
  | cons variant rest ih =>
    obtain ⟨⟨id, identified, known⟩, later⟩ := List.forall_mem_cons.mp recorded
    rw [runVariants, runVariant_known unforced identified known, ok_bind]
    exact ih later

end Loop

end PspDisasm
