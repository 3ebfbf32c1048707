import Mathlib.Data.List.MinMax
import Mathlib.Data.Prod.Lex
import Mathlib.Data.String.Basic
import PspDisasm.Decompile.Queue

namespace PspDisasm
open Foundations

inductive AttemptOutcome
  | decompiled
  | decompilationFailed
  | buildFailed
  | matchFailed
  | matchedPartial
  | matchedExact
deriving DecidableEq, Repr

def AttemptOutcome.value : AttemptOutcome → String
  | .decompiled => "decompiled"
  | .decompilationFailed => "decompilation_failed"
  | .buildFailed => "build_failed"
  | .matchFailed => "match_failed"
  | .matchedPartial => "matched_partial"
  | .matchedExact => "matched_exact"

structure RetryVariant where
  reason : String
  contexts : List String
  target : String

def defaultVariants (contexts : List String) (target : String) : List RetryVariant :=
  ⟨"default", [], target⟩ :: if contexts = [] then [] else [⟨"with_context", contexts, target⟩]

/-- What the identity of an attempt is the digest of. -/
structure AttemptPayload where
  function : String
  address : Int
  assemblySha256 : String
  contextSha256 : List String
  m2cCommand : List String
  m2cVersion : Option String
  target : String
  toolchainIdentity : Dict String Json

/-- How a tool ends that gives no result: it is missing, it failed, or another exception left it. -/
inductive ToolFailure
  | unavailable
  | failed (message : String)
  | raised (failure : DecompileFailure)

structure DecompilationResult where
  outputPath : String
  output : Bytes
  warnings : List String

structure BuildResult where
  outputPath : String
  objectSha256 : String
  diagnostics : List String

structure MatchResult where
  metadataPath : String
  rawScore : Int
  maxScore : Int
  similarityPercent : Rat
  matchingRows : Int
  changedRows : Int
  addedRows : Int
  removedRows : Int
  warnings : List String

/-- The standard library around the orchestrator: `repr` of a text, SHA-256 of texts and of bytes, and the first
digits of the one of the canonical text of a payload. -/
structure OrchestratorTools where
  reprText : String → String
  sha256Text : String → String
  sha256Bytes : Bytes → String
  attemptId : AttemptPayload → String

/-- What one call of the orchestrator is given and what it meets: its options, the project's files as it reads
them, and what the decompiler, the compiler and the matcher answer for each variant. -/
structure RunInputs where
  instructionCount : Except DecompileFailure Nat
  m2cCommand : Except String (List String)
  m2cVersion : Option String
  contexts : List String
  target : String
  maxAttempts : Int
  force : Bool
  toolchainName : String
  toolchainIdentity : Dict String Json
  hasKnownReferences : Bool
  contextSha256 : String → Except String String
  assemblyText : RetryVariant → Except DecompileFailure String
  decompile : RetryVariant → Except ToolFailure DecompilationResult
  compile : RetryVariant → Except ToolFailure BuildResult
  matching : RetryVariant → Except ToolFailure MatchResult

section Best

/-- The tuples by which attempts are compared. -/
abbrev Rank := ℕ ×ₗ ℚ ×ₗ ℤ ×ₗ String

instance rankOrder : LinearOrder Rank :=
  @Prod.Lex.instLinearOrder ℕ _ Nat.instLinearOrder
    (@Prod.Lex.instLinearOrder ℚ _ Rat.linearOrder (@Prod.Lex.instLinearOrder ℤ String Int.instLinearOrder inferInstance))

/-- Exact before partial, then the higher similarity, the fewer differing rows, and the identity. -/
def rank (attempt : DecompilationAttempt) : Rank :=
  toLex (if attempt.matchExact = some true then 0 else 1,
    toLex (-(attempt.matchSimilarityPercent.getD (-1)),
      toLex (attempt.changedRows.getD 0 + attempt.addedRows.getD 0 + attempt.removedRows.getD 0, attempt.attemptId)))

/-- `min(attempts, key=_rank)`: the first of the attempts with the lowest rank. -/
def selectBestAttempt (attempts : List DecompilationAttempt) : Option DecompilationAttempt :=
  @List.argmin _ Rank rankOrder.toPreorder rankOrder.toDecidableLT rank attempts

def statusFromBest : Option DecompilationAttempt → DecompilationStatus
  | none => .blocked
  | some best =>
    if best.matchExact = some true then .matchedExact
    else if best.matchSimilarityPercent.isSome then .matchedPartial
    else if best.candidateSha256.isSome then .buildFailed
    else .blocked

end Best

section Run
variable (tools : OrchestratorTools) (inputs : RunInputs) (queued : QueuedFunction)

/-- The part of an attempt that is known before a tool has run. -/
def baseAttempt (command : List String) (variant : RetryVariant) (contextSha256 : List String) (assemblySha256 : String) :
    DecompilationAttempt where
  attemptId := tools.attemptId ⟨queued.function, queued.address, assemblySha256, contextSha256, command,
    inputs.m2cVersion, variant.target, inputs.toolchainIdentity⟩
  variantReason := variant.reason
  assemblySha256 := assemblySha256
  contextSha256 := contextSha256
  m2cCommand := command
  m2cVersion := inputs.m2cVersion
  target := variant.target
  outcome := AttemptOutcome.decompilationFailed.value
  candidateSha256 := none
  toolchainName := none
  toolchainIdentity := none
  objectSha256 := none
  matchRawScore := none
  matchMaxScore := none
  matchSimilarityPercent := none
  matchExact := none
  matchingRows := none
  changedRows := none
  addedRows := none
  removedRows := none
  referenceLacksRelocations := false
  diagnostics := []
  artifactPaths := []

/-- One pass through decompiler, compiler and matcher. Without one of them there is no attempt. -/
def runOneAttempt (base : DecompilationAttempt) (variant : RetryVariant) :
    Except DecompileFailure (Option DecompilationAttempt) :=
  let base := { base with
    toolchainName := some inputs.toolchainName, toolchainIdentity := some inputs.toolchainIdentity }
  match inputs.decompile variant with
  | .error .unavailable => .ok none
  | .error (.raised failure) => .error failure
  | .error (.failed message) => .ok (some { base with
      outcome := AttemptOutcome.decompilationFailed.value, diagnostics := [message] })
  | .ok decompilation =>
    let base := { base with candidateSha256 := some (tools.sha256Bytes decompilation.output) }
    match inputs.compile variant with
    | .error .unavailable => .ok none
    | .error (.raised failure) => .error failure
    | .error (.failed message) => .ok (some { base with
        outcome := AttemptOutcome.buildFailed.value, diagnostics := decompilation.warnings ++ [message],
        artifactPaths := [("candidate_c", decompilation.outputPath)] })
    | .ok built =>
      let base := { base with objectSha256 := some built.objectSha256 }
      match inputs.matching variant with
      | .error .unavailable => .ok none
      | .error (.raised failure) => .error failure
      | .error (.failed message) => .ok (some { base with
          outcome := AttemptOutcome.matchFailed.value,
          diagnostics := decompilation.warnings ++ built.diagnostics ++ [message],
          artifactPaths := [("candidate_c", decompilation.outputPath), ("object", built.outputPath)] })
      | .ok result =>
        let exact : Bool := result.rawScore = 0
        .ok (some { base with
          outcome := (if exact then AttemptOutcome.matchedExact else .matchedPartial).value,
          matchRawScore := some result.rawScore, matchMaxScore := some result.maxScore,
          matchSimilarityPercent := some result.similarityPercent, matchExact := some exact,
          matchingRows := some result.matchingRows, changedRows := some result.changedRows,
          addedRows := some result.addedRows, removedRows := some result.removedRows,
          referenceLacksRelocations := inputs.hasKnownReferences,
          diagnostics := decompilation.warnings ++ built.diagnostics ++ result.warnings,
          artifactPaths := [("candidate_c", decompilation.outputPath), ("object", built.outputPath),
            ("match_metadata", result.metadataPath)] })

/-- What one variant comes to: nothing new, an attempt, or a missing backend. -/
inductive VariantEnd
  | skipped
  | added (attempt : DecompilationAttempt)
  | missing

def runVariant (command : List String) (attempts : List DecompilationAttempt) (variant : RetryVariant) :
    Except DecompileFailure VariantEnd :=
  match variant.contexts.mapM inputs.contextSha256 with
  | .error reason =>
    let attempt := { baseAttempt tools inputs queued command variant [] "unavailable" with
      diagnostics := [s!"context generation failed: {reason}"] }
    .ok (if attempt.attemptId ∈ attempts.map (·.attemptId) then .skipped else .added attempt)
  | .ok contextSha256 => do
    let assembly ← inputs.assemblyText variant
    let base := baseAttempt tools inputs queued command variant contextSha256 (tools.sha256Text assembly)
    if base.attemptId ∈ attempts.map (·.attemptId) ∧ ¬inputs.force then return .skipped
    match ← runOneAttempt tools inputs base variant with
    | none => return .missing
    | some attempt => return .added attempt

inductive RunFailure
  | unsupportedFunction (message : String)
  | other (failure : DecompileFailure)

/-- The attempts with which the loop over the variants ends, and whether it ended at a missing backend. -/
inductive LoopEnd
  | finished (attempts : List DecompilationAttempt)
  | stopped (attempts : List DecompilationAttempt)

def runVariants (command : List String) : List DecompilationAttempt → List RetryVariant → Except DecompileFailure LoopEnd
  | attempts, [] => .ok (.finished attempts)
  | attempts, variant :: rest => do
    match ← runVariant tools inputs queued command attempts variant with
    | .skipped => runVariants command attempts rest
    | .missing => return .stopped attempts
    | .added attempt =>
      if attempt.matchExact = some true then return .finished (attempts ++ [attempt])
      else runVariants command (attempts ++ [attempt]) rest

/-- `default_variants(contexts, target)[:max_attempts]`. -/
def RunInputs.variants : List RetryVariant :=
  let all := defaultVariants inputs.contexts inputs.target
  all.take (if 0 ≤ inputs.maxAttempts then inputs.maxAttempts.toNat else all.length - inputs.maxAttempts.natAbs)

/-- `replace(state, status=status, last_failure=failure)`. -/
def FunctionDecompilationState.marked (state : FunctionDecompilationState) (status : DecompilationStatus) (failure : String) :
    FunctionDecompilationState :=
  { state with status := status.value, lastFailure := some failure }

def finishedState (attempts : List DecompilationAttempt) : FunctionDecompilationState :=
  let best := selectBestAttempt attempts
  { module := queued.module
    function := queued.function
    address := queued.address
    status := (statusFromBest best).value
    attempts := attempts.length
    bestAttemptId := best.map (·.attemptId)
    bestMatchPercent := best.bind (·.matchSimilarityPercent)
    staticConfidence := queued.state.staticConfidence
    staticEvidence := queued.state.staticEvidence
    runtimeStatus := queued.state.runtimeStatus
    lastFailure := best.bind fun best => if best.matchExact = some true then none else best.diagnostics.getLast?
    attemptHistory := attempts }

def LoopEnd.state : LoopEnd → FunctionDecompilationState
  | .stopped attempts =>
    { queued.state.marked .blocked "build or match backend is unavailable" with
      attempts := attempts.length, attemptHistory := attempts }
  | .finished attempts => finishedState queued attempts

def runFunction : Except RunFailure FunctionDecompilationState := do
  let instructionCount ← inputs.instructionCount.mapError .other
  raiseIf (instructionCount = 0)
    (.unsupportedFunction s!"function {tools.reprText queued.function} has no instructions to decompile")
  match inputs.m2cCommand with
  | .error message =>
    return queued.state.marked .blocked message
  | .ok command =>
    let ending ← (runVariants tools inputs queued command queued.state.attemptHistory inputs.variants).mapError .other
    return ending.state queued

/-- The state that a call saves. A function without instructions is marked as unsupported. -/
def stateToPersist : Except DecompileFailure FunctionDecompilationState :=
  match runFunction tools inputs queued with
  | .ok state => .ok state
  | .error (.unsupportedFunction message) =>
    .ok (queued.state.marked .unsupported message)
  | .error (.other failure) => .error failure

def runAndPersist (store : StoreTools) : StoreM FunctionDecompilationState := do
  let state ← lifted (stateToPersist tools inputs queued)
  let _ ← saveFunctionState store state
  return state

end Run

end PspDisasm
