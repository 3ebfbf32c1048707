import PspDisasm.Decompile.Queue
import PspDisasm.PythonValues

namespace PspDisasm
open Foundations

namespace Evidence

/-- An attempt as the loader makes it of any document: what it converts has the type that it converts to, what it
carries along is any value. -/
structure Attempt where
  attemptId : String
  variantReason : String
  assemblySha256 : String
  contextSha256 : List Json
  m2cCommand : List Json
  m2cVersion : Json
  target : String
  outcome : String
  candidateSha256 : Json
  toolchainName : Json
  toolchainIdentity : Json
  objectSha256 : Json
  matchRawScore : Json
  matchMaxScore : Json
  matchSimilarityPercent : Json
  matchExact : Json
  matchingRows : Json
  changedRows : Json
  addedRows : Json
  removedRows : Json
  referenceLacksRelocations : Bool
  diagnostics : List Json
  artifactPaths : Dict Json Json

structure FunctionState where
  module : String
  function : String
  address : Int
  status : String
  attempts : Int
  bestAttemptId : Json
  bestMatchPercent : Json
  staticConfidence : Json
  staticEvidence : List Json
  runtimeStatus : Json
  lastFailure : Json
  attemptHistory : List Attempt

section Decoding
variable (texts : ValueTexts)

def attemptFromDict (payload : Json) : Except DecompileFailure Attempt :=
  match payload with
  | .obj fields => missingMember "DecompilationAttempt" do
    let attemptId ← texts.toText <$> Fields.member fields "attempt_id"
    let variantReason ← texts.toText <$> Fields.member fields "variant_reason"
    let assemblySha256 ← texts.toText <$> Fields.member fields "assembly_sha256"
    let contextSha256 ← (Fields.getOr fields "context_sha256" (.arr [])).iterate
    let m2cCommand ← (Fields.getOr fields "m2c_command" (.arr [])).iterate
    let target ← texts.toText <$> Fields.member fields "target"
    let outcome ← texts.toText <$> Fields.member fields "outcome"
    let diagnostics ← (Fields.getOr fields "diagnostics" (.arr [])).iterate
    let artifactPaths ← (Fields.getOr fields "artifact_paths" (.obj [])).entries
    let carried := Json.getField fields
    return {
      attemptId, variantReason, assemblySha256, contextSha256, m2cCommand, m2cVersion := carried "m2c_version", target
      outcome, candidateSha256 := carried "candidate_sha256", toolchainName := carried "toolchain_name"
      toolchainIdentity := carried "toolchain_identity", objectSha256 := carried "object_sha256"
      matchRawScore := carried "match_raw_score", matchMaxScore := carried "match_max_score"
      matchSimilarityPercent := carried "match_similarity_percent", matchExact := carried "match_exact"
      matchingRows := carried "matching_rows", changedRows := carried "changed_rows", addedRows := carried "added_rows"
      removedRows := carried "removed_rows"
      referenceLacksRelocations := (Fields.getOr fields "reference_lacks_relocations" (.bool false)).truthy
      diagnostics, artifactPaths }
  | _ => .error (.workspaceError "invalid DecompilationAttempt in decompilation state")

def stateFromDict (payload : Json) : Except DecompileFailure FunctionState :=
  match payload with
  | .obj fields => missingMember "FunctionDecompilationState" do
    let module ← texts.toText <$> Fields.member fields "module"
    let function ← texts.toText <$> Fields.member fields "function"
    let address ← Fields.member fields "address" >>= texts.toInt
    let status ← texts.toText <$> Fields.member fields "status"
    let attempts ← texts.toInt (Fields.getOr fields "attempts" (.int 0))
    let staticEvidence ← (Fields.getOr fields "static_evidence" (.arr [])).iterate
    let listed ← (Fields.getOr fields "attempt_history" (.arr [])).iterate
    let attemptHistory ← listed.mapM (attemptFromDict texts)
    let carried := Json.getField fields
    return {
      module, function, address, status, attempts, bestAttemptId := carried "best_attempt_id"
      bestMatchPercent := carried "best_match_percent", staticConfidence := carried "static_confidence", staticEvidence
      runtimeStatus := carried "runtime_status", lastFailure := carried "last_failure", attemptHistory }
  | _ => .error (.workspaceError "invalid FunctionDecompilationState in decompilation state")

end Decoding

end Evidence

section Values
open Evidence

/-- A typed attempt among all that can be loaded. -/
def DecompilationAttempt.values (attempt : DecompilationAttempt) : Attempt where
  attemptId := attempt.attemptId
  variantReason := attempt.variantReason
  assemblySha256 := attempt.assemblySha256
  contextSha256 := attempt.contextSha256.map .str
  m2cCommand := attempt.m2cCommand.map .str
  m2cVersion := .ofOption .str attempt.m2cVersion
  target := attempt.target
  outcome := attempt.outcome
  candidateSha256 := .ofOption .str attempt.candidateSha256
  toolchainName := .ofOption .str attempt.toolchainName
  toolchainIdentity := .ofOption .obj attempt.toolchainIdentity
  objectSha256 := .ofOption .str attempt.objectSha256
  matchRawScore := .ofOption .int attempt.matchRawScore
  matchMaxScore := .ofOption .int attempt.matchMaxScore
  matchSimilarityPercent := .ofOption .ofFloat attempt.matchSimilarityPercent
  matchExact := .ofOption .bool attempt.matchExact
  matchingRows := .ofOption .int attempt.matchingRows
  changedRows := .ofOption .int attempt.changedRows
  addedRows := .ofOption .int attempt.addedRows
  removedRows := .ofOption .int attempt.removedRows
  referenceLacksRelocations := attempt.referenceLacksRelocations
  diagnostics := attempt.diagnostics.map .str
  artifactPaths := Json.textKeys (attempt.artifactPaths.map fun item => (item.1, .str item.2))

def FunctionDecompilationState.values (state : FunctionDecompilationState) : FunctionState where
  module := state.module
  function := state.function
  address := state.address
  status := state.status
  attempts := state.attempts
  bestAttemptId := .ofOption .str state.bestAttemptId
  bestMatchPercent := .ofOption .ofFloat state.bestMatchPercent
  staticConfidence := .ofOption .ofFloat state.staticConfidence
  staticEvidence := state.staticEvidence.map .str
  runtimeStatus := .ofOption .str state.runtimeStatus
  lastFailure := .ofOption .str state.lastFailure
  attemptHistory := state.attemptHistory.map DecompilationAttempt.values

variable (texts : ValueTexts)

theorem attemptFromDict_values (attempt : DecompilationAttempt) :
    Evidence.attemptFromDict texts (.obj (attemptToDict attempt)) = .ok attempt.values := by
  simp [Evidence.attemptFromDict, attemptToDict, Fields.member, Fields.getOr, Json.getField, Dict.get?, Json.iterate,
    Json.entries, ValueTexts.toText, Json.ofTexts, Json.ofTextObject, DecompilationAttempt.values, Json.textKeys, pure,
    Except.pure, missingMember, Json.truthy]

/-- What the store writes for a typed state is read as that state. -/
theorem stateFromDict_values (state : FunctionDecompilationState) :
    Evidence.stateFromDict texts (.obj (stateToDict state)) = .ok state.values := by
  have history : (state.attemptHistory.map fun attempt => Json.obj (attemptToDict attempt)).mapM (Evidence.attemptFromDict texts) =
      .ok (state.attemptHistory.map DecompilationAttempt.values) := by
    refine mapM_ok.mpr (List.forall₂_map_left_iff.mpr (List.forall₂_map_right_iff.mpr ?_))
    exact List.forall₂_same.mpr fun attempt _ => attemptFromDict_values texts attempt
  simp [Evidence.stateFromDict, stateToDict, Fields.member, Fields.getOr, Json.getField, Dict.get?, Json.iterate,
    ValueTexts.toText, ValueTexts.toInt, Json.ofTexts, history, FunctionDecompilationState.values, pure, Except.pure,
    missingMember, -List.mapM_map]

end Values

end PspDisasm
