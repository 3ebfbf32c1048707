import PspDisasm.Runtime.Messages
import PspDisasm.Foundations.Raising

namespace PspDisasm
open Foundations

structure DecompilationAttempt where
  attemptId : String
  variantReason : String
  assemblySha256 : String
  contextSha256 : List String
  m2cCommand : List String
  m2cVersion : Option String
  target : String
  outcome : String
  candidateSha256 : Option String
  toolchainName : Option String
  toolchainIdentity : Option (Dict String Json)
  objectSha256 : Option String
  matchRawScore : Option Int
  matchMaxScore : Option Int
  matchSimilarityPercent : Option Rat
  matchExact : Option Bool
  matchingRows : Option Int
  changedRows : Option Int
  addedRows : Option Int
  removedRows : Option Int
  referenceLacksRelocations : Bool
  diagnostics : List String
  artifactPaths : Dict String String

structure FunctionDecompilationState where
  module : String
  function : String
  address : Int
  status : String
  attempts : Int
  bestAttemptId : Option String
  bestMatchPercent : Option Rat
  staticConfidence : Option Rat
  staticEvidence : List String
  runtimeStatus : Option String
  lastFailure : Option String
  attemptHistory : List DecompilationAttempt

inductive DecompilationStatus
  | pending
  | skipped
  | unsupported
  | blocked
  | candidateGenerated
  | buildFailed
  | matchedPartial
  | matchedExact
deriving DecidableEq, Repr

def DecompilationStatus.value : DecompilationStatus → String
  | .pending => "pending"
  | .skipped => "skipped"
  | .unsupported => "unsupported"
  | .blocked => "blocked"
  | .candidateGenerated => "candidate_generated"
  | .buildFailed => "build_failed"
  | .matchedPartial => "matched_partial"
  | .matchedExact => "matched_exact"

/-- The exceptions of the decompilation pipeline. Values of other types than the fields of a state have, which
the loader would convert or carry along, are `malformed`. -/
inductive DecompileFailure
  | workspaceError (message : String)
  | os (message : String)
  | keyError (key : String)
  | valueError (message : String)
  | malformed
  | other (message : String)
deriving DecidableEq, Repr

abbrev Fields := Dict String Json

namespace Fields

def required (fields : Fields) (missing : DecompileFailure) (key : String) : Except DecompileFailure Json :=
  match fields.get? key with
  | some value => .ok value
  | none => .error missing

/-- `str(value)` of a text. -/
def text : Json → Except DecompileFailure String
  | .str text => .ok text
  | _ => .error .malformed

/-- `int(value)` of an integer. -/
def integer (value : Json) : Except DecompileFailure Int :=
  match value.int? with
  | some n => .ok n
  | none => .error .malformed

def float : Json → Except DecompileFailure Rat
  | .float (some value) => .ok value
  | _ => .error .malformed

def bool : Json → Except DecompileFailure Bool
  | .bool value => .ok value
  | _ => .error .malformed

def object : Json → Except DecompileFailure (Dict String Json)
  | .obj fields => .ok fields
  | _ => .error .malformed

/-- The value of an optional field, which is `None` when the member is absent or null. -/
def optional {α : Type} (read : Json → Except DecompileFailure α) : Json → Except DecompileFailure (Option α)
  | .null => .ok none
  | value => some <$> read value

/-- `list(value)` of a list of texts, which may be absent. -/
def texts (fields : Fields) (key : String) : Except DecompileFailure (List String) :=
  match fields.get? key with
  | none => .ok []
  | some (.arr items) => items.mapM text
  | some _ => .error .malformed

/-- `dict(value)` of an object of texts, which may be absent. -/
def textObject (fields : Fields) (key : String) : Except DecompileFailure (Dict String String) :=
  match fields.get? key with
  | none => .ok []
  | some (.obj items) => items.mapM fun item => do return (item.1, ← text item.2)
  | some _ => .error .malformed

/-- `bool(value)`, false when absent. -/
def flag (fields : Fields) (key : String) : Except DecompileFailure Bool :=
  match fields.get? key with
  | none => .ok false
  | some value => bool value

end Fields

namespace Json

def ofFloat (value : Rat) : Json := .float (some value)

/-- `None` becomes `null`. -/
def ofOption {α : Type} (write : α → Json) : Option α → Json
  | none => .null
  | some value => write value

def ofTexts (texts : List String) : Json := .arr (texts.map .str)

def ofTextObject (fields : Dict String String) : Json := .obj (fields.map fun item => (item.1, .str item.2))

end Json

/-- `asdict(attempt)`. -/
def attemptToDict (attempt : DecompilationAttempt) : Fields := [
  ("attempt_id", .str attempt.attemptId),
  ("variant_reason", .str attempt.variantReason),
  ("assembly_sha256", .str attempt.assemblySha256),
  ("context_sha256", .ofTexts attempt.contextSha256),
  ("m2c_command", .ofTexts attempt.m2cCommand),
  ("m2c_version", .ofOption .str attempt.m2cVersion),
  ("target", .str attempt.target),
  ("outcome", .str attempt.outcome),
  ("candidate_sha256", .ofOption .str attempt.candidateSha256),
  ("toolchain_name", .ofOption .str attempt.toolchainName),
  ("toolchain_identity", .ofOption .obj attempt.toolchainIdentity),
  ("object_sha256", .ofOption .str attempt.objectSha256),
  ("match_raw_score", .ofOption .int attempt.matchRawScore),
  ("match_max_score", .ofOption .int attempt.matchMaxScore),
  ("match_similarity_percent", .ofOption .ofFloat attempt.matchSimilarityPercent),
  ("match_exact", .ofOption .bool attempt.matchExact),
  ("matching_rows", .ofOption .int attempt.matchingRows),
  ("changed_rows", .ofOption .int attempt.changedRows),
  ("added_rows", .ofOption .int attempt.addedRows),
  ("removed_rows", .ofOption .int attempt.removedRows),
  ("reference_lacks_relocations", .bool attempt.referenceLacksRelocations),
  ("diagnostics", .ofTexts attempt.diagnostics),
  ("artifact_paths", .ofTextObject attempt.artifactPaths)]

def attemptFromDict (payload : Json) : Except DecompileFailure DecompilationAttempt :=
  match payload with
  | .obj fields => do
    let required (key : String) :=
      Fields.required fields (.workspaceError s!"DecompilationAttempt is missing '{key}'") key
    let attemptId ← required "attempt_id" >>= Fields.text
    let variantReason ← required "variant_reason" >>= Fields.text
    let assemblySha256 ← required "assembly_sha256" >>= Fields.text
    let contextSha256 ← Fields.texts fields "context_sha256"
    let m2cCommand ← Fields.texts fields "m2c_command"
    let m2cVersion ← Fields.optional Fields.text (Json.getField fields "m2c_version")
    let target ← required "target" >>= Fields.text
    let outcome ← required "outcome" >>= Fields.text
    let candidateSha256 ← Fields.optional Fields.text (Json.getField fields "candidate_sha256")
    let toolchainName ← Fields.optional Fields.text (Json.getField fields "toolchain_name")
    let toolchainIdentity ← Fields.optional Fields.object (Json.getField fields "toolchain_identity")
    let objectSha256 ← Fields.optional Fields.text (Json.getField fields "object_sha256")
    let matchRawScore ← Fields.optional Fields.integer (Json.getField fields "match_raw_score")
    let matchMaxScore ← Fields.optional Fields.integer (Json.getField fields "match_max_score")
    let matchSimilarityPercent ← Fields.optional Fields.float (Json.getField fields "match_similarity_percent")
    let matchExact ← Fields.optional Fields.bool (Json.getField fields "match_exact")
    let matchingRows ← Fields.optional Fields.integer (Json.getField fields "matching_rows")
    let changedRows ← Fields.optional Fields.integer (Json.getField fields "changed_rows")
    let addedRows ← Fields.optional Fields.integer (Json.getField fields "added_rows")
    let removedRows ← Fields.optional Fields.integer (Json.getField fields "removed_rows")
    let referenceLacksRelocations ← Fields.flag fields "reference_lacks_relocations"
    let diagnostics ← Fields.texts fields "diagnostics"
    let artifactPaths ← Fields.textObject fields "artifact_paths"
    return {
      attemptId, variantReason, assemblySha256, contextSha256, m2cCommand, m2cVersion, target, outcome, candidateSha256,
      toolchainName, toolchainIdentity, objectSha256, matchRawScore, matchMaxScore, matchSimilarityPercent, matchExact,
      matchingRows, changedRows, addedRows, removedRows, referenceLacksRelocations, diagnostics, artifactPaths }
  | _ => .error (.workspaceError "invalid DecompilationAttempt in decompilation state")

/-- `asdict(state)`. -/
def stateToDict (state : FunctionDecompilationState) : Fields := [
  ("module", .str state.module),
  ("function", .str state.function),
  ("address", .int state.address),
  ("status", .str state.status),
  ("attempts", .int state.attempts),
  ("best_attempt_id", .ofOption .str state.bestAttemptId),
  ("best_match_percent", .ofOption .ofFloat state.bestMatchPercent),
  ("static_confidence", .ofOption .ofFloat state.staticConfidence),
  ("static_evidence", .ofTexts state.staticEvidence),
  ("runtime_status", .ofOption .str state.runtimeStatus),
  ("last_failure", .ofOption .str state.lastFailure),
  ("attempt_history", .arr (state.attemptHistory.map fun attempt => .obj (attemptToDict attempt)))]

def stateFromDict (payload : Json) : Except DecompileFailure FunctionDecompilationState :=
  match payload with
  | .obj fields => do
    let required (key : String) :=
      Fields.required fields (.workspaceError s!"FunctionDecompilationState is missing '{key}'") key
    let module ← required "module" >>= Fields.text
    let function ← required "function" >>= Fields.text
    let address ← required "address" >>= Fields.integer
    let status ← required "status" >>= Fields.text
    let attempts ← match Dict.get? fields "attempts" with
      | none => .ok 0
      | some value => Fields.integer value
    let bestAttemptId ← Fields.optional Fields.text (Json.getField fields "best_attempt_id")
    let bestMatchPercent ← Fields.optional Fields.float (Json.getField fields "best_match_percent")
    let staticConfidence ← Fields.optional Fields.float (Json.getField fields "static_confidence")
    let staticEvidence ← Fields.texts fields "static_evidence"
    let runtimeStatus ← Fields.optional Fields.text (Json.getField fields "runtime_status")
    let lastFailure ← Fields.optional Fields.text (Json.getField fields "last_failure")
    let attemptHistory ← match Dict.get? fields "attempt_history" with
      | none => .ok []
      | some (.arr items) => items.mapM attemptFromDict
      | some _ => .error .malformed
    return {
      module, function, address, status, attempts, bestAttemptId, bestMatchPercent, staticConfidence, staticEvidence,
      runtimeStatus, lastFailure, attemptHistory }
  | _ => .error (.workspaceError "invalid FunctionDecompilationState in decompilation state")

section RoundTrip

theorem mapM_map_ok {ε α β : Type} {encode : α → β} {decode : β → Except ε α} (each : ∀ a, decode (encode a) = .ok a)
    (items : List α) : (items.map encode).mapM decode = .ok items := by
  induction items with
  | nil => rfl
  | cons item items ih => rw [List.map_cons, List.mapM_cons, each, ok_bind, ih, ok_bind]; rfl

theorem texts_ofTexts {fields : Fields} {key : String} {texts : List String}
    (found : fields.get? key = some (.ofTexts texts)) : Fields.texts fields key = .ok texts := by
  have each : ∀ text, Fields.text (.str text) = .ok text := fun _ => rfl
  rw [Fields.texts, found, Json.ofTexts]
  exact mapM_map_ok each texts

theorem textObject_ofTextObject {fields : Fields} {key : String} {items : Dict String String}
    (found : fields.get? key = some (.ofTextObject items)) : Fields.textObject fields key = .ok items := by
  rw [Fields.textObject, found, Json.ofTextObject]
  exact @mapM_map_ok _ _ _ (fun item => (item.1, Json.str item.2))
    (fun item => do return (item.1, ← Fields.text item.2)) (fun _ => rfl) items

theorem optional_ofOption {α : Type} {read : Json → Except DecompileFailure α} {write : α → Json}
    (notNull : ∀ a, write a ≠ .null) (each : ∀ a, read (write a) = .ok a) (value : Option α) :
    Fields.optional read (.ofOption write value) = .ok value := by
  cases value with
  | none => rfl
  | some a =>
    unfold Fields.optional Json.ofOption
    split
    · exact absurd ‹_› (notNull a)
    · rw [each]
      rfl

@[simp] theorem optional_text (value : Option String) :
    Fields.optional Fields.text (.ofOption .str value) = .ok value := by
  apply optional_ofOption
  · exact fun _ => Json.noConfusion
  · exact fun _ => rfl

@[simp] theorem optional_integer (value : Option Int) :
    Fields.optional Fields.integer (.ofOption .int value) = .ok value := by
  apply optional_ofOption
  · exact fun _ => Json.noConfusion
  · exact fun _ => rfl

@[simp] theorem optional_float (value : Option Rat) :
    Fields.optional Fields.float (.ofOption .ofFloat value) = .ok value := by
  apply optional_ofOption
  · exact fun _ => Json.noConfusion
  · exact fun _ => rfl

@[simp] theorem optional_bool (value : Option Bool) :
    Fields.optional Fields.bool (.ofOption .bool value) = .ok value := by
  apply optional_ofOption
  · exact fun _ => Json.noConfusion
  · exact fun _ => rfl

@[simp] theorem optional_object (value : Option (Dict String Json)) :
    Fields.optional Fields.object (.ofOption .obj value) = .ok value := by
  apply optional_ofOption
  · exact fun _ => Json.noConfusion
  · exact fun _ => rfl

theorem attemptFromDict_toDict (attempt : DecompilationAttempt) :
    attemptFromDict (.obj (attemptToDict attempt)) = .ok attempt := by
  have contexts := @texts_ofTexts (attemptToDict attempt) "context_sha256" attempt.contextSha256 rfl
  have command := @texts_ofTexts (attemptToDict attempt) "m2c_command" attempt.m2cCommand rfl
  have diagnostics := @texts_ofTexts (attemptToDict attempt) "diagnostics" attempt.diagnostics rfl
  have artifacts := @textObject_ofTextObject (attemptToDict attempt) "artifact_paths" attempt.artifactPaths rfl
  rw [attemptFromDict, contexts, command, diagnostics, artifacts]
  simp [attemptToDict, Fields.required, Json.getField, Dict.get?, Fields.text, Fields.bool, Fields.flag]

theorem stateFromDict_toDict (state : FunctionDecompilationState) :
    stateFromDict (.obj (stateToDict state)) = .ok state := by
  have evidence := @texts_ofTexts (stateToDict state) "static_evidence" state.staticEvidence rfl
  have history := mapM_map_ok attemptFromDict_toDict state.attemptHistory
  rw [stateFromDict, evidence]
  simp [stateToDict, Fields.required, Json.getField, Dict.get?, Fields.text, Fields.integer, Json.int?, history,
    -List.mapM_map]

end RoundTrip

end PspDisasm
