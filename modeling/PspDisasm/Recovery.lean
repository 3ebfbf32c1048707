import Mathlib.Data.Prod.Lex
import Mathlib.Data.List.Sort
import Mathlib.Data.String.Basic
import Mathlib.Algebra.Order.Ring.Unbundled.Rat
import PspDisasm.FrontEndErrors
import PspDisasm.GameProject

namespace PspDisasm
open Foundations

inductive RecoveryOutcome
  | noBackendAccepted
  | backendUnavailable
  | backendFailed
  | outputTooLarge
  | outputUnchanged
  | outputInvalid
  | outputStillEncrypted
  | verified
deriving DecidableEq, Repr

def RecoveryOutcome.value : RecoveryOutcome → String
  | .noBackendAccepted => "no_backend_accepted"
  | .backendUnavailable => "backend_unavailable"
  | .backendFailed => "backend_failed"
  | .outputTooLarge => "output_too_large"
  | .outputUnchanged => "output_unchanged"
  | .outputInvalid => "output_invalid"
  | .outputStillEncrypted => "output_still_encrypted"
  | .verified => "verified"

theorem RecoveryOutcome.value_verified {outcome : RecoveryOutcome} :
    outcome.value = "verified" ↔ outcome = .verified := by
  cases outcome <;> decide

/-- The exception classes that the recovery tells apart. -/
inductive RecoveryErrorClass
  | backendUnavailable
  | recovery
  | verification
  | outputTooLarge
deriving DecidableEq, Repr

/-- The class that a class extends, where it is one of these too. -/
def RecoveryErrorClass.parent : RecoveryErrorClass → Option RecoveryErrorClass
  | .verification => some .recovery
  | .outputTooLarge => some .recovery
  | _ => none

/-- An exception of any class: which of the recovery's classes it is an instance of, its text, and its attribute
`provenance`, if it has one that is not `None`. -/
structure RaisedException where
  classes : List RecoveryErrorClass
  message : String
  provenance : Option RecoveryProvenance
  inherits : ∀ kind ∈ classes, ∀ parent ∈ kind.parent, parent ∈ classes

/-- An exception of one of the recovery's classes, as the recovery itself makes it. -/
def RecoveryErrorClass.raised (kind : RecoveryErrorClass) (message : String)
    (provenance : Option RecoveryProvenance) : RaisedException where
  classes := kind :: kind.parent.toList
  message := message
  provenance := provenance
  inherits := by cases kind <;> decide

/-- The record that `_ensure_provenance` attaches, and the one for a selection that accepts nothing. -/
def bareProvenance (outcome : RecoveryOutcome) (originalSha256 : String) (backendName : Option String)
    (warnings : List String) : RecoveryProvenance where
  outcome := outcome.value
  originalSha256 := some originalSha256
  recoveredSha256 := none
  recoveryBackend := backendName
  backendVersion := none
  verification := none
  warnings := warnings

/-- What `float` makes of the value of a probe, with its text. An infinity and `nan` have no number. -/
structure ProbeScore where
  value : Option Rat
  text : String

structure RecoveredPayload where
  data : Bytes
  backendVersion : Option String := none
  diagnostics : List String := []

/-- A backend, by its name and what its methods do. Where the probe raises, the text of the exception is kept. -/
structure RecoveryBackend where
  name : String
  probe : PspContainerHeader → Bytes → Except String ProbeScore
  recover : Bytes → Except RaisedException RecoveredPayload

/-- The standard library's part: `hashlib.sha256(…).hexdigest()`, `str.casefold` and `repr` of a text. -/
structure RecoveryTools where
  sha256 : Bytes → String
  casefold : String → String
  reprText : String → String

def defaultRecoveryThreshold : Rat := 1 / 2

section Selection
variable (tools : RecoveryTools) (header : PspContainerHeader) (data : Bytes) (threshold : Rat)

/-- The confidence of a backend, or the warning that the selection notes in its place. -/
def probeConfidence (backend : RecoveryBackend) : Except String Rat :=
  let name := backend.name
  match backend.probe header data with
  | .error text => .error s!"Recovery backend {name} probe failed: {text}"
  | .ok score =>
    let invalid := s!"Recovery backend {name} returned invalid probe confidence {score.text}"
    match score.value with
    | none => .error invalid
    | some value => if value < 0 ∨ 1 < value then .error invalid else .ok value

structure AcceptedBackend where
  score : Rat
  index : Nat
  backend : RecoveryBackend

/-- What accepted backends are sorted by. -/
def AcceptedBackend.rank (item : AcceptedBackend) : Rat ×ₗ String ×ₗ String ×ₗ Nat :=
  toLex (-item.score, toLex (tools.casefold item.backend.name, toLex (item.backend.name, item.index)))

def acceptBackend (item : RecoveryBackend × Nat) : Option AcceptedBackend :=
  match probeConfidence header data item.1 with
  | .error _ => none
  | .ok score => if threshold ≤ score then some ⟨score, item.2, item.1⟩ else none

def probeWarning (backend : RecoveryBackend) : Option String :=
  match probeConfidence header data backend with
  | .error warning => some warning
  | .ok _ => none

def acceptedBackends (backends : List RecoveryBackend) : List AcceptedBackend :=
  backends.zipIdx.filterMap (acceptBackend header data threshold)

def selectRecoveryBackend (backends : List RecoveryBackend) : Option (RecoveryBackend × Rat) × List String :=
  let accepted := (acceptedBackends header data threshold backends).insertionSort fun item other =>
    item.rank tools ≤ other.rank tools
  (accepted.head?.map fun item => (item.backend, item.score), backends.filterMap (probeWarning header data))

end Selection

/-- How a recovery ends without a result: an exception of the front end that nothing caught, or one of the backend's
or the recovery's own. -/
inductive RecoveryFailure
  | front (failure : Failure)
  | raised (exception : RaisedException)

def ensureProvenance (exception : RaisedException) (outcome : RecoveryOutcome) (originalSha256 backendName : String)
    (warnings : List String) : RaisedException :=
  match exception.provenance with
  | some _ => exception
  | none => { exception with provenance := some (bareProvenance outcome originalSha256 (some backendName) warnings) }

section Recover
variable (tools : RecoveryTools) (data : Bytes) (maxOutputBytes : Int)

/-- The `except` clauses around the call of a backend, in their order. -/
def recoverClauses : List (RecoveryErrorClass × RecoveryOutcome) := [
  (.outputTooLarge, .outputTooLarge),
  (.verification, .outputInvalid),
  (.backendUnavailable, .backendUnavailable),
  (.recovery, .backendFailed)]

/-- What leaves the call of a backend when it raises. -/
def backendFailure (backendName : String) (warnings : List String) (exception : RaisedException) : RaisedException :=
  match recoverClauses.find? fun clause => clause.1 ∈ exception.classes with
  | some (_, outcome) => ensureProvenance exception outcome (tools.sha256 data) backendName warnings
  | none =>
    let wrapped := RecoveryErrorClass.recovery.raised
      s!"Recovery backend {tools.reprText backendName} failed: {exception.message}" none
    ensureProvenance wrapped .backendFailed (tools.sha256 data) backendName warnings

/-- `except ParseError` around a call of the front end. -/
def onParseError (refusal : String → RecoveryFailure) : Failure → RecoveryFailure
  | .parseError message => refusal message
  | failure => .front failure

/-- Everything that follows the call of a backend. -/
def verifyPayload (backendName : String) (probeWarnings : List String) (payload : RecoveredPayload) :
    Except RecoveryFailure RecoveryResult := do
  let subject := s!"Recovery backend {tools.reprText backendName}"
  let provenance (outcome : RecoveryOutcome) (recoveredSha256 : Option String) : RecoveryProvenance := {
    outcome := outcome.value, originalSha256 := some (tools.sha256 data), recoveredSha256,
    recoveryBackend := some backendName, backendVersion := payload.backendVersion, verification := none,
    warnings := probeWarnings ++ payload.diagnostics }
  raiseIf (maxOutputBytes < payload.data.length) (.raised (RecoveryErrorClass.outputTooLarge.raised
    (s!"{subject} returned {payload.data.length} bytes, " ++ s!"exceeding the maximum of {maxOutputBytes} bytes")
    (provenance .outputTooLarge none)))
  let recoveredSha256 := tools.sha256 payload.data
  let invalid (outcome : RecoveryOutcome) (message : String) : RecoveryFailure :=
    .raised (RecoveryErrorClass.verification.raised s!"{subject} {message}" (provenance outcome recoveredSha256))
  raiseIf (recoveredSha256 = tools.sha256 data) (invalid .outputUnchanged "returned the input bytes unchanged")
  let kind ← (detectInput payload.data).mapError (onParseError fun message =>
    invalid .outputInvalid s!"produced output that is not a recognizable PSP ELF/PRX: {message}")
  raiseIf (kind = .pspContainer) (invalid .outputStillEncrypted
    ("produced a still-encrypted ~PSP container; " ++ "Phase 8B does not perform multi-stage recovery"))
  let model ← (analyzeBytes payload.data "<recovered>").mapError (onParseError fun message =>
    invalid .outputInvalid s!"produced output that failed ELF/PRX parsing: {message}")
  raiseIf (model.needsDecryption = true ∨ model.elfHeader = none) (invalid .outputInvalid
    "produced output that is not a directly analyzable PSP ELF/PRX")
  let verified := { provenance .verified recoveredSha256 with verification := some "valid_elf32_psp" }
  return { data := payload.data, model, provenance := verified }

/-- Everything that follows the parser of the container's header. -/
def recoverContainer (header : PspContainerHeader) (backends : List RecoveryBackend) :
    Except RecoveryFailure RecoveryResult :=
  match selectRecoveryBackend tools header data defaultRecoveryThreshold backends with
  | (none, probeWarnings) =>
    .error (.raised (RecoveryErrorClass.backendUnavailable.raised
      "no configured recovery backend accepted this PSP container"
      (some (bareProvenance .noBackendAccepted (tools.sha256 data) none probeWarnings))))
  | (some (backend, _), probeWarnings) => do
    let payload ← (backend.recover data).mapError fun exception =>
      .raised (backendFailure tools data backend.name probeWarnings exception)
    verifyPayload tools data maxOutputBytes backend.name probeWarnings payload

def recoverBytes (backends : List RecoveryBackend) : Except RecoveryFailure RecoveryResult := do
  let header ← (parsePspContainerHeader data).mapError .front
  recoverContainer tools data maxOutputBytes header backends

end Recover

/-- What a result has been checked for. -/
structure RecoveryResult.Verified (data : Bytes) (maxOutputBytes : Int) (result : RecoveryResult) : Prop where
  bounded : result.data.length ≤ maxOutputBytes
  changed : result.data ≠ data
  notContainer : pspMagic.isPrefixOf result.data = false
  analyzed : analyzeBytes result.data "<recovered>" = .ok result.model
  hasHeader : result.model.elfHeader ≠ none
  decrypted : result.model.needsDecryption = false
  outcome : result.provenance.outcome = "verified"

namespace RaisedException

/-- The exception is a `RecoveryError` or a `RecoveryBackendUnavailableError`. -/
def IsRecovery (exception : RaisedException) : Prop :=
  .recovery ∈ exception.classes ∨ .backendUnavailable ∈ exception.classes

/-- The exception says why the recovery of `data` has failed. Its provenance speaks of success only where a backend has
raised it so. -/
structure Explains (data : Bytes) (backends : List RecoveryBackend) (exception : RaisedException) : Prop where
  typed : exception.IsRecovery
  annotated : ∃ provenance, exception.provenance = some provenance ∧
    (provenance.outcome ≠ "verified" ∨ ∃ backend ∈ backends, backend.recover data = .error exception)

theorem isRecovery_of_mem {exception : RaisedException} {kind : RecoveryErrorClass} (member : kind ∈ exception.classes) :
    exception.IsRecovery := by
  cases kind with
  | backendUnavailable => exact Or.inr member
  | recovery => exact Or.inl member
  | verification => exact Or.inl (exception.inherits _ member _ rfl)
  | outputTooLarge => exact Or.inl (exception.inherits _ member _ rfl)

end RaisedException

def RecoveryFailure.Explains (data : Bytes) (backends : List RecoveryBackend) : RecoveryFailure → Prop
  | .front _ => False
  | .raised exception => exception.Explains data backends

section Verification
variable {tools : RecoveryTools} {data : Bytes} {maxOutputBytes : Int} {backends : List RecoveryBackend}
  {backendName : String} {warnings : List String} {payload : RecoveredPayload}

/-- An exception of the recovery's own making explains a failure. -/
theorem raised_explains {kind : RecoveryErrorClass} {message : String} {provenance : RecoveryProvenance}
    (outcome : RecoveryOutcome) (noted : provenance.outcome = outcome.value) (failed : outcome ≠ .verified) :
    (kind.raised message (some provenance)).Explains data backends where
  typed := RaisedException.isRecovery_of_mem List.mem_cons_self
  annotated := by
    refine ⟨provenance, rfl, Or.inl ?_⟩
    rw [noted, ne_eq, RecoveryOutcome.value_verified]
    exact failed

theorem onParseError_raisesOnly {α : Type} {P : RecoveryFailure → Prop} {x : Except Failure α}
    {refusal : String → RecoveryFailure} (documented : ParseErrorsOnly x) (refused : ∀ message, P (refusal message)) :
    RaisesOnly P (x.mapError (onParseError refusal)) := by
  intro raised failed
  cases x with
  | ok a => cases failed
  | error failure =>
    have parse := documented failure rfl
    cases failure with
    | parseError message =>
      cases failed
      exact refused message
    | _ => cases parse

theorem detectInput_parseErrors : ParseErrorsOnly (detectInput data) := by
  unfold detectInput
  split
  · exact raisesOnly_value _
  · split
    · exact raisesOnly_value _
    · exact raisesOnly_error.mpr rfl

theorem analyzeBytes_parseErrors {sourceName : String} : ParseErrorsOnly (analyzeBytes data sourceName) := by
  intro raised failed
  rcases analyzeBytes_total data sourceName with ⟨model, analyzed⟩ | ⟨message, refused⟩
  · rw [analyzed] at failed
    cases failed
  · rw [refused] at failed
    cases failed
    rfl

/-- Whatever a backend returns, the checks that follow end with a result or with an exception that explains. -/
theorem verifyPayload_explains :
    RaisesOnly (RecoveryFailure.Explains data backends)
      (verifyPayload tools data maxOutputBytes backendName warnings payload) := by
  unfold verifyPayload
  refine raisesOnly_bind (raisesOnly_raiseIf (raised_explains .outputTooLarge rfl (by decide))) fun _ _ => ?_
  refine raisesOnly_bind (raisesOnly_raiseIf (raised_explains .outputUnchanged rfl (by decide))) fun _ _ => ?_
  refine raisesOnly_bind (onParseError_raisesOnly detectInput_parseErrors fun _ => raised_explains .outputInvalid rfl (by decide)) fun _ _ => ?_
  refine raisesOnly_bind (raisesOnly_raiseIf (raised_explains .outputStillEncrypted rfl (by decide))) fun _ _ => ?_
  refine raisesOnly_bind (onParseError_raisesOnly analyzeBytes_parseErrors fun _ => raised_explains .outputInvalid rfl (by decide)) fun _ _ => ?_
  refine raisesOnly_bind (raisesOnly_raiseIf (raised_explains .outputInvalid rfl (by decide))) fun _ _ => ?_
  exact raisesOnly_value _

theorem detectInput_elf32 (detected : detectInput data = .ok .elf32) : pspMagic.isPrefixOf data = false := by
  unfold detectInput at detected
  split at detected
  · rename_i elf
    cases data with
    | nil => rfl
    | cons byte rest =>
      have first : 0x7F = byte := by
        simp only [elfMagic, List.isPrefixOf, Bool.and_eq_true, beq_iff_eq] at elf
        exact elf.1
      subst first
      rfl
  · split at detected <;> cases detected

/-- A result has passed every check, on its own bytes. -/
theorem verifyPayload_verified {result : RecoveryResult}
    (returned : verifyPayload tools data maxOutputBytes backendName warnings payload = .ok result) :
    result.Verified data maxOutputBytes := by
  unfold verifyPayload at returned
  obtain ⟨_, bounded, returned⟩ := bind_ok.mp returned
  obtain ⟨_, changed, returned⟩ := bind_ok.mp returned
  obtain ⟨kind, detected, returned⟩ := bind_ok.mp returned
  obtain ⟨_, opened, returned⟩ := bind_ok.mp returned
  obtain ⟨model, analyzed, returned⟩ := bind_ok.mp returned
  obtain ⟨_, usable, returned⟩ := bind_ok.mp returned
  cases returned
  obtain ⟨decrypted, hasHeader⟩ := not_or.mp (raiseIf_ok.mp usable)
  have elf : kind = .elf32 := by
    cases kind with
    | elf32 => rfl
    | pspContainer => exact absurd rfl (raiseIf_ok.mp opened)
  subst elf
  exact {
    bounded := not_lt.mp (raiseIf_ok.mp bounded)
    -- The digests differ, so the bytes do.
    changed := fun same => raiseIf_ok.mp changed (congrArg tools.sha256 same)
    notContainer := detectInput_elf32 (mapError_ok.mp detected)
    analyzed := mapError_ok.mp analyzed
    hasHeader := hasHeader
    decrypted := Bool.eq_false_iff.mpr decrypted
    outcome := rfl }

theorem recoverClauses_fail {exception : RaisedException} {clause : RecoveryErrorClass × RecoveryOutcome}
    (found : recoverClauses.find? (fun clause => clause.1 ∈ exception.classes) = some clause) :
    exception.IsRecovery ∧ clause.2 ≠ .verified := by
  have listed : clause.1 ∈ exception.classes := by simpa using List.find?_some found
  refine ⟨RaisedException.isRecovery_of_mem listed, ?_⟩
  have failures : ∀ clause ∈ recoverClauses, clause.2 ≠ .verified := by decide
  exact failures _ (List.mem_of_find?_eq_some found)

theorem recoverClauses_find {exception : RaisedException} (typed : exception.IsRecovery) :
    (recoverClauses.find? fun clause => clause.1 ∈ exception.classes).isSome := by
  rw [List.find?_isSome]
  rcases typed with recovery | unavailable
  · exact ⟨(.recovery, .backendFailed), by decide, decide_eq_true recovery⟩
  · exact ⟨(.backendUnavailable, .backendUnavailable), by decide, decide_eq_true unavailable⟩

theorem ensureProvenance_attached {exception : RaisedException} {outcome : RecoveryOutcome} {sha256 : String}
    (attached : exception.provenance ≠ none) : ensureProvenance exception outcome sha256 backendName warnings = exception := by
  unfold ensureProvenance
  split
  · rfl
  · rename_i missing
    exact absurd missing attached

/-- What the handlers let out of the call of a backend explains the failure. -/
theorem backendFailure_explains {exception : RaisedException} {backend : RecoveryBackend} (listed : backend ∈ backends)
    (raised : backend.recover data = .error exception) :
    (backendFailure tools data backendName warnings exception).Explains data backends := by
  unfold backendFailure
  split
  · rename_i outcome found
    obtain ⟨typed, failed⟩ := recoverClauses_fail found
    cases attached : exception.provenance with
    | some provenance =>
      rw [ensureProvenance_attached (by rw [attached]; exact Option.some_ne_none _)]
      exact ⟨typed, provenance, attached, Or.inr ⟨backend, listed, raised⟩⟩
    | none =>
      rw [ensureProvenance, attached]
      refine ⟨typed, _, rfl, Or.inl ?_⟩
      exact mt RecoveryOutcome.value_verified.mp failed
  · exact raised_explains .backendFailed rfl (by decide)

/-- An exception of the recovery's classes that brings its own provenance is let out as it is. -/
theorem backendFailure_attached {exception : RaisedException} (typed : exception.IsRecovery)
    (attached : exception.provenance ≠ none) : backendFailure tools data backendName warnings exception = exception := by
  obtain ⟨clause, found⟩ := Option.isSome_iff_exists.mp (recoverClauses_find typed)
  rw [backendFailure, found]
  exact ensureProvenance_attached attached

end Verification

section Recoveries
variable {tools : RecoveryTools} {data : Bytes} {maxOutputBytes : Int} {backends : List RecoveryBackend}
  {header : PspContainerHeader} {backend : RecoveryBackend} {score threshold : Rat} {warnings : List String}

theorem acceptBackend_backend {item : RecoveryBackend × Nat} {candidate : AcceptedBackend}
    (accepted : acceptBackend header data threshold item = some candidate) : candidate.backend = item.1 := by
  unfold acceptBackend at accepted
  split at accepted
  · cases accepted
  · split at accepted
    · cases accepted
      rfl
    · cases accepted

theorem selectRecoveryBackend_mem
    (selected : selectRecoveryBackend tools header data threshold backends = (some (backend, score), warnings)) :
    backend ∈ backends := by
  obtain ⟨item, first, named⟩ := Option.map_eq_some_iff.mp (Prod.mk.inj selected).1
  have listed := (List.mem_insertionSort _).mp (List.mem_of_mem_head? first)
  obtain ⟨⟨source, i⟩, enumerated, accepted⟩ := List.mem_filterMap.mp listed
  obtain ⟨rfl, rfl⟩ := Prod.mk.inj named
  rw [acceptBackend_backend accepted]
  exact List.fst_mem_of_mem_zipIdx enumerated

/-- No accepted backend is more confident than the selected one. -/
theorem selectRecoveryBackend_best
    (selected : selectRecoveryBackend tools header data threshold backends = (some (backend, score), warnings)) :
    ∀ item ∈ acceptedBackends header data threshold backends, item.score ≤ score := by
  intro item listed
  obtain ⟨best, first, named⟩ := Option.map_eq_some_iff.mp (Prod.mk.inj selected).1
  obtain ⟨rfl, rfl⟩ := Prod.mk.inj named
  have total : Std.Total fun item other : AcceptedBackend => item.rank tools ≤ other.rank tools :=
    ⟨fun item other => le_total (item.rank tools) (other.rank tools)⟩
  have transitive : IsTrans AcceptedBackend fun item other => item.rank tools ≤ other.rank tools :=
    ⟨fun _ _ _ => le_trans⟩
  have sorted := List.pairwise_insertionSort (fun item other : AcceptedBackend => item.rank tools ≤ other.rank tools)
    (acceptedBackends header data threshold backends)
  have member := (List.mem_insertionSort fun item other : AcceptedBackend => item.rank tools ≤ other.rank tools).mpr listed
  obtain ⟨rest, split⟩ := List.head?_eq_some_iff.mp first
  rw [split] at sorted member
  rcases List.mem_cons.mp member with rfl | later
  · exact le_rfl
  · have ranked : best.rank tools ≤ item.rank tools := (List.pairwise_cons.mp sorted).1 item later
    exact neg_le_neg_iff.mp (Prod.Lex.monotone_fst _ _ ranked)

/-- What a run of the recovery may end with: a result that has passed every check, or a failure that is explained. -/
structure Accounted (data : Bytes) (maxOutputBytes : Int) (backends : List RecoveryBackend)
    (run : Except RecoveryFailure RecoveryResult) : Prop where
  verified : ∀ result, run = .ok result → result.Verified data maxOutputBytes
  explained : RaisesOnly (RecoveryFailure.Explains data backends) run

/-- A container of which only the magic is set. -/
def sampleContainer : Bytes := pspMagic ++ List.replicate 0x14C 0

/-- A file that is only the header of a little-endian MIPS ELF. -/
def sampleExecutable : Bytes :=
  elfMagic ++ [1, 1, 1] ++ List.replicate 9 0 ++ [2, 0, 8, 0, 1, 0, 0, 0] ++ List.replicate 16 0 ++ [52, 0, 32, 0, 0, 0, 40, 0, 0, 0, 0, 0]

def sampleBackend : RecoveryBackend where
  name := "sample"
  probe := fun _ _ => .ok ⟨some 1, "1.0"⟩
  recover := fun _ => .ok ⟨sampleExecutable, none, []⟩

def sampleTools : RecoveryTools := ⟨fun data => String.ofList (data.map fun b => Char.ofNat b.toNat), id, id⟩

example : (recoverBytes sampleTools sampleContainer 64 [sampleBackend]).isOk = true := by decide +kernel

end Recoveries

end PspDisasm
