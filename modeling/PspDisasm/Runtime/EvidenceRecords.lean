import PspDisasm.PythonValues
import PspDisasm.Runtime.Session

namespace PspDisasm
open Foundations

/-- A session's record, as all records of this module: what the loader converts has the type that it converts to,
what it carries along is any value, and the keys of a dictionary are of a type `κ`, which is that of texts where the
record is saved. -/
structure RuntimeSessionInfo where
  sessionId : String
  host : String
  port : Int
  ppssppRevision : Json
  workspaceSourceIdentity : Json

namespace Evidence

structure RegisterSnapshot (κ : Type) where
  sessionId : String
  sequence : Int
  registers : Dict κ Json

structure MemoryObservation where
  sessionId : String
  sequence : Int
  address : RuntimeAddress
  size : Int
  sha256 : String

structure Backtrace where
  sessionId : String
  sequence : Int
  frames : List RuntimeAddress

structure BreakpointObservation (κ : Type) where
  sessionId : String
  sequence : Int
  breakpointAddress : RuntimeAddress
  hitCount : Int
  registers : Option (RegisterSnapshot κ)
  memory : List MemoryObservation
  backtrace : Option Backtrace
  warnings : List Json

structure Module where
  name : Json
  runtimeBase : RuntimeAddress
  runtimeSize : Json
  staticModulePath : Json
  resolutionStatus : String
  evidence : List Json

structure Reconciliation where
  staticKind : String
  staticAddress : Option RuntimeAddress
  staticEvidence : List Json
  runtimeAddress : RuntimeAddress
  resolvedModuleOffset : Option RuntimeAddress
  observationCount : Int
  status : String
  conflicts : List Json

def RegisterSnapshot.anyKeys (snapshot : RegisterSnapshot String) : RegisterSnapshot Json :=
  { snapshot with registers := Json.textKeys snapshot.registers }

def BreakpointObservation.anyKeys (observation : BreakpointObservation String) : BreakpointObservation Json :=
  { observation with registers := observation.registers.map RegisterSnapshot.anyKeys }

section Decoding

def addressFromDict : Json → Except DecompileFailure (Option RuntimeAddress)
  | .null => .ok none
  | .obj fields =>
    match Json.getField fields "domain", (Json.getField fields "value").int?, Json.getField fields "module_path" with
    | .str domain, some value, .str path => .ok (some ⟨domain, value, some path⟩)
    | .str domain, some value, _ => .ok (some ⟨domain, value, none⟩)
    | _, _, _ => .error (.workspaceError "invalid RuntimeAddress in runtime evidence")
  | _ => .error (.workspaceError "invalid RuntimeAddress in runtime evidence")

def requiredAddressFromDict (payload : Json) : Except DecompileFailure RuntimeAddress := do
  match ← addressFromDict payload with
  | some address => .ok address
  | none => .error (.workspaceError "runtime evidence is missing a required RuntimeAddress")

variable (texts : ValueTexts)

def moduleFromDict (payload : Json) : Except DecompileFailure Module :=
  match payload with
  | .obj fields => missingMember "RuntimeModule" do
    let runtimeBase ← Fields.member fields "runtime_base" >>= requiredAddressFromDict
    let resolutionStatus ← texts.toText <$> Fields.member fields "resolution_status"
    let evidence ← (Fields.getOr fields "evidence" (.arr [])).iterate
    return {
      name := Json.getField fields "name", runtimeBase, runtimeSize := Json.getField fields "runtime_size"
      staticModulePath := Json.getField fields "static_module_path", resolutionStatus, evidence }
  | _ => .error (.workspaceError "invalid RuntimeModule in runtime evidence")

def registerSnapshotFromDict : Json → Except DecompileFailure (Option (RegisterSnapshot Json))
  | .null => .ok none
  | .obj fields => do
    let sessionId ← texts.toText <$> Fields.member fields "session_id"
    let sequence ← Fields.member fields "sequence" >>= texts.toInt
    let registers ← (Fields.getOr fields "registers" (.obj [])).entries
    return some ⟨sessionId, sequence, registers⟩
  | _ => .error (.workspaceError "invalid RuntimeRegisterSnapshot in runtime evidence")

def memoryObservationFromDict : Json → Except DecompileFailure MemoryObservation
  | .obj fields => do
    let sessionId ← texts.toText <$> Fields.member fields "session_id"
    let sequence ← Fields.member fields "sequence" >>= texts.toInt
    let address ← Fields.member fields "address" >>= requiredAddressFromDict
    let size ← Fields.member fields "size" >>= texts.toInt
    let sha256 ← texts.toText <$> Fields.member fields "sha256"
    return ⟨sessionId, sequence, address, size, sha256⟩
  | _ => .error (.workspaceError "invalid RuntimeMemoryObservation in runtime evidence")

def backtraceFromDict : Json → Except DecompileFailure (Option Backtrace)
  | .null => .ok none
  | .obj fields => do
    let sessionId ← texts.toText <$> Fields.member fields "session_id"
    let sequence ← Fields.member fields "sequence" >>= texts.toInt
    let listed ← (Fields.getOr fields "frames" (.arr [])).iterate
    let frames ← listed.mapM requiredAddressFromDict
    return some ⟨sessionId, sequence, frames⟩
  | _ => .error (.workspaceError "invalid RuntimeBacktrace in runtime evidence")

def observationFromDict (payload : Json) : Except DecompileFailure (BreakpointObservation Json) :=
  match payload with
  | .obj fields => missingMember "RuntimeBreakpointObservation" do
    let sessionId ← texts.toText <$> Fields.member fields "session_id"
    let sequence ← Fields.member fields "sequence" >>= texts.toInt
    let breakpointAddress ← Fields.member fields "breakpoint_address" >>= requiredAddressFromDict
    let hitCount ← Fields.member fields "hit_count" >>= texts.toInt
    let registers ← registerSnapshotFromDict texts (Json.getField fields "registers")
    let captured ← (Fields.getOr fields "memory" (.arr [])).iterate
    let memory ← captured.mapM (memoryObservationFromDict texts)
    let backtrace ← backtraceFromDict texts (Json.getField fields "backtrace")
    let warnings ← (Fields.getOr fields "warnings" (.arr [])).iterate
    return { sessionId, sequence, breakpointAddress, hitCount, registers, memory, backtrace, warnings }
  | _ => .error (.workspaceError "invalid RuntimeBreakpointObservation in runtime evidence")

def reconciliationFromDict (payload : Json) : Except DecompileFailure Reconciliation :=
  match payload with
  | .obj fields => missingMember "RuntimeReconciliation" do
    let staticKind ← texts.toText <$> Fields.member fields "static_kind"
    let staticAddress ← addressFromDict (Json.getField fields "static_address")
    let staticEvidence ← (Fields.getOr fields "static_evidence" (.arr [])).iterate
    let runtimeAddress ← Fields.member fields "runtime_address" >>= requiredAddressFromDict
    let resolvedModuleOffset ← addressFromDict (Json.getField fields "resolved_module_offset")
    let observationCount ← Fields.member fields "observation_count" >>= texts.toInt
    let status ← texts.toText <$> Fields.member fields "status"
    let conflicts ← (Fields.getOr fields "conflicts" (.arr [])).iterate
    return {
      staticKind, staticAddress, staticEvidence, runtimeAddress, resolvedModuleOffset, observationCount, status
      conflicts }
  | _ => .error (.workspaceError "invalid RuntimeReconciliation in runtime evidence")

def sessionInfoFromDict (sessionId : String) (payload : Json) : Except DecompileFailure RuntimeSessionInfo :=
  match payload with
  | .obj fields => missingMember "runtime session info" do
    let sessionId ← texts.toText <$> Fields.member fields "session_id"
    let host ← texts.toText <$> Fields.member fields "host"
    let port ← Fields.member fields "port" >>= texts.toInt
    return {
      sessionId, host, port, ppssppRevision := Json.getField fields "ppsspp_revision"
      workspaceSourceIdentity := Json.getField fields "workspace_source_identity" }
  | _ => .error (.workspaceError s!"invalid runtime session info: {sessionId}")

/-- A document that is a list of records. -/
def recordsFromList {α : Type} (invalid : String) (fromDict : Json → Except DecompileFailure α) :
    Json → Except DecompileFailure (List α)
  | .arr items => items.mapM fromDict
  | _ => .error (.workspaceError invalid)

end Decoding

section Encoding

/-- `asdict(address)`. -/
def addressToDict (address : RuntimeAddress) : Json := .obj [
  ("domain", .str address.domain),
  ("value", .int address.value),
  ("module_path", .ofOption .str address.modulePath)]

def sessionInfoToDict (info : RuntimeSessionInfo) : Json := .obj [
  ("session_id", .str info.sessionId),
  ("host", .str info.host),
  ("port", .int info.port),
  ("ppsspp_revision", info.ppssppRevision),
  ("workspace_source_identity", info.workspaceSourceIdentity)]

def moduleToDict (module : Module) : Json := .obj [
  ("name", module.name),
  ("runtime_base", addressToDict module.runtimeBase),
  ("runtime_size", module.runtimeSize),
  ("static_module_path", module.staticModulePath),
  ("resolution_status", .str module.resolutionStatus),
  ("evidence", .arr module.evidence)]

def registerSnapshotToDict (snapshot : RegisterSnapshot String) : Json := .obj [
  ("session_id", .str snapshot.sessionId),
  ("sequence", .int snapshot.sequence),
  ("registers", .obj snapshot.registers)]

def memoryObservationToDict (memory : MemoryObservation) : Json := .obj [
  ("session_id", .str memory.sessionId),
  ("sequence", .int memory.sequence),
  ("address", addressToDict memory.address),
  ("size", .int memory.size),
  ("sha256", .str memory.sha256)]

def backtraceToDict (backtrace : Backtrace) : Json := .obj [
  ("session_id", .str backtrace.sessionId),
  ("sequence", .int backtrace.sequence),
  ("frames", .arr (backtrace.frames.map addressToDict))]

def observationToDict (observation : BreakpointObservation String) : Json := .obj [
  ("session_id", .str observation.sessionId),
  ("sequence", .int observation.sequence),
  ("breakpoint_address", addressToDict observation.breakpointAddress),
  ("hit_count", .int observation.hitCount),
  ("registers", .ofOption registerSnapshotToDict observation.registers),
  ("memory", .arr (observation.memory.map memoryObservationToDict)),
  ("backtrace", .ofOption backtraceToDict observation.backtrace),
  ("warnings", .arr observation.warnings)]

def reconciliationToDict (reconciliation : Reconciliation) : Json := .obj [
  ("static_kind", .str reconciliation.staticKind),
  ("static_address", .ofOption addressToDict reconciliation.staticAddress),
  ("static_evidence", .arr reconciliation.staticEvidence),
  ("runtime_address", addressToDict reconciliation.runtimeAddress),
  ("resolved_module_offset", .ofOption addressToDict reconciliation.resolvedModuleOffset),
  ("observation_count", .int reconciliation.observationCount),
  ("status", .str reconciliation.status),
  ("conflicts", .arr reconciliation.conflicts)]

end Encoding

section RoundTrip
variable (texts : ValueTexts)

@[simp] theorem missingMember_ok {α : Type} (record : String) (value : α) : missingMember record (.ok value) = .ok value := rfl

@[simp] theorem addressFromDict_toDict (address : RuntimeAddress) :
    addressFromDict (addressToDict address) = .ok (some address) := by
  obtain ⟨domain, value, path⟩ := address
  cases path with
  | none => rfl
  | some path => rfl

@[simp] theorem addressFromDict_ofOption (address : Option RuntimeAddress) :
    addressFromDict (.ofOption addressToDict address) = .ok address := by
  cases address with
  | none => rfl
  | some address => exact addressFromDict_toDict address

@[simp] theorem requiredAddressFromDict_toDict (address : RuntimeAddress) :
    requiredAddressFromDict (addressToDict address) = .ok address := by
  rw [requiredAddressFromDict, addressFromDict_toDict]
  rfl

theorem sessionInfoFromDict_toDict (sessionId : String) (info : RuntimeSessionInfo) :
    sessionInfoFromDict texts sessionId (sessionInfoToDict info) = .ok info := rfl

theorem moduleFromDict_toDict (module : Module) : moduleFromDict texts (moduleToDict module) = .ok module := by
  simp [moduleFromDict, moduleToDict, Fields.member, Fields.getOr, Json.getField, Dict.get?, Json.iterate,
    ValueTexts.toText, pure, Except.pure]

theorem registerSnapshotFromDict_ofOption (snapshot : Option (RegisterSnapshot String)) :
    registerSnapshotFromDict texts (.ofOption registerSnapshotToDict snapshot) =
      .ok (snapshot.map RegisterSnapshot.anyKeys) := by
  cases snapshot with
  | none => rfl
  | some snapshot => rfl

theorem memoryObservationFromDict_toDict (memory : MemoryObservation) :
    memoryObservationFromDict texts (memoryObservationToDict memory) = .ok memory := by
  simp [memoryObservationFromDict, memoryObservationToDict, Fields.member, Dict.get?, ValueTexts.toText,
    ValueTexts.toInt, pure, Except.pure]

theorem backtraceFromDict_ofOption (backtrace : Option Backtrace) :
    backtraceFromDict texts (.ofOption backtraceToDict backtrace) = .ok backtrace := by
  cases backtrace with
  | none => rfl
  | some backtrace =>
    have frames := mapM_map_ok requiredAddressFromDict_toDict backtrace.frames
    simp [backtraceFromDict, Json.ofOption, backtraceToDict, Fields.member, Fields.getOr, Dict.get?, Json.iterate,
      ValueTexts.toText, ValueTexts.toInt, frames, pure, Except.pure, -List.mapM_map]

theorem observationFromDict_toDict (observation : BreakpointObservation String) :
    observationFromDict texts (observationToDict observation) = .ok observation.anyKeys := by
  have memory := mapM_map_ok (memoryObservationFromDict_toDict texts) observation.memory
  have registers := registerSnapshotFromDict_ofOption texts observation.registers
  have backtrace := backtraceFromDict_ofOption texts observation.backtrace
  simp [observationFromDict, observationToDict, Fields.member, Fields.getOr, Json.getField, Dict.get?, Json.iterate,
    ValueTexts.toText, ValueTexts.toInt, memory, registers, backtrace, BreakpointObservation.anyKeys, pure,
    Except.pure, -List.mapM_map]

theorem reconciliationFromDict_toDict (reconciliation : Reconciliation) :
    reconciliationFromDict texts (reconciliationToDict reconciliation) = .ok reconciliation := by
  simp [reconciliationFromDict, reconciliationToDict, Fields.member, Fields.getOr, Json.getField, Dict.get?,
    Json.iterate, ValueTexts.toText, ValueTexts.toInt, pure, Except.pure]

/-- A list of records is read back when each record is. -/
theorem recordsFromList_map {α β : Type} {invalid : String} {fromDict : Json → Except DecompileFailure α}
    {toDict : β → Json} {read : β → α} (each : ∀ record, fromDict (toDict record) = .ok (read record)) (records : List β) :
    recordsFromList invalid fromDict (.arr (records.map toDict)) = .ok (records.map read) := by
  rw [recordsFromList]
  refine mapM_ok.mpr (List.forall₂_map_left_iff.mpr (List.forall₂_map_right_iff.mpr ?_))
  exact List.forall₂_same.mpr fun record _ => each record

end RoundTrip

end Evidence

end PspDisasm
