import PspDisasm.Decompile.StateValues
import PspDisasm.Foundations.Verdicts
import PspDisasm.Runtime.EvidencePersistence

namespace PspDisasm
open Foundations

def DecompileFailure.isWorkspaceError : DecompileFailure → Bool
  | .workspaceError _ => true
  | _ => false

/-- The exceptions that a constructor of a record has a handler for, or passes on as they are meant. -/
def DecompileFailure.isHandled : DecompileFailure → Bool
  | .workspaceError _ => true
  | .keyError _ => true
  | _ => false

namespace Evidence

/-- What a JSON value is worth where a loader reads it. -/
abbrev Screen := Json → Verdict

namespace Screen

def anything : Screen := fun _ => .reads

/-- A value for `int(value)`. -/
def integer (texts : ValueTexts) : Screen
  | .bool _ => .reads
  | .int _ => .reads
  | .float (some _) => .reads
  | .str text => if (texts.parseInt text).isSome then .reads else .breaks
  | _ => .breaks

/-- A value for `list(value)`. -/
def iterable : Screen
  | .arr _ => .reads
  | .str _ => .reads
  | .obj _ => .reads
  | _ => .breaks

def elements : Json → List Json
  | .arr items => items
  | .str text => text.toList.map fun c => .str (String.singleton c)
  | .obj fields => fields.map fun item => .str item.1
  | _ => []

/-- A value for a loop that reads each element. -/
def each (screen : Screen) : Screen := fun value => (iterable value).andThen (.first ((elements value).map screen))

/-- An element of a sequence for `dict(value)`: two values, of which the first is no list and no object. -/
def pair : Screen := fun value =>
  match elements value with
  | [key, _] => if key.hashable then .reads else .breaks
  | _ => .breaks

/-- A value for `dict(value)`. -/
def dictionary : Screen
  | .obj _ => .reads
  | value => each pair value

def address : Screen
  | .obj fields =>
    match Json.getField fields "domain", (Json.getField fields "value").int? with
    | .str _, some _ => .reads
    | _, _ => .refused
  | _ => .refused

def optional (screen : Screen) : Screen
  | .null => .reads
  | value => screen value

/-- A member that a record must have. -/
def required (key : String) (screen : Screen) (fields : Fields) : Verdict :=
  match fields.get? key with
  | some value => screen value
  | none => .refused

/-- A member that a record may have. -/
def defaulted (key : String) (screen : Screen) (fields : Fields) : Verdict :=
  match fields.get? key with
  | some value => screen value
  | none => .reads

/-- A record, whose members are read in this order. -/
def record (members : List (Fields → Verdict)) : Screen
  | .obj fields => .first (members.map fun member => member fields)
  | _ => .refused

def records (screen : Screen) : Screen
  | .arr items => .first (items.map screen)
  | _ => .refused

section Records
variable (texts : ValueTexts)

def sessionInfo : Screen := record [
  required "session_id" anything,
  required "host" anything,
  required "port" (integer texts)]

def module : Screen := record [
  required "runtime_base" address,
  required "resolution_status" anything,
  defaulted "evidence" iterable]

def registerSnapshot : Screen := record [
  required "session_id" anything,
  required "sequence" (integer texts),
  defaulted "registers" dictionary]

def memoryObservation : Screen := record [
  required "session_id" anything,
  required "sequence" (integer texts),
  required "address" address,
  required "size" (integer texts),
  required "sha256" anything]

def backtrace : Screen := record [
  required "session_id" anything,
  required "sequence" (integer texts),
  defaulted "frames" (each address)]

def observation : Screen := record [
  required "session_id" anything,
  required "sequence" (integer texts),
  required "breakpoint_address" address,
  required "hit_count" (integer texts),
  defaulted "registers" (optional (registerSnapshot texts)),
  defaulted "memory" (each (memoryObservation texts)),
  defaulted "backtrace" (optional (backtrace texts)),
  defaulted "warnings" iterable]

def reconciliation : Screen := record [
  required "static_kind" anything,
  defaulted "static_address" (optional address),
  defaulted "static_evidence" iterable,
  required "runtime_address" address,
  defaulted "resolved_module_offset" (optional address),
  required "observation_count" (integer texts),
  required "status" anything,
  defaulted "conflicts" iterable]

def attempt : Screen := record [
  required "attempt_id" anything,
  required "variant_reason" anything,
  required "assembly_sha256" anything,
  defaulted "context_sha256" iterable,
  defaulted "m2c_command" iterable,
  required "target" anything,
  required "outcome" anything,
  defaulted "diagnostics" iterable,
  defaulted "artifact_paths" dictionary]

def functionState : Screen := record [
  required "module" anything,
  required "function" anything,
  required "address" (integer texts),
  required "status" anything,
  defaulted "attempts" (integer texts),
  defaulted "static_evidence" iterable,
  defaulted "attempt_history" (each attempt)]

end Records

end Screen

section Verdicts
variable {α β : Type} {texts : ValueTexts} {fields : Fields} {key : String} {screen : Screen}

theorem verdict_step {ε : Type} {expected : ε → Bool} {x : Except ε α} {f : α → Except ε β} {head : Verdict}
    {tail : List Verdict} (here : verdict expected x = head)
    (rest : ∀ a, x = .ok a → verdict expected (f a) = .first tail) :
    verdict expected (x >>= f) = .first (head :: tail) := by
  rw [verdict_bind rest, here, Verdict.first_cons]

theorem toInt_verdict (value : Json) :
    verdict DecompileFailure.isHandled (texts.toInt value) = Screen.integer texts value := by
  cases value with
  | float value => cases value <;> rfl
  | str text =>
    rw [ValueTexts.toInt, Screen.integer]
    cases texts.parseInt text <;> rfl
  | _ => rfl

theorem iterate_verdict (value : Json) : verdict DecompileFailure.isHandled value.iterate = Screen.iterable value := by
  cases value <;> rfl

theorem iterate_elements {value : Json} {items : List Json} (read : value.iterate = .ok items) : items = Screen.elements value := by
  cases value <;> cases read <;> rfl

/-- A loop over a value, with what follows it. -/
theorem each_verdict {f : Json → Except DecompileFailure α} {rest : List α → Except DecompileFailure β} {tail : List Verdict}
    (screened : ∀ item, verdict DecompileFailure.isHandled (f item) = screen item) (value : Json)
    (after : ∀ a, verdict DecompileFailure.isHandled (rest a) = .first tail) :
    verdict DecompileFailure.isHandled (do
      let items ← value.iterate
      let read ← items.mapM f
      rest read) = .first (Screen.each screen value :: tail) := by
  have looped (items : List Json) (read : value.iterate = .ok items) :
      verdict DecompileFailure.isHandled (items.mapM f >>= rest) =
        (Verdict.first ((Screen.elements value).map screen)).andThen (.first tail) := by
    rw [verdict_bind fun a _ => after a, verdict_mapM, funext screened, iterate_elements read]
  rw [verdict_bind looped, iterate_verdict, ← Verdict.andThen_assoc, Verdict.first_cons]
  rfl

theorem member_verdict {f : Json → Except DecompileFailure α}
    (screened : ∀ value, verdict DecompileFailure.isHandled (f value) = screen value) :
    verdict DecompileFailure.isHandled (Fields.member fields key >>= f) = Screen.required key screen fields := by
  unfold Fields.member Screen.required
  cases fields.get? key with
  | none => rfl
  | some value => exact screened value

theorem text_verdict {f : Json → α} :
    verdict DecompileFailure.isHandled (f <$> Fields.member fields key) = Screen.required key .anything fields := by
  unfold Fields.member Screen.required
  cases fields.get? key <;> rfl

theorem getOr_verdict {f : Json → Except DecompileFailure α} {default : Json}
    (screened : ∀ value, verdict DecompileFailure.isHandled (f value) = screen value) (reads : screen default = .reads) :
    verdict DecompileFailure.isHandled (f (Fields.getOr fields key default)) = Screen.defaulted key screen fields := by
  unfold Fields.getOr Screen.defaulted
  cases fields.get? key with
  | none => exact (screened default).trans reads
  | some value => exact screened value

/-- A member that is `None` when it is absent. -/
theorem getField_verdict {f : Json → Except DecompileFailure α}
    (screened : ∀ value, verdict DecompileFailure.isHandled (f value) = screen value) (reads : screen .null = .reads) :
    verdict DecompileFailure.isHandled (f (Json.getField fields key)) = Screen.defaulted key screen fields :=
  getOr_verdict screened reads

/-- A loop over a member, with what follows it. -/
theorem eachMember_verdict {f : Json → Except DecompileFailure α} {rest : List α → Except DecompileFailure β} {tail : List Verdict}
    (screened : ∀ item, verdict DecompileFailure.isHandled (f item) = screen item)
    (after : ∀ a, verdict DecompileFailure.isHandled (rest a) = .first tail) :
    verdict DecompileFailure.isHandled (do
      let items ← (Fields.getOr fields key (.arr [])).iterate
      let read ← items.mapM f
      rest read) = .first (Screen.defaulted key (Screen.each screen) fields :: tail) := by
  have member : Screen.each screen (Fields.getOr fields key (.arr [])) = Screen.defaulted key (Screen.each screen) fields := by
    unfold Fields.getOr Screen.defaulted
    cases fields.get? key <;> rfl
  rw [each_verdict screened _ after, member]

theorem missingMember_handled (record : String) (x : Except DecompileFailure α) :
    verdict DecompileFailure.isHandled (missingMember record x) = verdict DecompileFailure.isHandled x := by
  cases x with
  | ok a => rfl
  | error raised => cases raised <;> rfl

/-- Outside the handler of a record, only its workspace errors are left of what it expects. -/
theorem missingMember_verdict (record : String) (x : Except DecompileFailure α) :
    verdict DecompileFailure.isWorkspaceError (missingMember record x) = verdict DecompileFailure.isHandled x := by
  cases x with
  | ok a => rfl
  | error raised => cases raised <;> rfl

theorem pair_verdict (element : Json) : verdict DecompileFailure.isHandled element.pair = Screen.pair element := by
  have listed (items : List Json) (read : element.iterate = .ok items) :
      verdict DecompileFailure.isHandled element.pair = Screen.pair element := by
    rw [Json.pair, Screen.pair, read, iterate_elements read]
    rcases Screen.elements element with _ | ⟨key, _ | ⟨value, _ | ⟨more, items⟩⟩⟩
    · rfl
    · rfl
    · dsimp only
      cases key.hashable <;> rfl
    · rfl
  cases element with
  | str text => exact listed _ rfl
  | arr items => exact listed _ rfl
  | obj fields => exact listed _ rfl
  | _ => rfl

theorem entries_verdict (value : Json) : verdict DecompileFailure.isHandled value.entries = Screen.dictionary value := by
  have looped (other : Json) : verdict DecompileFailure.isHandled (do
      let elements ← other.iterate
      let pairs ← elements.mapM Json.pair
      return pairs.foldl Json.setItem []) = Screen.each Screen.pair other := by
    rw [← Verdict.first_singleton (Screen.each Screen.pair other)]
    exact each_verdict pair_verdict other fun _ => rfl
  cases value with
  | obj fields => rfl
  | _ => exact looped _

theorem addressFromDict_obj (fields : Fields) :
    (∃ address, addressFromDict (.obj fields) = .ok (some address)) ∧ Screen.address (.obj fields) = .reads ∨
      (∃ message, addressFromDict (.obj fields) = .error (.workspaceError message)) ∧ Screen.address (.obj fields) = .refused := by
  rw [addressFromDict, Screen.address]
  split
  · rename_i domain value path atDomain atValue atPath
    rw [atDomain, atValue]
    exact Or.inl ⟨⟨_, rfl⟩, rfl⟩
  · rename_i atDomain atValue _
    rw [atDomain, atValue]
    exact Or.inl ⟨⟨_, rfl⟩, rfl⟩
  · rename_i noAddress _
    refine Or.inr ⟨⟨_, rfl⟩, ?_⟩
    split
    · rename_i atDomain atValue
      exact (noAddress _ _ atDomain atValue).elim
    · rfl

theorem address_verdict (value : Json) :
    verdict DecompileFailure.isHandled (addressFromDict value) = Screen.optional Screen.address value := by
  cases value with
  | obj fields =>
    change _ = Screen.address (.obj fields)
    obtain ⟨⟨address, read⟩, screened⟩ | ⟨⟨message, read⟩, screened⟩ := addressFromDict_obj fields
    · rw [read, screened]
      rfl
    · rw [read, screened]
      rfl
  | _ => rfl

theorem requiredAddress_verdict (value : Json) :
    verdict DecompileFailure.isHandled (requiredAddressFromDict value) = Screen.address value := by
  cases value with
  | obj fields =>
    rw [requiredAddressFromDict]
    obtain ⟨⟨address, read⟩, screened⟩ | ⟨⟨message, read⟩, screened⟩ := addressFromDict_obj fields
    · rw [read, screened]
      rfl
    · rw [read, screened]
      rfl
  | _ => rfl

end Verdicts

section Records
variable (texts : ValueTexts)

theorem registerSnapshot_verdict (value : Json) :
    verdict DecompileFailure.isHandled (registerSnapshotFromDict texts value) =
      Screen.optional (Screen.registerSnapshot texts) value := by
  cases value with
  | obj fields =>
    exact verdict_step text_verdict fun _ _ => verdict_step (member_verdict toInt_verdict) fun _ _ =>
      verdict_step (getOr_verdict entries_verdict rfl) fun _ _ => rfl
  | _ => rfl

theorem memoryObservation_verdict (value : Json) :
    verdict DecompileFailure.isHandled (memoryObservationFromDict texts value) = Screen.memoryObservation texts value := by
  cases value with
  | obj fields =>
    exact verdict_step text_verdict fun _ _ => verdict_step (member_verdict toInt_verdict) fun _ _ =>
      verdict_step (member_verdict requiredAddress_verdict) fun _ _ => verdict_step (member_verdict toInt_verdict) fun _ _ =>
      verdict_step text_verdict fun _ _ => rfl
  | _ => rfl

theorem backtrace_verdict (value : Json) :
    verdict DecompileFailure.isHandled (backtraceFromDict texts value) = Screen.optional (Screen.backtrace texts) value := by
  cases value with
  | obj fields =>
    exact verdict_step text_verdict fun _ _ => verdict_step (member_verdict toInt_verdict) fun _ _ =>
      eachMember_verdict requiredAddress_verdict fun _ => rfl
  | _ => rfl

theorem sessionInfo_verdict (sessionId : String) (value : Json) :
    verdict DecompileFailure.isWorkspaceError (sessionInfoFromDict texts sessionId value) = Screen.sessionInfo texts value := by
  cases value with
  | obj fields =>
    rw [sessionInfoFromDict, missingMember_verdict]
    exact verdict_step text_verdict fun _ _ => verdict_step text_verdict fun _ _ =>
      verdict_step (member_verdict toInt_verdict) fun _ _ => rfl
  | _ => rfl

theorem module_verdict (value : Json) :
    verdict DecompileFailure.isWorkspaceError (moduleFromDict texts value) = Screen.module value := by
  cases value with
  | obj fields =>
    rw [moduleFromDict, missingMember_verdict]
    exact verdict_step (member_verdict requiredAddress_verdict) fun _ _ => verdict_step text_verdict fun _ _ =>
      verdict_step (getOr_verdict iterate_verdict rfl) fun _ _ => rfl
  | _ => rfl

theorem observation_verdict (value : Json) :
    verdict DecompileFailure.isWorkspaceError (observationFromDict texts value) = Screen.observation texts value := by
  cases value with
  | obj fields =>
    rw [observationFromDict, missingMember_verdict]
    exact verdict_step text_verdict fun _ _ => verdict_step (member_verdict toInt_verdict) fun _ _ =>
      verdict_step (member_verdict requiredAddress_verdict) fun _ _ => verdict_step (member_verdict toInt_verdict) fun _ _ =>
      verdict_step (getField_verdict (registerSnapshot_verdict texts) rfl) fun _ _ =>
      eachMember_verdict (memoryObservation_verdict texts) fun _ =>
      verdict_step (getField_verdict (backtrace_verdict texts) rfl) fun _ _ =>
      verdict_step (getOr_verdict iterate_verdict rfl) fun _ _ => rfl
  | _ => rfl

theorem reconciliation_verdict (value : Json) :
    verdict DecompileFailure.isWorkspaceError (reconciliationFromDict texts value) = Screen.reconciliation texts value := by
  cases value with
  | obj fields =>
    rw [reconciliationFromDict, missingMember_verdict]
    exact verdict_step text_verdict fun _ _ => verdict_step (getField_verdict address_verdict rfl) fun _ _ =>
      verdict_step (getOr_verdict iterate_verdict rfl) fun _ _ =>
      verdict_step (member_verdict requiredAddress_verdict) fun _ _ =>
      verdict_step (getField_verdict address_verdict rfl) fun _ _ =>
      verdict_step (member_verdict toInt_verdict) fun _ _ => verdict_step text_verdict fun _ _ =>
      verdict_step (getOr_verdict iterate_verdict rfl) fun _ _ => rfl
  | _ => rfl

theorem attempt_verdict (value : Json) :
    verdict DecompileFailure.isHandled (attemptFromDict texts value) = Screen.attempt value := by
  cases value with
  | obj fields =>
    rw [attemptFromDict, missingMember_handled]
    exact verdict_step text_verdict fun _ _ => verdict_step text_verdict fun _ _ => verdict_step text_verdict fun _ _ =>
      verdict_step (getOr_verdict iterate_verdict rfl) fun _ _ => verdict_step (getOr_verdict iterate_verdict rfl) fun _ _ =>
      verdict_step text_verdict fun _ _ => verdict_step text_verdict fun _ _ =>
      verdict_step (getOr_verdict iterate_verdict rfl) fun _ _ =>
      verdict_step (getOr_verdict entries_verdict rfl) fun _ _ => rfl
  | _ => rfl

theorem functionState_verdict (value : Json) :
    verdict DecompileFailure.isWorkspaceError (stateFromDict texts value) = Screen.functionState texts value := by
  cases value with
  | obj fields =>
    rw [stateFromDict, missingMember_verdict]
    exact verdict_step text_verdict fun _ _ => verdict_step text_verdict fun _ _ =>
      verdict_step (member_verdict toInt_verdict) fun _ _ => verdict_step text_verdict fun _ _ =>
      verdict_step (getOr_verdict toInt_verdict rfl) fun _ _ => verdict_step (getOr_verdict iterate_verdict rfl) fun _ _ =>
      eachMember_verdict (attempt_verdict texts) fun _ => rfl
  | _ => rfl

theorem recordsFromList_verdict {α : Type} {expected : DecompileFailure → Bool} {fromDict : Json → Except DecompileFailure α}
    {screen : Screen} {invalid : String} (refuses : expected (.workspaceError invalid) = true)
    (screened : ∀ value, verdict expected (fromDict value) = screen value) (value : Json) :
    verdict expected (recordsFromList invalid fromDict value) = Screen.records screen value := by
  cases value with
  | arr items => rw [recordsFromList, verdict_mapM, funext screened, Screen.records]
  | _ => exact if_pos refuses

end Records

section Loaders
variable (tools : Tools)

/-- `load_function_state` of any document. -/
def loadFunctionState (disk : StoreDisk) (module function : String) : Except DecompileFailure (Option FunctionState) := do
  PspDisasm.validateSchemaIfPresent tools.toStoreTools disk
  let target ← functionDir tools.toStoreTools module function
  match fileAt disk (target ++ ["state.json"]) with
  | none => return none
  | some contents => do
    let payload ← loadJsonFile contents s!"functions/{module}/{function}/state.json"
    some <$> stateFromDict tools.toValueTexts payload

/-- How a loader ends. -/
def Place.call (disk : StoreDisk) : Place → Except DecompileFailure Unit
  | .session sessionId => (fun _ => ()) <$> loadSessionInfo tools disk sessionId
  | .observations sessionId => (fun _ => ()) <$> loadObservations tools disk sessionId
  | .moduleMap => (fun _ => ()) <$> loadModuleMap tools disk
  | .reconciliation => (fun _ => ()) <$> loadReconciliation tools disk
  | .functionState module function => (fun _ => ()) <$> loadFunctionState tools disk module function

/-- A disk with a valid schema file or none, and the document in the file that a loader opens. -/
def Place.Stores (disk : StoreDisk) (document : Json) : Place → Prop
  | .session sessionId =>
    validateSchemaIfPresent tools disk = .ok () ∧ ValidSessionId tools sessionId ∧
      fileAt disk (sessionPath sessionId) = some (.ok document)
  | .observations sessionId =>
    validateSchemaIfPresent tools disk = .ok () ∧ ValidSessionId tools sessionId ∧
      fileAt disk (observationsPath sessionId) = some (.ok document)
  | .moduleMap => validateSchemaIfPresent tools disk = .ok () ∧ fileAt disk modulesPath = some (.ok document)
  | .reconciliation => validateSchemaIfPresent tools disk = .ok () ∧ fileAt disk reconciliationPath = some (.ok document)
  | .functionState module function =>
    PspDisasm.validateSchemaIfPresent tools.toStoreTools disk = .ok () ∧
      ∃ target, functionDir tools.toStoreTools module function = .ok target ∧
        fileAt disk (target ++ ["state.json"]) = some (.ok document)

/-- What a document is worth in the place of a kind of evidence. -/
def Place.screen : Place → Screen
  | .session _ => .sessionInfo tools.toValueTexts
  | .observations _ => .records (.observation tools.toValueTexts)
  | .moduleMap => .records .module
  | .reconciliation => .records (.reconciliation tools.toValueTexts)
  | .functionState _ _ => .functionState tools.toValueTexts

variable {tools} {disk : StoreDisk} {document : Json}

theorem Place.call_verdict {place : Place} (stored : place.Stores tools disk document) :
    verdict DecompileFailure.isWorkspaceError (place.call tools disk) = place.screen tools document := by
  cases place with
  | session sessionId =>
    obtain ⟨valid, ⟨safe, named⟩, stored⟩ := stored
    rw [Place.call, verdict_map, loadSessionInfo, valid, ok_bind, safe, ok_bind,
      loadJson_stored (sessionPath_named named) stored, ok_bind, sessionInfo_verdict]
    rfl
  | observations sessionId =>
    obtain ⟨valid, ⟨safe, named⟩, stored⟩ := stored
    rw [Place.call, verdict_map, loadObservations, valid, ok_bind, safe, ok_bind,
      loadJson_stored (observationsPath_named named) stored, ok_bind,
      recordsFromList_verdict rfl (observation_verdict tools.toValueTexts)]
    rfl
  | moduleMap =>
    obtain ⟨valid, stored⟩ := stored
    rw [Place.call, verdict_map, loadModuleMap, valid, ok_bind, stored, Option.isSome_some, if_pos rfl,
      loadJson_stored (by decide) stored, ok_bind, recordsFromList_verdict rfl (module_verdict tools.toValueTexts)]
    rfl
  | reconciliation =>
    obtain ⟨valid, stored⟩ := stored
    rw [Place.call, verdict_map, loadReconciliation, valid, ok_bind, stored, Option.isSome_some, if_pos rfl,
      loadJson_stored (by decide) stored, ok_bind,
      recordsFromList_verdict rfl (reconciliation_verdict tools.toValueTexts)]
    rfl
  | functionState module function =>
    obtain ⟨valid, target, located, stored⟩ := stored
    rw [Place.call, verdict_map, loadFunctionState, valid, ok_bind, located, ok_bind, stored]
    change verdict _ (some <$> stateFromDict tools.toValueTexts document) = _
    rw [verdict_map, functionState_verdict]
    rfl

/-- The loader of a document returns or raises a workspace error just when, of the values it reads in turn, the first that
is not of the form it needs is one that it checks. -/
theorem Place.call_workspaceError_iff {place : Place} (stored : place.Stores tools disk document) :
    RaisesOnly (fun raised => raised.isWorkspaceError = true) (place.call tools disk) ↔
      place.screen tools document ≠ .breaks := by
  rw [raisesOnly_iff_verdict, Place.call_verdict stored]

end Loaders

/-- A disk with one file. -/
def oneFile (path : WorkspacePath) (document : Json) : StoreDisk := Function.update freshDisk path (some (.file (.ok document)))

theorem fileAt_oneFile (path : WorkspacePath) (document : Json) : fileAt (oneFile path document) path = some (.ok document) := by
  rw [fileAt, oneFile, Function.update_self]

theorem oneFile_valid {path : WorkspacePath} (apart : schemaPath ≠ path) (document : Json) :
    validateSchemaIfPresent plainTools (oneFile path document) = .ok () := by
  apply validateSchemaIfPresent_absent
  rw [fileAt, oneFile, Function.update_of_ne apart]
  rfl

/-- A module map of a module without its members is refused. -/
theorem emptyModule_refused :
    RaisesOnly (fun raised => raised.isWorkspaceError = true)
      (Place.moduleMap.call plainTools (oneFile modulesPath (.arr [.obj []]))) :=
  (@Place.call_workspaceError_iff plainTools _ (.arr [.obj []]) .moduleMap
    ⟨oneFile_valid (by decide) _, fileAt_oneFile _ _⟩).mpr (by decide)

/-- A hit whose count is null. -/
def uncountedHit : Json := .arr [.obj [
  ("session_id", .str "sess-1"),
  ("sequence", .int 1),
  ("breakpoint_address", .obj [("domain", .str "runtime"), ("value", .int 0)]),
  ("hit_count", .null)]]

/-- Reading it ends in a type error. -/
theorem uncountedHit_breaks : ¬∀ (place : Place) disk document, place.Stores plainTools disk document →
    RaisesOnly (fun raised => raised.isWorkspaceError = true) (place.call plainTools disk) := by
  intro handled
  have stored : (Place.observations "sess-1").Stores plainTools (oneFile (observationsPath "sess-1") uncountedHit) uncountedHit :=
    ⟨oneFile_valid (by decide) _, ⟨raiseIf_ok.mpr (by decide), by decide⟩, fileAt_oneFile _ _⟩
  have only := handled _ _ _ stored
  have broken := @Place.call_verdict plainTools _ uncountedHit (.observations "sess-1") stored
  rw [raisesOnly_iff_verdict, broken] at only
  exact only (by decide)

end Evidence

end PspDisasm
