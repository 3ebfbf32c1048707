import PspDisasm.Decompile.StoreLaws
import PspDisasm.Runtime.EvidenceRecords

namespace PspDisasm
open Foundations

namespace Evidence

def runtimeRoot : WorkspacePath := ["runtime"]
def schemaPath : WorkspacePath := runtimeRoot ++ ["schema_version.json"]
def sessionPath (sessionId : String) : WorkspacePath := runtimeRoot ++ ["sessions"] ++ [sessionId ++ ".json"]
def observationsPath (sessionId : String) : WorkspacePath := runtimeRoot ++ ["evidence", sessionId] ++ ["observations.json"]
def modulesPath : WorkspacePath := runtimeRoot ++ ["modules.json"]
def reconciliationPath : WorkspacePath := runtimeRoot ++ ["reconciliation.json"]

/-- A workspace whose runtime directory holds no links and shares nothing with the directories of the
decompilation. -/
structure Tools extends StoreTools, ValueTexts where
  runtimeApart : ∀ dir ∈ [resolve ["decompilation"], resolve ["decompilation", "functions"]],
    ¬runtimeRoot <+: dir ∧ ¬dir <+: runtimeRoot

section Store
variable (tools : Tools)

def nullByte (part : String) : Bool := '\x00' ∈ part.toList

/-- `_atomic_write_json`. A name with a null byte is refused by the first call of the system that gets it. -/
def writeJson (path : WorkspacePath) (value : Json) : StoreM Unit := do
  lifted (raiseIf (path.dropLast.any nullByte) (.valueError "embedded null byte"))
  mkdirParents path.dropLast
  lifted (raiseIf (nullByte (path.getLastD "")) (.valueError "embedded null byte"))
  replaceJson path value

def loadJson (disk : StoreDisk) (path : WorkspacePath) (label : String) : Except DecompileFailure Json := do
  raiseIf (path.any nullByte) (.valueError "embedded null byte")
  match disk path with
  | some (.file (.ok payload)) => .ok payload
  | some (.file (.error reason)) => .error (.workspaceError s!"runtime evidence is invalid: {label}: {reason}")
  | some .directory =>
    let location := "/".intercalate (tools.workspaceDir :: path)
    .error (.workspaceError s!"runtime evidence is invalid: {label}: [Errno 21] Is a directory: '{location}'")
  | none => .error (.workspaceError s!"runtime evidence is missing: {label}")

def runtimeSchemaVersion : Int := 1

def validateSchemaIfPresent (disk : StoreDisk) : Except DecompileFailure Unit :=
  if (fileAt disk schemaPath).isSome then do
    let payload ← loadJson tools disk schemaPath "runtime/schema_version.json"
    let unsupported := DecompileFailure.workspaceError s!"unsupported runtime evidence schema: {tools.reprJson payload}"
    match payload with
    | .obj fields => raiseIf (¬(Json.getField fields "schema_version").equalsInt runtimeSchemaVersion) unsupported
    | _ => .error unsupported
  else .ok ()

def ensureSchema : StoreM Unit := do
  let disk ← get
  if (fileAt disk schemaPath).isSome then lifted (validateSchemaIfPresent tools disk)
  else writeJson schemaPath (.obj [("schema_version", .int runtimeSchemaVersion)])

def safeSessionId (sessionId : String) : Except DecompileFailure Unit :=
  raiseIf (sessionId = "" ∨ '/' ∈ sessionId.toList ∨ '\\' ∈ sessionId.toList ∨ sessionId ∈ [".", ".."])
    (.workspaceError s!"unsafe runtime session id: {tools.reprText sessionId}")

/-- What every save of runtime evidence does. -/
def save (check : Except DecompileFailure Unit) (path : WorkspacePath) (payload : Json) : StoreM WorkspacePath := do
  ensureSchema tools
  lifted check
  writeJson path payload
  return path

def saveSessionInfo (info : RuntimeSessionInfo) : StoreM WorkspacePath :=
  save tools (safeSessionId tools info.sessionId) (sessionPath info.sessionId) (sessionInfoToDict info)

def saveObservations (sessionId : String) (observations : List (BreakpointObservation String)) : StoreM WorkspacePath :=
  save tools (safeSessionId tools sessionId) (observationsPath sessionId) (.arr (observations.map observationToDict))

def saveModuleMap (modules : List Module) : StoreM WorkspacePath :=
  save tools (.ok ()) modulesPath (.arr (modules.map moduleToDict))

def saveReconciliation (reconciliations : List Reconciliation) : StoreM WorkspacePath :=
  save tools (.ok ()) reconciliationPath (.arr (reconciliations.map reconciliationToDict))

def loadSessionInfo (disk : StoreDisk) (sessionId : String) : Except DecompileFailure RuntimeSessionInfo := do
  validateSchemaIfPresent tools disk
  safeSessionId tools sessionId
  let payload ← loadJson tools disk (sessionPath sessionId) s!"sessions/{sessionId}.json"
  sessionInfoFromDict tools.toValueTexts sessionId payload

def loadObservations (disk : StoreDisk) (sessionId : String) :
    Except DecompileFailure (List (BreakpointObservation Json)) := do
  validateSchemaIfPresent tools disk
  safeSessionId tools sessionId
  let payload ← loadJson tools disk (observationsPath sessionId) s!"evidence/{sessionId}/observations.json"
  recordsFromList s!"invalid runtime observations: {sessionId}" (observationFromDict tools.toValueTexts) payload

def loadModuleMap (disk : StoreDisk) : Except DecompileFailure (List Module) := do
  validateSchemaIfPresent tools disk
  if (fileAt disk modulesPath).isSome then do
    let payload ← loadJson tools disk modulesPath "modules.json"
    recordsFromList "invalid runtime module map" (moduleFromDict tools.toValueTexts) payload
  else return []

def loadReconciliation (disk : StoreDisk) : Except DecompileFailure (List Reconciliation) := do
  validateSchemaIfPresent tools disk
  if (fileAt disk reconciliationPath).isSome then do
    let payload ← loadJson tools disk reconciliationPath "reconciliation.json"
    recordsFromList "invalid runtime reconciliation evidence" (reconciliationFromDict tools.toValueTexts) payload
  else return []

end Store

/-- Outside the given files and what lies above the given directories, a disk is what it was. -/
def DiskFrame (files dirs : List WorkspacePath) (s t : StoreDisk) : Prop :=
  ∀ path ∉ files, (∀ dir ∈ dirs, ¬path <+: dir) → t path = s path

instance (files dirs : List WorkspacePath) : IsPreorder StoreDisk (DiskFrame files dirs) where
  refl _ _ _ _ := rfl
  trans _ _ _ first second path outside above := (second path outside above).trans (first path outside above)

section Frames
variable {path : WorkspacePath} {value : Json} {s t : StoreDisk}

theorem makeDirectory_diskFrame (reason : String) {parent dir : WorkspacePath} (above : parent <+: dir) (files : List WorkspacePath) :
    Maintains (DiskFrame files [dir]) (makeDirectory reason parent) := by
  intro s other _ notAbove
  unfold makeDirectory
  split
  · have different : other ≠ parent := by
      rintro rfl
      exact notAbove dir (List.mem_singleton_self dir) above
    exact Function.update_of_ne different _ _
  · rfl
  · rfl

theorem mkdirParents_diskFrame (dir : WorkspacePath) (files : List WorkspacePath) :
    Maintains (DiskFrame files [dir]) (mkdirParents dir) := by
  have each : ∀ parents : List WorkspacePath, (∀ parent ∈ parents, parent <+: dir) → Maintains (DiskFrame files [dir])
      (parents.forM fun parent => makeDirectory (if parent = dir then "File exists" else "Not a directory") parent) := by
    intro parents inside
    induction parents with
    | nil => exact Maintains.pure PUnit.unit
    | cons parent parents ih =>
      obtain ⟨first, rest⟩ := List.forall_mem_cons.mp inside
      exact (makeDirectory_diskFrame _ first files).bind fun _ => ih rest
  exact each _ fun parent listed => (List.mem_inits parent dir).mp (List.mem_of_mem_tail listed)

theorem unlessDirectory_diskFrame {op : DiskOp WorkspacePath Node} {files : List WorkspacePath} (dirs : List WorkspacePath)
    (touched : ∀ other, op.touches other → other ∈ files) : Maintains (DiskFrame files dirs) (unlessDirectory path op) := by
  intro s
  unfold unlessDirectory
  split
  · exact refl_of _ s
  · intro other outside _
    exact apply_untouched fun touches => outside (touched other touches)

theorem replaceJson_diskFrame (path : WorkspacePath) (value : Json) (dirs : List WorkspacePath) :
    Maintains (DiskFrame [tempName path, path] dirs) (replaceJson path value) := by
  refine Maintains.finallyDo (Maintains.bind ?_ fun _ => ?_) (Maintains.bind Maintains.getState fun s => ?_)
  · exact unlessDirectory_diskFrame dirs fun other touches => touches ▸ List.mem_cons_self
  · refine unlessDirectory_diskFrame dirs fun other touches => ?_
    rcases touches with rfl | rfl
    · exact List.mem_cons_self
    · exact List.mem_cons_of_mem _ List.mem_cons_self
  · split
    · exact unlessDirectory_diskFrame dirs fun other touches => touches ▸ List.mem_cons_self
    · exact Maintains.pure _

theorem atomicWriteJson_diskFrame (path : WorkspacePath) (value : Json) :
    Maintains (DiskFrame [tempName path, path] [path.dropLast]) (atomicWriteJson path value) :=
  (mkdirParents_diskFrame _ _).bind fun _ => replaceJson_diskFrame path value _

theorem writeJson_diskFrame (path : WorkspacePath) (value : Json) :
    Maintains (DiskFrame [tempName path, path] [path.dropLast]) (writeJson path value) := by
  refine (Maintains.lifted _).bind fun _ => (mkdirParents_diskFrame _ _).bind fun _ => ?_
  exact (Maintains.lifted _).bind fun _ => replaceJson_diskFrame path value _

/-- A path without null bytes is written as any other. -/
theorem writeJson_eq {dir : WorkspacePath} {name : String} (named : (dir ++ [name]).any nullByte = false) (value : Json) :
    writeJson (dir ++ [name]) value = atomicWriteJson (dir ++ [name]) value := by
  rw [List.any_append, List.any_cons, List.any_nil, Bool.or_false, Bool.or_eq_false_iff] at named
  funext s
  rw [writeJson, List.dropLast_concat, List.getLastD_concat, named.1, named.2, atomicWriteJson, List.dropLast_concat]
  rfl

/-- What a write that ends normally leaves in its place. -/
theorem writeJson_ok {dir : WorkspacePath} {name : String} (apart : tempName (dir ++ [name]) ≠ dir ++ [name])
    (ran : writeJson (dir ++ [name]) value s = .ok () t) :
    (dir ++ [name]).any nullByte = false ∧ fileAt t (dir ++ [name]) = some (.ok value) := by
  have named : (dir ++ [name]).any nullByte = false := by
    obtain ⟨_, _, first, rest⟩ := effect_bind_ok.mp ran
    obtain ⟨_, _, _, rest⟩ := effect_bind_ok.mp rest
    obtain ⟨_, _, last, _⟩ := effect_bind_ok.mp rest
    have notDir := raiseIf_ok.mp (lifted_ok.mp first).1
    have notLast := raiseIf_ok.mp (lifted_ok.mp last).1
    rw [List.dropLast_concat] at notDir
    rw [List.getLastD_concat] at notLast
    rw [List.any_append, List.any_cons, List.any_nil, Bool.eq_false_iff.mpr notDir, Bool.eq_false_iff.mpr notLast]
    rfl
  refine ⟨named, ?_⟩
  rw [writeJson_eq named] at ran
  obtain ⟨_, ⟨final, again, written⟩ | ⟨_, _, again, _⟩⟩ := atomicWriteJson_cases value s apart
  · cases ran.symm.trans again
    exact written
  · cases ran.symm.trans again

theorem fileAt_some {contents : Except String Json} : fileAt s path = some contents ↔ s path = some (.file contents) := by
  unfold fileAt
  split
  · rename_i found
    rw [found]
    simp
  · rename_i other
    exact ⟨fun found => by (cases found), fun found => absurd found (other contents)⟩

theorem DiskFrame.mono {few many above : List WorkspacePath} {dirs : List WorkspacePath} (frame : DiskFrame few dirs s t)
    (files : few ⊆ many) (wider : dirs ⊆ above) : DiskFrame many above s t := by
  intro other outside notAbove
  exact frame other (fun listed => outside (files listed)) fun dir listed => notAbove dir (wider listed)

theorem DiskFrame.fileAt {files dirs : List WorkspacePath} (frame : DiskFrame files dirs s t) (outside : path ∉ files)
    (notAbove : ∀ dir ∈ dirs, ¬path <+: dir) : fileAt t path = fileAt s path := by
  rw [PspDisasm.fileAt, PspDisasm.fileAt, frame path outside notAbove]

/-- The name of a document is never that of a temporary file. -/
theorem json_ne_tmp (stem other : String) : stem ++ ".json" ≠ other ++ ".tmp" := by
  intro same
  have last : (stem ++ ".json").toList.getLast? = (other ++ ".tmp").toList.getLast? := by rw [same]
  have ofJson : ".json".toList.getLast? = some 'n' := by decide
  have ofTmp : ".tmp".toList.getLast? = some 'p' := by decide
  rw [String.toList_append, String.toList_append, List.getLast?_append, List.getLast?_append, ofJson, ofTmp] at last
  cases last

theorem tempName_ne {dir other : WorkspacePath} {stem name : String} : other ++ [stem ++ ".json"] ≠ tempName (dir ++ [name]) := by
  rw [tempName_concat]
  exact concat_ne (json_ne_tmp stem ("." ++ name))

end Frames

section Effects
variable {tools : Tools} {check : Except DecompileFailure Unit} {dir path : WorkspacePath} {stem : String} {payload : Json}
  {s t : StoreDisk}

theorem loadJson_congr (label : String) (same : t path = s path) : loadJson tools t path label = loadJson tools s path label := by
  rw [loadJson, loadJson, same]

theorem loadJson_stored {label : String} (named : path.any nullByte = false) (stored : fileAt s path = some (.ok payload)) :
    loadJson tools s path label = .ok payload := by
  rw [loadJson, named, fileAt_some.mp stored]
  rfl

theorem validateSchemaIfPresent_congr (same : t schemaPath = s schemaPath) :
    validateSchemaIfPresent tools t = validateSchemaIfPresent tools s := by
  rw [validateSchemaIfPresent, validateSchemaIfPresent, loadJson_congr _ same, fileAt, fileAt, same]

theorem validateSchemaIfPresent_absent (absent : fileAt s schemaPath = none) : validateSchemaIfPresent tools s = .ok () := by
  rw [validateSchemaIfPresent, absent]
  rfl

theorem validateSchemaIfPresent_written
    (written : fileAt s schemaPath = some (.ok (.obj [("schema_version", .int runtimeSchemaVersion)]))) :
    validateSchemaIfPresent tools s = .ok () := by
  rw [validateSchemaIfPresent, written, loadJson_stored (by decide) written]
  rfl

theorem ensureSchema_run (s : StoreDisk) : ensureSchema tools s =
    if (fileAt s schemaPath).isSome then lifted (validateSchemaIfPresent tools s) s
    else atomicWriteJson schemaPath (.obj [("schema_version", .int runtimeSchemaVersion)]) s := by
  change (if (fileAt s schemaPath).isSome then lifted (validateSchemaIfPresent tools s)
    else writeJson schemaPath (.obj [("schema_version", .int runtimeSchemaVersion)]) : StoreM Unit) s = _
  rw [schemaPath, writeJson_eq (by decide)]
  split <;> rfl

theorem ensureSchema_diskFrame : Maintains (DiskFrame [tempName schemaPath, schemaPath] [runtimeRoot]) (ensureSchema tools) := by
  intro s
  rw [ensureSchema_run]
  split
  · exact Maintains.lifted _ s
  · exact atomicWriteJson_diskFrame schemaPath _ s

theorem schemaPath_apart : tempName schemaPath ≠ schemaPath := by decide

/-- The check of the schema leaves a schema that is as valid as before, and ends normally only if it is. -/
theorem ensureSchema_valid (s : StoreDisk) :
    validateSchemaIfPresent tools (finalState (ensureSchema tools s)) = validateSchemaIfPresent tools s ∧
      (ensureSchema tools s = .ok () (finalState (ensureSchema tools s)) → validateSchemaIfPresent tools s = .ok ()) := by
  rw [ensureSchema_run]
  cases present : fileAt s schemaPath with
  | some contents =>
    rw [Option.isSome_some, if_pos rfl]
    cases checked : validateSchemaIfPresent tools s with
    | ok done => exact ⟨checked, fun _ => rfl⟩
    | error raised => exact ⟨checked, fun ok => by cases ok⟩
  | none =>
    have valid := @validateSchemaIfPresent_absent tools s present
    rw [Option.isSome_none, if_neg Bool.false_ne_true]
    refine ⟨?_, fun _ => valid⟩
    obtain ⟨_, ⟨t, ran, written⟩ | ⟨raised, t, ran, same⟩⟩ := atomicWriteJson_cases
      (.obj [("schema_version", .int runtimeSchemaVersion)]) s schemaPath_apart
    · rw [ran, valid]
      exact validateSchemaIfPresent_written written
    · rw [ran, valid]
      exact validateSchemaIfPresent_absent (same.trans present)

theorem save_diskFrame (check : Except DecompileFailure Unit) (path : WorkspacePath) (payload : Json) :
    Maintains (DiskFrame [tempName schemaPath, schemaPath, tempName path, path] [runtimeRoot, path.dropLast])
      (save tools check path payload) := by
  have first : Maintains (DiskFrame [tempName schemaPath, schemaPath, tempName path, path] [runtimeRoot, path.dropLast])
      (ensureSchema tools) := fun s => (ensureSchema_diskFrame s).mono (by simp) (by simp)
  have written : Maintains (DiskFrame [tempName schemaPath, schemaPath, tempName path, path] [runtimeRoot, path.dropLast])
      (writeJson path payload) := fun s => (writeJson_diskFrame path payload s).mono (by simp) (by simp)
  exact first.bind fun _ => (Maintains.lifted _).bind fun _ => written.bind fun _ => Maintains.pure path

/-- No save of runtime evidence changes what the schema file is worth. -/
theorem save_valid (notFile : schemaPath ≠ dir ++ [stem ++ ".json"]) (notAbove : ¬schemaPath <+: dir) (s : StoreDisk) :
    validateSchemaIfPresent tools (finalState (save tools check (dir ++ [stem ++ ".json"]) payload s)) =
      validateSchemaIfPresent tools s := by
  obtain ⟨valid, _⟩ := @ensureSchema_valid tools s
  have rest : Maintains (DiskFrame [tempName (dir ++ [stem ++ ".json"]), dir ++ [stem ++ ".json"]] [dir])
      (do lifted check; writeJson (dir ++ [stem ++ ".json"]) payload; return dir ++ [stem ++ ".json"] : StoreM WorkspacePath) := by
    refine (Maintains.lifted _).bind fun _ => Maintains.bind ?_ fun _ => Maintains.pure _
    have written := writeJson_diskFrame (dir ++ [stem ++ ".json"]) payload
    rwa [List.dropLast_concat] at written
  have frame := Maintains.after (ensureSchema tools) (fun _ : Unit => rest) s
  rw [← valid]
  refine validateSchemaIfPresent_congr (frame schemaPath ?_ ?_)
  · rw [List.mem_cons, List.mem_singleton, not_or]
    exact ⟨@tempName_ne _ runtimeRoot "schema_version" _, notFile⟩
  · rwa [List.forall_mem_singleton]

/-- What a save that ends normally has found and left. -/
theorem save_ok {final : WorkspacePath} (ran : save tools check (dir ++ [stem ++ ".json"]) payload s = .ok final t) :
    validateSchemaIfPresent tools s = .ok () ∧ check = .ok () ∧ (dir ++ [stem ++ ".json"]).any nullByte = false ∧
      fileAt t (dir ++ [stem ++ ".json"]) = some (.ok payload) := by
  obtain ⟨_, between, ensured, ran⟩ := effect_bind_ok.mp ran
  obtain ⟨_, _, checked, ran⟩ := effect_bind_ok.mp ran
  obtain ⟨passed, rfl⟩ := lifted_ok.mp checked
  obtain ⟨_, _, written, ran⟩ := effect_bind_ok.mp ran
  obtain ⟨_, rfl⟩ := effect_pure_ok.mp ran
  obtain ⟨named, stored⟩ := writeJson_ok (@tempName_ne dir dir stem _).symm written
  refine ⟨?_, passed, named, stored⟩
  obtain ⟨_, checkedSchema⟩ := @ensureSchema_valid tools s
  rw [ensured] at checkedSchema
  exact checkedSchema rfl

end Effects

end Evidence

end PspDisasm
