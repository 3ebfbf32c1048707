import PspDisasm.Runtime.EvidenceStore

namespace PspDisasm
open Foundations

namespace Evidence

inductive Kind
  | session
  | observations
  | moduleMap
  | reconciliation
  | functionState
deriving DecidableEq

/-- What a loader is asked for. -/
inductive Place
  | session (sessionId : String)
  | observations (sessionId : String)
  | moduleMap
  | reconciliation
  | functionState (module function : String)

/-- A value to save, with the session it belongs to where it does not name it itself. -/
inductive Saving
  | session (info : RuntimeSessionInfo)
  | observations (sessionId : String) (observations : List (BreakpointObservation String))
  | moduleMap (modules : List Module)
  | reconciliation (reconciliations : List Reconciliation)
  | functionState (state : FunctionDecompilationState)

inductive Loaded
  | session (info : RuntimeSessionInfo)
  | observations (observations : List (BreakpointObservation Json))
  | moduleMap (modules : List Module)
  | reconciliation (reconciliations : List Reconciliation)
  | functionState (state : Option FunctionDecompilationState)

def Place.kind : Place → Kind
  | .session _ => .session
  | .observations _ => .observations
  | .moduleMap => .moduleMap
  | .reconciliation => .reconciliation
  | .functionState _ _ => .functionState

def Saving.place : Saving → Place
  | .session info => .session info.sessionId
  | .observations sessionId _ => .observations sessionId
  | .moduleMap _ => .moduleMap
  | .reconciliation _ => .reconciliation
  | .functionState state => .functionState state.module state.function

/-- The saved value as a loader would return it. -/
def Saving.value : Saving → Loaded
  | .session info => .session info
  | .observations _ records => .observations (records.map BreakpointObservation.anyKeys)
  | .moduleMap modules => .moduleMap modules
  | .reconciliation reconciliations => .reconciliation reconciliations
  | .functionState state => .functionState (some state)

section Runs
variable (tools : Tools)

def Saving.run : Saving → StoreM WorkspacePath
  | .session info => saveSessionInfo tools info
  | .observations sessionId records => saveObservations tools sessionId records
  | .moduleMap modules => saveModuleMap tools modules
  | .reconciliation reconciliations => saveReconciliation tools reconciliations
  | .functionState state => saveFunctionState tools.toStoreTools state

def Place.load (disk : StoreDisk) : Place → Except DecompileFailure Loaded
  | .session sessionId => .session <$> loadSessionInfo tools disk sessionId
  | .observations sessionId => .observations <$> loadObservations tools disk sessionId
  | .moduleMap => .moduleMap <$> loadModuleMap tools disk
  | .reconciliation => .reconciliation <$> loadReconciliation tools disk
  | .functionState module function => .functionState <$> loadFunctionState tools.toStoreTools disk module function

/-- The disk after some saves, whether they ended normally or not. -/
def afterSaves (saves : List Saving) (disk : StoreDisk) : StoreDisk :=
  saves.foldl (fun disk saving => finalState (saving.run tools disk)) disk

end Runs

/-- Neither of two paths lies below the other. -/
def Beside (root path : WorkspacePath) : Prop := ¬root <+: path ∧ ¬path <+: root

theorem Beside.extend {root other path : WorkspacePath} (beside : Beside root other) (below : other <+: path) : Beside root path := by
  constructor
  · intro under
    rcases List.prefix_or_prefix_of_prefix under below with first | second
    · exact beside.1 first
    · exact beside.2 second
  · exact fun above => beside.2 (below.trans above)

theorem Beside.symm {root path : WorkspacePath} (beside : Beside root path) : Beside path root := ⟨beside.2, beside.1⟩

/-- Beside the given roots a disk is what it was. -/
def Beyond (roots : List WorkspacePath) (s t : StoreDisk) : Prop := ∀ path, (∀ root ∈ roots, Beside root path) → t path = s path

instance (roots : List WorkspacePath) : IsPreorder StoreDisk (Beyond roots) where
  refl _ _ _ := rfl
  trans _ _ _ first second path beside := (second path beside).trans (first path beside)

section Frames
variable {tools : Tools} {s t : StoreDisk} {dir root : WorkspacePath} {roots : List WorkspacePath}

/-- A frame whose files and directories all lie below a root. -/
theorem DiskFrame.beyond {files dirs : List WorkspacePath} (frame : DiskFrame files dirs s t)
    (filesBelow : ∀ file ∈ files, ∃ root ∈ roots, root <+: file) (dirsBelow : ∀ dir ∈ dirs, ∃ root ∈ roots, root <+: dir) :
    Beyond roots s t := by
  intro path beside
  apply frame
  · intro listed
    obtain ⟨root, rooted, below⟩ := filesBelow path listed
    exact (beside root rooted).1 below
  · intro dir listed above
    obtain ⟨root, rooted, below⟩ := dirsBelow dir listed
    exact ((beside root rooted).symm.extend below).1 above

theorem atomicWriteJson_beyond (rooted : root ∈ roots) (below : root <+: dir) (name : String) (value : Json) :
    Maintains (Beyond roots) (atomicWriteJson (dir ++ [name]) value) := by
  intro s
  refine (atomicWriteJson_diskFrame (dir ++ [name]) value s).beyond ?_ ?_
  · rw [tempName_concat, List.forall_mem_cons, List.forall_mem_singleton]
    exact ⟨⟨root, rooted, below.trans (List.prefix_append _ _)⟩, ⟨root, rooted, below.trans (List.prefix_append _ _)⟩⟩
  · rw [List.forall_mem_singleton, List.dropLast_concat]
    exact ⟨root, rooted, below⟩

theorem save_beyond (below : runtimeRoot <+: dir) (check : Except DecompileFailure Unit) (name : String) (payload : Json) :
    Maintains (Beyond [runtimeRoot]) (save tools check (dir ++ [name]) payload) := by
  intro s
  refine (save_diskFrame check (dir ++ [name]) payload s).beyond ?_ ?_
  · rw [tempName_concat, List.forall_mem_cons, List.forall_mem_cons, List.forall_mem_cons, List.forall_mem_singleton]
    have file (last : String) : ∃ root ∈ [runtimeRoot], root <+: dir ++ [last] :=
      ⟨_, List.mem_singleton_self _, below.trans (List.prefix_append _ _)⟩
    exact ⟨⟨_, List.mem_singleton_self _, by decide⟩, ⟨_, List.mem_singleton_self _, by decide⟩, file _, file _⟩
  · rw [List.dropLast_concat, List.forall_mem_cons, List.forall_mem_singleton]
    exact ⟨⟨_, List.mem_singleton_self _, List.prefix_refl _⟩, ⟨_, List.mem_singleton_self _, below⟩⟩

/-- The directories that the decompilation may write to. -/
def decompilationRoots (tools : Tools) : List WorkspacePath := [tools.resolve ["decompilation"], tools.resolve ["decompilation", "functions"]]

theorem saveFunctionState_beyond (state : FunctionDecompilationState) :
    Maintains (Beyond (decompilationRoots tools)) (saveFunctionState tools.toStoreTools state) := by
  have ensured : Maintains (Beyond (decompilationRoots tools)) (PspDisasm.ensureSchema tools.toStoreTools) := by
    intro s
    rw [PspDisasm.ensureSchema_run]
    split
    · exact Maintains.lifted _ s
    · exact atomicWriteJson_beyond List.mem_cons_self (List.prefix_refl _) _ _ s
  refine ensured.bind fun _ => ?_
  cases located : functionDir tools.toStoreTools state.module state.function with
  | error raised => exact fun s => refl_of (Beyond _) s
  | ok target =>
    have root := functionDir_root located
    intro s
    have rooted : tools.resolve ["decompilation", "functions"] ∈ decompilationRoots tools :=
      List.mem_cons_of_mem _ (List.mem_singleton_self _)
    rw [bind_after (lifted_ok.mpr ⟨rfl, rfl⟩), finalState_discard]
    exact atomicWriteJson_beyond rooted root _ _ s

end Frames

/-- The file of a place in the runtime directory. -/
def Place.file : Place → Option WorkspacePath
  | .session sessionId => some (sessionPath sessionId)
  | .observations sessionId => some (observationsPath sessionId)
  | .moduleMap => some modulesPath
  | .reconciliation => some reconciliationPath
  | .functionState _ _ => none

section RuntimeFiles
variable {tools : Tools} {s t : StoreDisk} {place other : Place} {path : WorkspacePath}

theorem Place.file_shape (file : place.file = some path) :
    ∃ dir stem, path = dir ++ [stem ++ ".json"] ∧ runtimeRoot <+: dir ∧ schemaPath ≠ path ∧ ¬schemaPath <+: dir := by
  cases place with
  | session sessionId =>
    cases file
    exact ⟨_, sessionId, rfl, by decide, by simp [schemaPath, sessionPath, runtimeRoot], by decide⟩
  | observations sessionId =>
    cases file
    refine ⟨_, "observations", rfl, List.prefix_append _ _, by simp [schemaPath, observationsPath, runtimeRoot], ?_⟩
    simp [schemaPath, runtimeRoot, List.cons_prefix_cons]
  | moduleMap =>
    cases file
    exact ⟨_, "modules", rfl, List.prefix_refl _, by decide, by decide⟩
  | reconciliation =>
    cases file
    exact ⟨_, "reconciliation", rfl, List.prefix_refl _, by decide, by decide⟩
  | functionState module function => cases file

/-- The files of two kinds of evidence are different, and neither lies above the other. -/
theorem Place.files_apart {otherPath : WorkspacePath} (different : place.kind ≠ other.kind) (file : place.file = some path)
    (otherFile : other.file = some otherPath) :
    otherPath ∉ [schemaPath, path] ∧ ¬otherPath <+: runtimeRoot ∧ ¬otherPath <+: path.dropLast := by
  cases place <;> cases other <;> cases file <;> cases otherFile <;>
    first
    | exact absurd rfl different
    | simp [schemaPath, sessionPath, observationsPath, modulesPath, reconciliationPath, runtimeRoot, List.cons_prefix_cons]

theorem Saving.run_eq {saving : Saving} (tools : Tools) (file : saving.place.file = some path) :
    ∃ check payload, saving.run tools = save tools check path payload := by
  cases saving <;> cases file <;> exact ⟨_, _, rfl⟩

/-- A loader of runtime evidence looks at the schema and at its own file. -/
theorem Place.load_congr (file : place.file = some path)
    (valid : validateSchemaIfPresent tools t = validateSchemaIfPresent tools s) (same : t path = s path) :
    place.load tools t = place.load tools s := by
  cases place with
  | session sessionId =>
    cases file
    rw [Place.load, Place.load, loadSessionInfo, loadSessionInfo, valid, loadJson_congr _ same]
  | observations sessionId =>
    cases file
    rw [Place.load, Place.load, loadObservations, loadObservations, valid, loadJson_congr _ same]
  | moduleMap =>
    cases file
    rw [Place.load, Place.load, loadModuleMap, loadModuleMap, valid, loadJson_congr _ same, fileAt, fileAt, same]
  | reconciliation =>
    cases file
    rw [Place.load, Place.load, loadReconciliation, loadReconciliation, valid, loadJson_congr _ same, fileAt, fileAt, same]
  | functionState module function => cases file

/-- Saves of runtime evidence do not change what is loaded of another kind of it. -/
theorem runtime_load_frame {saving : Saving} {otherPath : WorkspacePath} (different : saving.place.kind ≠ place.kind)
    (file : saving.place.file = some path) (otherFile : place.file = some otherPath) (s : StoreDisk) :
    place.load tools (finalState (saving.run tools s)) = place.load tools s := by
  obtain ⟨check, payload, ran⟩ := saving.run_eq tools file
  obtain ⟨outside, notRoot, notAbove⟩ := Place.files_apart different file otherFile
  obtain ⟨dir, stem, rfl, _, notSchema, schemaNotAbove⟩ := Place.file_shape file
  obtain ⟨otherDir, otherStem, shape, _, _, _⟩ := Place.file_shape otherFile
  rw [ran]
  refine Place.load_congr otherFile (save_valid notSchema schemaNotAbove s) (save_diskFrame check _ payload s otherPath ?_ ?_)
  · simp only [List.mem_cons, List.not_mem_nil, or_false, not_or] at outside ⊢
    refine ⟨?_, outside.1, ?_, outside.2⟩
    · rw [shape]
      exact @tempName_ne runtimeRoot otherDir otherStem "schema_version.json"
    · rw [shape]
      exact tempName_ne
  · rw [List.forall_mem_cons, List.forall_mem_singleton]
    exact ⟨notRoot, notAbove⟩

end RuntimeFiles

section AcrossStores
variable {tools : Tools} {s t : StoreDisk}

theorem decompilation_beside : ∀ root ∈ decompilationRoots tools, Beside runtimeRoot root := tools.runtimeApart

/-- What is loaded for a function depends on the directories of the decompilation only. -/
theorem loadFunctionState_congr (beyond : Beyond [runtimeRoot] s t) (module function : String) :
    loadFunctionState tools.toStoreTools t module function = loadFunctionState tools.toStoreTools s module function := by
  have same : ∀ root ∈ decompilationRoots tools, ∀ path, root <+: path → fileAt t path = fileAt s path := by
    intro root rooted path below
    have beside := (decompilation_beside root rooted).extend below
    rw [fileAt, fileAt, beyond path fun other listed => List.mem_singleton.mp listed ▸ beside]
  have valid : PspDisasm.validateSchemaIfPresent tools.toStoreTools t = PspDisasm.validateSchemaIfPresent tools.toStoreTools s :=
    PspDisasm.validateSchemaIfPresent_congr (same _ List.mem_cons_self _ (List.prefix_append _ _))
  cases located : functionDir tools.toStoreTools module function with
  | error raised => rw [loadFunctionState, loadFunctionState, valid, located]; rfl
  | ok target =>
    have rooted : tools.resolve ["decompilation", "functions"] ∈ decompilationRoots tools :=
      List.mem_cons_of_mem _ (List.mem_singleton_self _)
    have state := same _ rooted (target ++ ["state.json"]) ((functionDir_root located).trans (List.prefix_append _ _))
    exact @FunctionKey.load_congr _ _ _ ⟨module, function⟩ target located valid state

/-- No save, however it ends, changes what the loaders of the other kinds return. -/
theorem load_frame {saving : Saving} {place : Place} (different : saving.place.kind ≠ place.kind) (s : StoreDisk) :
    place.load tools (finalState (saving.run tools s)) = place.load tools s := by
  cases file : saving.place.file with
  | some path =>
    cases otherFile : place.file with
    | some otherPath => exact runtime_load_frame different file otherFile s
    | none =>
      obtain ⟨check, payload, ran⟩ := saving.run_eq tools file
      obtain ⟨dir, stem, rfl, below, _, _⟩ := Place.file_shape file
      cases place with
      | functionState module function =>
        rw [ran, Place.load, Place.load, loadFunctionState_congr (save_beyond below check _ payload s)]
      | _ => cases otherFile
  | none =>
    cases saving with
    | functionState state =>
      cases otherFile : place.file with
      | some otherPath =>
        have beyond := @saveFunctionState_beyond tools state s
        obtain ⟨dir, stem, shape, below, _, _⟩ := Place.file_shape otherFile
        have same : ∀ path, runtimeRoot <+: path → finalState (saveFunctionState tools.toStoreTools state s) path = s path := by
          intro path inside
          exact beyond path fun root rooted => (decompilation_beside root rooted).symm.extend inside
        refine Place.load_congr otherFile (validateSchemaIfPresent_congr (same _ (List.prefix_append _ _))) (same _ ?_)
        exact shape ▸ below.trans (List.prefix_append _ _)
      | none =>
        cases place with
        | functionState module function => exact absurd rfl different
        | _ => cases otherFile
    | _ => cases file

end AcrossStores

section RoundTrip
variable {tools : Tools} {s t : StoreDisk} {place : Place} {path final : WorkspacePath}

/-- What a loader finds after a save of runtime evidence that ended normally. -/
theorem save_found {check : Except DecompileFailure Unit} {payload : Json} (file : place.file = some path)
    (ran : save tools check path payload s = .ok final t) :
    validateSchemaIfPresent tools t = .ok () ∧ check = .ok () ∧ fileAt t path = some (.ok payload) ∧
      ∀ label, loadJson tools t path label = .ok payload := by
  obtain ⟨dir, stem, rfl, _, notFile, notAbove⟩ := Place.file_shape file
  obtain ⟨valid, passed, named, stored⟩ := save_ok ran
  have kept := @save_valid tools check dir stem payload notFile notAbove s
  rw [ran] at kept
  exact ⟨kept.trans valid, passed, stored, fun label => loadJson_stored named stored⟩

/-- After a save that ended normally, the saved value is loaded. -/
theorem load_saved {saving : Saving} (ran : saving.run tools s = .ok final t) :
    saving.place.load tools t = .ok saving.value := by
  cases saving with
  | session info =>
    obtain ⟨valid, safe, _, loaded⟩ := @save_found tools s t (.session info.sessionId) _ final _ _ rfl ran
    rw [Saving.place, Place.load, loadSessionInfo, valid, ok_bind, safe, ok_bind, loaded, ok_bind, sessionInfoFromDict_toDict]
    rfl
  | observations sessionId records =>
    obtain ⟨valid, safe, _, loaded⟩ := @save_found tools s t (.observations sessionId) _ final _ _ rfl ran
    rw [Saving.place, Place.load, loadObservations, valid, ok_bind, safe, ok_bind, loaded, ok_bind,
      recordsFromList_map (observationFromDict_toDict tools.toValueTexts)]
    rfl
  | moduleMap modules =>
    obtain ⟨valid, _, stored, loaded⟩ := @save_found tools s t .moduleMap _ final _ _ rfl ran
    have records := @recordsFromList_map _ _ "invalid runtime module map" _ _ id (moduleFromDict_toDict tools.toValueTexts) modules
    rw [Saving.place, Place.load, loadModuleMap, valid, ok_bind, stored, Option.isSome_some, if_pos rfl, loaded, ok_bind,
      records, List.map_id]
    rfl
  | reconciliation reconciliations =>
    obtain ⟨valid, _, stored, loaded⟩ := @save_found tools s t .reconciliation _ final _ _ rfl ran
    have records := @recordsFromList_map _ _ "invalid runtime reconciliation evidence" _ _ id
      (reconciliationFromDict_toDict tools.toValueTexts) reconciliations
    rw [Saving.place, Place.load, loadReconciliation, valid, ok_bind, stored, Option.isSome_some, if_pos rfl, loaded,
      ok_bind, records, List.map_id]
    rfl
  | functionState state =>
    cases located : functionDir tools.toStoreTools state.module state.function with
    | error raised =>
      obtain ⟨_, _, _, rest⟩ := effect_bind_ok.mp ran
      obtain ⟨_, _, found, _⟩ := effect_bind_ok.mp rest
      rw [located] at found
      cases found
    | ok target =>
      have loaded := @roundTrips tools.toStoreTools state.key target located s state final t rfl ran
      exact congrArg (Loaded.functionState <$> ·) loaded

theorem afterSaves_frame {saves : List Saving} (others : ∀ saving ∈ saves, saving.place.kind ≠ place.kind) (s : StoreDisk) :
    place.load tools (afterSaves tools saves s) = place.load tools s := by
  induction saves generalizing s with
  | nil => rfl
  | cons saving saves ih =>
    obtain ⟨first, rest⟩ := List.forall_mem_cons.mp others
    exact (ih rest _).trans (load_frame first s)

end RoundTrip

section Progress
variable {tools : Tools} {s t : StoreDisk} {schemaDir dir : WorkspacePath} {name schema : String} {value : Json}

/-- No file stands in the way of the directories of a document, and no directory in the way of its files. -/
structure Unobstructed (disk : StoreDisk) (path : WorkspacePath) : Prop where
  parents : ∀ parent, parent <+: path.dropLast → ∀ contents, disk parent ≠ some (.file contents)
  temporary : disk (tempName path) ≠ some .directory
  document : disk path ≠ some .directory

theorem Unobstructed.write (free : Unobstructed s (dir ++ [name])) (apart : tempName (dir ++ [name]) ≠ dir ++ [name]) (value : Json) :
    ∃ t, atomicWriteJson (dir ++ [name]) value s = .ok () t ∧ ∀ other node, other ≠ dir ++ [name] → t other = some node →
      s other = some node ∨ other <+: dir ∧ node = .directory := by
  have parents := free.parents
  rw [List.dropLast_concat] at parents
  exact atomicWriteJson_ok value apart parents free.temporary free.document

/-- What the schema file and its directories do not obstruct can be written after them. -/
theorem Unobstructed.after (free : Unobstructed s (dir ++ [name])) (notBelow : ¬schemaDir ++ [schema] <+: dir)
    (notAbove : ∀ last ∈ [name, "." ++ name ++ ".tmp"], ¬dir ++ [last] <+: schemaDir ++ [schema])
    (known : ∀ other node, other ≠ schemaDir ++ [schema] → t other = some node →
      s other = some node ∨ other <+: schemaDir ∧ node = .directory) : Unobstructed t (dir ++ [name]) := by
  have parents := free.parents
  have temporary := free.temporary
  rw [tempName_concat] at temporary
  rw [List.dropLast_concat] at parents
  have noDirectory (last : String) (listed : last ∈ [name, "." ++ name ++ ".tmp"])
      (free : s (dir ++ [last]) ≠ some .directory) : t (dir ++ [last]) ≠ some .directory := by
    intro found
    have notSchema : dir ++ [last] ≠ schemaDir ++ [schema] := fun same => notAbove last listed (same ▸ List.prefix_refl _)
    rcases known _ _ notSchema found with old | ⟨above, _⟩
    · exact free old
    · exact notAbove last listed (above.trans (List.prefix_append _ _))
  refine ⟨?_, ?_, noDirectory name List.mem_cons_self free.document⟩
  · rw [List.dropLast_concat]
    intro parent above contents found
    have notSchema : parent ≠ schemaDir ++ [schema] := fun same => notBelow (same ▸ above)
    rcases known _ _ notSchema found with old | ⟨_, directory⟩
    · exact parents parent above contents old
    · cases directory
  · rw [tempName_concat]
    exact noDirectory _ (List.mem_cons_of_mem _ (List.mem_singleton_self _)) temporary

theorem ensureSchema_unobstructed (valid : validateSchemaIfPresent tools s = .ok ()) (free : Unobstructed s schemaPath) :
    ∃ t, ensureSchema tools s = .ok () t ∧ ∀ other node, other ≠ schemaPath → t other = some node →
      s other = some node ∨ other <+: runtimeRoot ∧ node = .directory := by
  rw [ensureSchema_run]
  split
  · exact ⟨s, by rw [valid, lifted], fun _ _ _ found => Or.inl found⟩
  · exact free.write schemaPath_apart _

theorem decompilationSchema_unobstructed (valid : PspDisasm.validateSchemaIfPresent tools.toStoreTools s = .ok ())
    (free : Unobstructed s (PspDisasm.schemaPath tools.toStoreTools)) :
    ∃ t, PspDisasm.ensureSchema tools.toStoreTools s = .ok () t ∧
      ∀ other node, other ≠ PspDisasm.schemaPath tools.toStoreTools → t other = some node →
        s other = some node ∨ other <+: tools.resolve ["decompilation"] ∧ node = .directory := by
  rw [PspDisasm.ensureSchema_run]
  split
  · exact ⟨s, by rw [valid, lifted], fun _ _ _ found => Or.inl found⟩
  · exact free.write schema_apart _

theorem Place.file_notAbove {place : Place} {path : WorkspacePath} (file : place.file = some path) :
    ¬path <+: schemaPath ∧ ¬tempName path <+: schemaPath := by
  cases place <;> cases file <;>
    simp [sessionPath, observationsPath, modulesPath, reconciliationPath, tempName, schemaPath, runtimeRoot, List.cons_prefix_cons]

variable (tools) in
/-- What a session id must be to name a file. -/
def ValidSessionId (sessionId : String) : Prop := safeSessionId tools sessionId = .ok () ∧ nullByte sessionId = false

variable (tools) in
/-- The session id or the module path under which the value is saved is valid. -/
def Saving.Valid : Saving → Prop
  | .session info => ValidSessionId tools info.sessionId
  | .observations sessionId _ => ValidSessionId tools sessionId
  | .functionState state => (functionDir tools.toStoreTools state.module state.function).isOk = true
  | _ => True

variable (tools) in
/-- A disk with a valid schema file or none, on which nothing stands in the way of what a save writes. -/
def Saving.Possible (disk : StoreDisk) : Saving → Prop
  | .functionState state =>
    PspDisasm.validateSchemaIfPresent tools.toStoreTools disk = .ok () ∧
      Unobstructed disk (PspDisasm.schemaPath tools.toStoreTools) ∧
      ∀ target, functionDir tools.toStoreTools state.module state.function = .ok target →
        Unobstructed disk (target ++ ["state.json"])
  | saving =>
    validateSchemaIfPresent tools disk = .ok () ∧ Unobstructed disk schemaPath ∧
      ∀ path, saving.place.file = some path → Unobstructed disk path

theorem save_possible {place : Place} {path : WorkspacePath} {check : Except DecompileFailure Unit} (file : place.file = some path)
    (passed : check = .ok ()) (named : path.any nullByte = false) (valid : validateSchemaIfPresent tools s = .ok ())
    (freeSchema : Unobstructed s schemaPath) (free : Unobstructed s path) :
    ∃ t, save tools check path value s = .ok path t := by
  obtain ⟨notAbove, tempNotAbove⟩ := Place.file_notAbove file
  obtain ⟨dir, stem, rfl, _, _, notBelow⟩ := Place.file_shape file
  obtain ⟨between, ensured, known⟩ := ensureSchema_unobstructed valid freeSchema
  rw [tempName_concat] at tempNotAbove
  have after := free.after notBelow (List.forall_mem_cons.mpr ⟨notAbove, List.forall_mem_singleton.mpr tempNotAbove⟩) known
  obtain ⟨t, written, _⟩ := after.write (@tempName_ne dir dir stem _).symm value
  rw [← writeJson_eq named] at written
  exact ⟨t, (bind_after ensured).trans ((bind_after (lifted_ok.mpr ⟨passed, rfl⟩)).trans (bind_after written))⟩

theorem saveFunctionState_possible {state : FunctionDecompilationState} {target : WorkspacePath}
    (located : functionDir tools.toStoreTools state.module state.function = .ok target)
    (valid : PspDisasm.validateSchemaIfPresent tools.toStoreTools s = .ok ())
    (freeSchema : Unobstructed s (PspDisasm.schemaPath tools.toStoreTools)) (free : Unobstructed s (target ++ ["state.json"])) :
    ∃ t, saveFunctionState tools.toStoreTools state s = .ok (target ++ ["state.json"]) t := by
  obtain ⟨notBelow, notAbove⟩ := functionDir_apart located
  obtain ⟨between, ensured, known⟩ := decompilationSchema_unobstructed valid freeSchema
  have after := free.after notBelow (fun last _ above => notAbove ((List.prefix_append _ _).trans above)) known
  obtain ⟨t, written, _⟩ := after.write state_apart (.obj (stateToDict state))
  exact ⟨t, (bind_after ensured).trans ((bind_after (lifted_ok.mpr ⟨located, rfl⟩)).trans (bind_after written))⟩

theorem sessionPath_named {sessionId : String} (named : nullByte sessionId = false) :
    (sessionPath sessionId).any nullByte = false := by
  have extended : nullByte (sessionId ++ ".json") = false := by
    rw [nullByte, decide_eq_false_iff_not] at named ⊢
    rw [String.toList_append, List.mem_append, not_or]
    exact ⟨named, by decide⟩
  change (nullByte "runtime" || (nullByte "sessions" || (nullByte (sessionId ++ ".json") || false))) = false
  rw [extended]
  decide

theorem observationsPath_named {sessionId : String} (named : nullByte sessionId = false) :
    (observationsPath sessionId).any nullByte = false := by
  change (nullByte "runtime" || (nullByte "evidence" || (nullByte sessionId || (nullByte "observations.json" || false)))) = false
  rw [named]
  decide

/-- Where it is possible, a valid save ends normally. -/
theorem Saving.run_possible {saving : Saving} (valid : saving.Valid tools) (possible : saving.Possible tools s) :
    ∃ path t, saving.run tools s = .ok path t := by
  cases saving with
  | session info =>
    obtain ⟨schema, freeSchema, free⟩ := possible
    exact ⟨_, @save_possible tools s _ (.session info.sessionId) _ _ rfl valid.1 (sessionPath_named valid.2) schema freeSchema (free _ rfl)⟩
  | observations sessionId records =>
    obtain ⟨schema, freeSchema, free⟩ := possible
    exact ⟨_, @save_possible tools s _ (.observations sessionId) _ _ rfl valid.1 (observationsPath_named valid.2) schema freeSchema (free _ rfl)⟩
  | moduleMap modules =>
    obtain ⟨schema, freeSchema, free⟩ := possible
    exact ⟨_, @save_possible tools s _ .moduleMap _ _ rfl rfl (by decide) schema freeSchema (free _ rfl)⟩
  | reconciliation reconciliations =>
    obtain ⟨schema, freeSchema, free⟩ := possible
    exact ⟨_, @save_possible tools s _ .reconciliation _ _ rfl rfl (by decide) schema freeSchema (free _ rfl)⟩
  | functionState state =>
    obtain ⟨schema, freeSchema, free⟩ := possible
    obtain ⟨target, located⟩ := exists_ok valid
    exact ⟨_, saveFunctionState_possible located schema freeSchema (free target located)⟩

end Progress

/-- Evidence survives: a valid save that nothing obstructs ends normally; after every save that ended normally,
and after any saves of other kinds that follow it, the saved value is loaded; and no save, however it ends,
changes what is loaded of the other kinds. -/
theorem evidence_survives (tools : Tools) :
    (∀ (saving : Saving) disk, saving.Valid tools → saving.Possible tools disk →
        ∃ path final, saving.run tools disk = .ok path final) ∧
      (∀ (saving : Saving) disk path final later, saving.run tools disk = .ok path final →
        (∀ other ∈ later, other.place.kind ≠ saving.place.kind) →
        saving.place.load tools (afterSaves tools later final) = .ok saving.value) ∧
      ∀ (saving : Saving) (place : Place) disk, saving.place.kind ≠ place.kind →
        place.load tools (finalState (saving.run tools disk)) = place.load tools disk := by
  refine ⟨fun saving disk => Saving.run_possible, ?_, fun saving place disk different => load_frame different disk⟩
  intro saving disk path final later ran others
  rw [afterSaves_frame others, load_saved ran]

/-- A workspace without links. -/
def plainTools : Tools where
  toStoreTools := asciiTools
  strOf := fun _ => "value"
  parseInt := fun text => text.toInt?
  runtimeApart := by decide

/-- A hit with registers, memory and a backtrace. -/
def sampleHit : BreakpointObservation String where
  sessionId := "sess-1"
  sequence := 4
  breakpointAddress := .runtime 0x08804000
  hitCount := 1
  registers := some ⟨"sess-1", 1, [("pc", .int 0x08804000)]⟩
  memory := [⟨"sess-1", 2, .runtime 0x08900000, 16, "digest"⟩]
  backtrace := some ⟨"sess-1", 3, [.runtime 0x08804000, .runtime 0x08804100]⟩
  warnings := []

theorem Unobstructed.fresh (path : WorkspacePath) : Unobstructed freshDisk path :=
  ⟨fun _ _ _ => freshDisk_ne, freshDisk_ne, freshDisk_ne⟩

theorem sampleHit_survives : ∃ path final,
    (Saving.observations "sess-1" [sampleHit]).run plainTools freshDisk = .ok path final ∧
      (Place.observations "sess-1").load plainTools (afterSaves plainTools [.moduleMap []] final) =
        .ok (.observations [sampleHit.anyKeys]) := by
  obtain ⟨progress, survives, _⟩ := evidence_survives plainTools
  have valid : (Saving.observations "sess-1" [sampleHit]).Valid plainTools := ⟨raiseIf_ok.mpr (by decide), by decide⟩
  obtain ⟨path, final, ran⟩ := progress (.observations "sess-1" [sampleHit]) freshDisk valid
    ⟨validateSchemaIfPresent_absent rfl, .fresh _, fun _ _ => .fresh _⟩
  exact ⟨path, final, ran, survives _ _ path final [.moduleMap []] ran (by decide)⟩

end Evidence

end PspDisasm
