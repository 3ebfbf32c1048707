import PspDisasm.Decompile.Store

namespace PspDisasm
open Foundations

structure QueuedFunction where
  module : String
  projectDir : String
  function : String
  address : Int
  size : Int
  instructionCount : Int
  state : FunctionDecompilationState

/-- An item of a project's list of functions, with its name and its address. -/
structure FunctionEntry where
  name : String
  address : Int
  fields : Fields

/-- The truth of a JSON value. -/
def Json.truthy : Json → Bool
  | .null => false
  | .bool value => value
  | .int n => n ≠ 0
  | .float value => value ≠ some 0
  | .str text => text ≠ ""
  | .arr items => !items.isEmpty
  | .obj fields => !fields.isEmpty

def FunctionDecompilationState.pending (module function : String) (address : Int) : FunctionDecompilationState where
  module := module
  function := function
  address := address
  status := DecompilationStatus.pending.value
  attempts := 0
  bestAttemptId := none
  bestMatchPercent := none
  staticConfidence := none
  staticEvidence := []
  runtimeStatus := none
  lastFailure := none
  attemptHistory := []

def loadGameAnalysisModules (tools : StoreTools) (disk : StoreDisk) : Except DecompileFailure (List Fields) :=
  let path := s!"{tools.workspaceDir}/" ++ "/".intercalate gameAnalysis
  let invalid := s!"invalid game analysis metadata: {path}"
  match disk (tools.resolve gameAnalysis.dropLast ++ ["game_analysis.json"]) with
  | none => .error (.workspaceError s!"workspace has no analyzed game project: {path}")
  | some .directory => .error (.workspaceError s!"{invalid}: [Errno 21] Is a directory: '{path}'")
  | some (.file (.error reason)) => .error (.workspaceError s!"{invalid}: {reason}")
  | some (.file (.ok payload)) =>
    match payload with
    | .obj fields =>
      match Json.getField fields "modules" with
      | .arr items => .ok (items.filterMap fun
        | .obj module => some module
        | _ => none)
      | _ => .error (.workspaceError invalid)
    | _ => .error (.workspaceError invalid)

/-- The entries of `metadata/functions.json` of a project. What is wrong in it is passed over. -/
def readFunctionsJson (contents : Option (Except String Json)) : List FunctionEntry :=
  match contents with
  | some (.ok (.arr items)) => items.filterMap fun
    | .obj fields =>
      match Json.getField fields "name", (Json.getField fields "address").int? with
      | .str name, some address => some ⟨name, address, fields⟩
      | _, _ => none
    | _ => none
  | _ => []

/-- Whether `discover_functions` looks into a module. -/
def analyzedModule (module : Fields) : Bool :=
  ((Json.getField module "status").equalsStr "analyzed" || (Json.getField module "status").equalsStr "analyzed_recovered") &&
    (Json.getField module "project_path").truthy

/-- `int(entry.get(key, 0))`. -/
def FunctionEntry.count (entry : FunctionEntry) (key : String) : Except DecompileFailure Int :=
  match entry.fields.get? key with
  | none => .ok 0
  | some value => Fields.integer value

section Discovery
variable (tools : StoreTools) (projects : String → Option (Except String Json))

def queueFunction (disk : StoreDisk) (module projectPath : String) (entry : FunctionEntry) :
    Except DecompileFailure QueuedFunction := do
  let known ← loadFunctionState tools disk module entry.name
  let state := known.getD (.pending module entry.name entry.address)
  let size ← entry.count "size"
  let instructionCount ← entry.count "instruction_count"
  return ⟨module, projectPath, entry.name, entry.address, size, instructionCount, state⟩

/-- The functions of one module, in order of address and name. `projects` gives what the list of functions
of a project holds. -/
def queueModule (disk : StoreDisk) (module : String × Fields) : Except DecompileFailure (List QueuedFunction) := do
  let projectPath ← Fields.text (Json.getField module.2 "project_path")
  let entries := (readFunctionsJson (projects projectPath)).insertionSort fun entry other =>
    entry.address < other.address ∨ entry.address = other.address ∧ entry.name ≤ other.name
  entries.mapM (queueFunction tools disk module.1 projectPath)

def discoverFunctions (disk : StoreDisk) : Except DecompileFailure (List QueuedFunction) := do
  let modules ← loadGameAnalysisModules tools disk
  let named ← (modules.filter analyzedModule).mapM fun module => do
    let path ← Fields.required module (.keyError "path") "path"
    let text ← Fields.text path
    return (text, module)
  let ordered := named.insertionSort fun module other => tools.casefold module.1 ≤ tools.casefold other.1
  let queued ← ordered.mapM (queueModule tools projects disk)
  return queued.flatten

end Discovery

section Attached
variable {tools : StoreTools} {projects : String → Option (Except String Json)} {disk : StoreDisk}

/-- A queued function has the state that the store holds for it, and a fresh pending one when there is none. -/
def Attached (tools : StoreTools) (disk : StoreDisk) (item : QueuedFunction) : Prop :=
  ∃ known, loadFunctionState tools disk item.module item.function = .ok known ∧
    item.state = known.getD (.pending item.module item.function item.address)

theorem queueFunction_attached {module projectPath : String} {entry : FunctionEntry} {item : QueuedFunction}
    (ran : queueFunction tools disk module projectPath entry = .ok item) : Attached tools disk item := by
  obtain ⟨known, loaded, rest⟩ := bind_ok.mp ran
  obtain ⟨size, _, rest⟩ := bind_ok.mp rest
  obtain ⟨count, _, rest⟩ := bind_ok.mp rest
  cases rest
  exact ⟨known, loaded, rfl⟩

theorem queueModule_attached {module : String × Fields} {items : List QueuedFunction}
    (ran : queueModule tools projects disk module = .ok items) : ∀ item ∈ items, Attached tools disk item := by
  obtain ⟨projectPath, _, rest⟩ := bind_ok.mp ran
  intro item member
  obtain ⟨entry, _, queued⟩ := forall₂_mem (mapM_ok.mp rest) member
  exact queueFunction_attached queued

theorem discoverFunctions_attached {queued : List QueuedFunction} (ran : discoverFunctions tools projects disk = .ok queued) :
    ∀ item ∈ queued, Attached tools disk item := by
  obtain ⟨modules, _, rest⟩ := bind_ok.mp ran
  obtain ⟨named, _, rest⟩ := bind_ok.mp rest
  obtain ⟨lists, each, rest⟩ := bind_ok.mp rest
  cases rest
  intro item member
  obtain ⟨items, inLists, inItems⟩ := List.mem_flatten.mp member
  obtain ⟨module, _, queued⟩ := forall₂_mem (mapM_ok.mp each) inLists
  exact queueModule_attached queued item inItems

end Attached

end PspDisasm
