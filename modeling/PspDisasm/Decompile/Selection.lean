import PspDisasm.Decompile.Batch
import PspDisasm.Runtime.Reconciliation

namespace PspDisasm
open Foundations

structure QueueFilters where
  module : Option String
  function : Option String
  belowMatch : Option Rat
  unmatchedOnly : Bool
  limit : Option Int

/-- The filters of a run with no other option than `--limit`. -/
def QueueFilters.limited (limit : Nat) : QueueFilters := ⟨none, none, none, false, some limit⟩

def doneStatuses : List String :=
  [DecompilationStatus.matchedExact.value, DecompilationStatus.skipped.value, DecompilationStatus.blocked.value,
    DecompilationStatus.unsupported.value]

section Evidence

/-- `_RUNTIME_STATUS_RANK.get(status, len(_RUNTIME_STATUS_RANK))`. -/
def runtimeStatusRank (status : String) : Nat :=
  ["conflicting", "runtime_verified", "corroborated", "runtime_observed", "inferred", "unresolved"].idxOf status

/-- The statuses of the reconciled observations inside a function. -/
def runtimeMatches (reconciliations : List RuntimeReconciliation) (function : QueuedFunction) : List String :=
  reconciliations.filterMap fun item => item.staticAddress.bind fun address =>
    if address.modulePath = some function.module ∧ function.address ≤ address.value ∧
        address.value < function.address + max function.size 1 then some item.status else none

def enrichFunction (reconciliations : List RuntimeReconciliation) (function : QueuedFunction) : QueuedFunction :=
  match (runtimeMatches reconciliations function).argmin runtimeStatusRank with
  | none => function
  | some best => { function with state := { function.state with runtimeStatus := some best } }

def enrichWithRuntimeEvidence (reconciliations : List RuntimeReconciliation) (functions : List QueuedFunction) :
    List QueuedFunction := functions.map (enrichFunction reconciliations)

end Evidence

section Selection

def needsWork (filters : QueueFilters) (state : FunctionDecompilationState) : Bool :=
  match filters.belowMatch with
  | some threshold => state.bestMatchPercent.getD 0 < threshold
  | none =>
    if filters.unmatchedOnly then state.status ≠ DecompilationStatus.matchedExact.value
    else state.status ∉ doneStatuses

variable (readers : ReaderTools) (casefold : String → String)

def selectorMatches (function : QueuedFunction) (selector : String) : Bool :=
  function.function = selector || readers.int selector 0 = some function.address

def priorityKey (function : QueuedFunction) : ℤ ×ₗ String ×ₗ String ×ₗ ℤ :=
  toLex (function.size, toLex (casefold function.module, toLex (casefold function.function, function.address)))

def sortByPriority (functions : List QueuedFunction) : List QueuedFunction :=
  functions.insertionSort fun first second => priorityKey casefold first ≤ priorityKey casefold second

/-- `items[:limit]`. -/
def takeUpTo {α : Type} (limit : Int) (items : List α) : List α :=
  items.take (if 0 ≤ limit then limit.toNat else items.length - limit.natAbs)

def selectFunctions (functions : List QueuedFunction) (filters : QueueFilters) : List QueuedFunction :=
  let inModule (items : List QueuedFunction) := match filters.module with
    | none => items
    | some module => items.filter fun item => item.module = module
  match filters.function with
  | some selector => sortByPriority casefold (inModule (functions.filter fun item => selectorMatches readers item selector))
  | none =>
    let ordered := sortByPriority casefold ((inModule functions).filter fun item => needsWork filters item.state)
    match filters.limit with
    | none => ordered
    | some limit => takeUpTo limit ordered

end Selection

/-- What a `decompile-workspace` command has at hand. -/
structure WorkspaceCommand where
  digests : OrchestratorTools
  readers : ReaderTools
  store : StoreTools
  projects : String → FunctionsFile
  reconciliations : List RuntimeReconciliation
  inputsOf : QueuedFunction → RunInputs

namespace WorkspaceCommand
variable (command : WorkspaceCommand) (filters : QueueFilters)

def discover (disk : StoreDisk) : Except DecompileFailure (List QueuedFunction) :=
  discoverFunctions command.store command.projects disk

def selected (disk : StoreDisk) : Except DecompileFailure (List QueuedFunction) := do
  let functions ← command.discover disk
  return selectFunctions command.readers command.store.casefold
    (enrichWithRuntimeEvidence command.reconciliations functions) filters

/-- `_run_decompile_workspace`, up to its report. -/
def run : StoreM (List FunctionDecompilationState) := do
  let selected ← lifted (command.selected filters (← get))
  runBatch command.digests command.store selected command.inputsOf

end WorkspaceCommand

end PspDisasm
