import Mathlib.Data.List.Sort
import PspDisasm.PythonText
import PspDisasm.Runtime.Session

namespace PspDisasm
open Foundations

inductive RuntimeEvidenceStatus
  | unresolved
  | inferred
  | corroborated
  | runtimeObserved
  | runtimeVerified
  | conflicting
deriving DecidableEq, Repr

def RuntimeEvidenceStatus.value : RuntimeEvidenceStatus → String
  | .unresolved => "unresolved"
  | .inferred => "inferred"
  | .corroborated => "corroborated"
  | .runtimeObserved => "runtime_observed"
  | .runtimeVerified => "runtime_verified"
  | .conflicting => "conflicting"

structure RuntimeModule where
  name : Option String
  runtimeBase : RuntimeAddress
  runtimeSize : Option Int
  staticModulePath : Option String
  resolutionStatus : String
  evidence : List String
deriving DecidableEq, Repr

structure StaticCandidate where
  kind : String
  address : Int
  evidence : List String
deriving DecidableEq, Repr

structure ObservationGroup where
  callSiteKey : String
  observation : RuntimeBreakpointObservation
deriving DecidableEq, Repr

structure RuntimeReconciliation where
  staticKind : String
  staticAddress : Option RuntimeAddress
  staticEvidence : List String
  runtimeAddress : RuntimeAddress
  resolvedModuleOffset : Option RuntimeAddress
  observationCount : Nat
  status : String
  conflicts : List String
deriving DecidableEq, Repr

/-- The loop of `_find_module`, with the first module of unknown size that it has passed. -/
def findModuleFrom (runtimeValue : Int) : Option RuntimeModule → List RuntimeModule → Option RuntimeModule
  | unboundedMatch, [] => unboundedMatch
  | unboundedMatch, module :: rest =>
    if runtimeValue < module.runtimeBase.value then findModuleFrom runtimeValue unboundedMatch rest
    else
      match module.runtimeSize with
      | none => findModuleFrom runtimeValue (unboundedMatch.or (some module)) rest
      | some size =>
        if runtimeValue < module.runtimeBase.value + size then some module
        else findModuleFrom runtimeValue unboundedMatch rest

def findModule (runtimeValue : Int) (modules : List RuntimeModule) : Option RuntimeModule :=
  findModuleFrom runtimeValue none modules

/-- `placement.get(key)` where this is an integer, a boolean counting as one. -/
def placementInt (placement : Option Json) (key : String) : Option Int :=
  match placement with
  | some (.obj fields) => (Json.getField fields key).int?
  | _ => none

section Observation
variable (modules : List RuntimeModule) (placements : Dict String Json) (candidates : Dict String (List StaticCandidate))

def reconcileObservation (observation : RuntimeBreakpointObservation) : RuntimeReconciliation :=
  let runtimeAddress := observation.breakpointAddress
  match findModule runtimeAddress.value modules with
  | none =>
    { staticKind := "unresolved", staticAddress := none, staticEvidence := [], runtimeAddress, resolvedModuleOffset := none
      observationCount := 1, status := RuntimeEvidenceStatus.unresolved.value
      conflicts := ["no runtime module range contains this address"] }
  | some module =>
    let offset := runtimeAddress.value - module.runtimeBase.value
    let observed : RuntimeReconciliation :=
      { staticKind := "unresolved", staticAddress := none, staticEvidence := [], runtimeAddress
        resolvedModuleOffset := some ⟨"module_relative", offset, module.staticModulePath⟩
        observationCount := 1, status := RuntimeEvidenceStatus.runtimeObserved.value, conflicts := [] }
    match module.staticModulePath with
    | none => observed
    | some path =>
      let placement := placements.get? path
      match placementInt placement "load_address" with
      | none => observed
      | some loadAddress =>
        match (placementInt placement "image_size").filter (· ≤ offset) with
        | some imageSize =>
          { observed with
            status := RuntimeEvidenceStatus.conflicting.value
            conflicts := [s!"offset 0x{hex offset} exceeds this module's static image_size 0x{hex imageSize}; " ++
              "the observed runtime module is larger than static analysis captured"] }
        | none =>
          let analysisValue := loadAddress + offset
          let resolved := { observed with staticAddress := some ⟨"analysis", analysisValue, some path⟩ }
          match ((candidates.get? path).getD []).filter fun candidate => candidate.address = analysisValue with
          | [] => resolved
          | found =>
            { resolved with
              staticKind := "/".intercalate ((found.map (·.kind)).dedup.insertionSort (· ≤ ·))
              staticEvidence := found.flatMap (·.evidence)
              status := RuntimeEvidenceStatus.corroborated.value }

end Observation

section Batch

/-- What the first loop of `reconcile_workspace` gathers: the results so far, how often each target was seen at a call
site, and the static targets of each call site. -/
structure Gathered where
  perGroup : List RuntimeReconciliation
  counts : Dict (String × Option Int) Nat
  targetsBySite : Dict String (List Int)

/-- `set.add`. -/
def addTarget (targets : List Int) (target : Int) : List Int := if target ∈ targets then targets else targets ++ [target]

variable (reprText : String → String) (reconcile : RuntimeBreakpointObservation → Except String RuntimeReconciliation)

def gatherGroup (gathered : Gathered) (group : ObservationGroup) : Gathered :=
  match reconcile group.observation with
  | .error reason =>
    { gathered with perGroup := gathered.perGroup ++ [
      { staticKind := "unresolved", staticAddress := none, staticEvidence := []
        runtimeAddress := group.observation.breakpointAddress, resolvedModuleOffset := none, observationCount := 1
        status := RuntimeEvidenceStatus.unresolved.value, conflicts := [s!"reconciliation failed: {reason}"] }] }
  | .ok base =>
    let target := base.staticAddress.map (·.value)
    let key := (group.callSiteKey, target)
    let count := (gathered.counts.get? key).getD 0 + 1
    let reconciled := { base with observationCount := count }
    let counts := gathered.counts.set key count
    match target with
    | none => { gathered with perGroup := gathered.perGroup ++ [reconciled], counts }
    | some value =>
      let escalated :=
        if reconciled.status = RuntimeEvidenceStatus.corroborated.value ∧ 1 < count then RuntimeEvidenceStatus.runtimeVerified.value
        else reconciled.status
      let targets := (gathered.targetsBySite.get? group.callSiteKey).getD []
      { perGroup := gathered.perGroup ++ [{ reconciled with status := escalated }]
        counts
        targetsBySite := gathered.targetsBySite.set group.callSiteKey (addTarget targets value) }

def gatherGroups (groups : List ObservationGroup) : Gathered := groups.foldl (gatherGroup reconcile) ⟨[], [], []⟩

/-- The result of a group once the targets of its call site are known. -/
def finalizeGroup (targets : List Int) (group : ObservationGroup) (reconciled : RuntimeReconciliation) :
    RuntimeReconciliation :=
  if 1 < targets.length ∧ reconciled.status ≠ RuntimeEvidenceStatus.unresolved.value then
    let listed := ", ".intercalate ((targets.insertionSort (· ≤ ·)).map fun value => "0x" ++ addressDigits value)
    { reconciled with
      status := RuntimeEvidenceStatus.conflicting.value
      conflicts := reconciled.conflicts ++
        [s!"call site {reprText group.callSiteKey} resolved to multiple distinct runtime targets: " ++ listed] }
  else reconciled

def reconcileGroups (groups : List ObservationGroup) : List RuntimeReconciliation :=
  let gathered := gatherGroups reconcile groups
  groups.zipWith (fun group => finalizeGroup reprText ((gathered.targetsBySite.get? group.callSiteKey).getD []) group)
    gathered.perGroup

def reconcileWorkspace (modules : List RuntimeModule) (placements : Dict String Json)
    (candidates : Dict String (List StaticCandidate)) (groups : List ObservationGroup) : List RuntimeReconciliation :=
  reconcileGroups reprText (fun observation => .ok (reconcileObservation modules placements candidates observation)) groups

end Batch

end PspDisasm
