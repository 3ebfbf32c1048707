import PspDisasm.Analyzer
import PspDisasm.PlacementFit

namespace PspDisasm
open Foundations

/-- The characters that `str.strip` removes. -/
def isSpace (c : Char) : Bool :=
  let n := c.toNat
  (9 ≤ n && n ≤ 13) || (28 ≤ n && n ≤ 32) || n = 0x85 || n = 0xA0 || n = 0x1680 || (0x2000 ≤ n && n ≤ 0x200A) ||
    n = 0x2028 || n = 0x2029 || n = 0x202F || n = 0x205F || n = 0x3000

def strip (text : String) : String :=
  String.ofList (((text.toList.dropWhile isSpace).reverse.dropWhile isSpace).reverse)

structure RecoveryProvenance where
  outcome : String
  originalSha256 : Option String
  recoveredSha256 : Option String
  recoveryBackend : Option String
  backendVersion : Option String
  verification : Option String
  warnings : List String
deriving DecidableEq, Repr

inductive GameFailure
  | front (failure : Failure)
  | disassembly (message : String)
  | os (message : String)
  | value (message : String)
  | engineUnavailable (message : String)
  | recovery (message : String) (provenance : Option RecoveryProvenance)
deriving DecidableEq, Repr

/-- `except (ParseError, DisassemblyError, OSError, ValueError)`. -/
def GameFailure.isolated : GameFailure → Bool
  | .front failure => failure.isParseError
  | .disassembly _ | .os _ | .value _ => true
  | .engineUnavailable _ | .recovery .. => false

/-- `str(exc)`. -/
def GameFailure.message : GameFailure → String
  | .front (.parseError message) => message
  | .front (.keyError key) => s!"'{key}'"
  | .front _ => ""
  | .disassembly message | .os message | .value message | .engineUnavailable message | .recovery message _ => message

def front {α : Type} (x : Except Failure α) : Except GameFailure α := x.mapError .front

structure GameModuleRecord where
  path : String
  executableKind : String
  outputPath : Option String
  isBoot : Bool
deriving DecidableEq, Repr

inductive ModuleStatus
  | analyzed
  | analyzedRecovered
  | needsDecryption
  | failed
deriving DecidableEq, Repr

/-- `_placement_fields`. -/
structure PlacementFields where
  loadAddress : Int
  placementKind : PlacementKind
  placementConfidence : Rat
  runtimeAddressClaim : Bool
  requiresRelocation : Bool
  placementEvidence : List String
deriving DecidableEq, Repr

def placementFields (placement : ModulePlacement) : PlacementFields :=
  ⟨placement.loadAddress, placement.placementKind, placement.placementConfidence, placement.runtimeAddressClaim,
    placement.requiresRelocation, placement.placementEvidence⟩

structure DisassemblyResult where
  functionCount : Nat
  symbolCount : Nat
  referenceCount : Nat
  stringCount : Nat
  warnings : List String
deriving DecidableEq, Repr

structure GameModuleAnalysisRecord where
  path : String
  extractedPath : Option String
  executableKind : String
  isBoot : Bool
  status : ModuleStatus
  moduleName : Option String
  projectPath : Option String
  placement : Option PlacementFields
  disassembly : Option DisassemblyResult
  warnings : List String
  recovery : Option RecoveryProvenance
deriving DecidableEq, Repr

structure PreparedModule where
  candidate : GameModuleRecord
  extracted : String
  projectRoot : String
  model : ExecutableModel
  moduleName : Option String
  recovery : Option RecoveryProvenance
deriving DecidableEq, Repr

def PreparedModule.input (prepared : PreparedModule) : ModulePlacementInput :=
  ⟨prepared.candidate.path, prepared.candidate.isBoot, prepared.model⟩

structure RecoveryResult where
  data : Bytes
  model : ExecutableModel
  provenance : RecoveryProvenance

/-- What the pipeline finds around it: the file system, the recovery backends, the disassembler and the project generator. -/
structure GameTools where
  casefold : String → String
  safeTarget : String → String → Except GameFailure String
  relativeDisplay : String → String
  readBytes : String → Except GameFailure Bytes
  recoverBytes : Option (Bytes → Except GameFailure RecoveryResult)
  writeRecovered : String → RecoveryResult → Except GameFailure Unit
  disassembleFile : String → Option Int → Except GameFailure DisassemblyResult
  generateProject : String → String → Option Int → Except GameFailure Unit

def moduleName (model : ExecutableModel) : Option String :=
  let named (name : String) := if strip name = "" then none else some (strip name)
  (model.moduleInfo.bind fun info => named info.name) <|> (model.containerHeader.bind fun header => named header.moduleName)

/-- The local variables that the handler of a failed module reads. -/
structure Progress where
  extracted : String
  model : Option ExecutableModel
  recovery : Option RecoveryProvenance

def during {α : Type} (progress : Progress) (x : Except GameFailure α) : Except (GameFailure × Progress) α :=
  x.mapError fun failure => (failure, progress)

/-- The outcome of the first pass for one module. -/
inductive Examined
  | recorded (record : GameModuleAnalysisRecord)
  | ready (prepared : PreparedModule)

structure ModulePass where
  records : Dict String GameModuleAnalysisRecord
  prepared : List PreparedModule

section Game
variable (tools : GameTools)

def unplacedRecord (candidate : GameModuleRecord) (extracted : Option String) (status : ModuleStatus) (name : Option String)
    (warnings : List String) (recovery : Option RecoveryProvenance) : GameModuleAnalysisRecord :=
  ⟨candidate.path, extracted, candidate.executableKind, candidate.isBoot, status, name, none, none, none, warnings, recovery⟩

/-- The layout of one module is validated alone before it takes part in the plan. -/
def validateModule (prepared : PreparedModule) : Except (GameFailure × Progress) Examined := do
  let _ ← during ⟨prepared.extracted, some prepared.model, prepared.recovery⟩
    (front (planModulePlacements tools.casefold [prepared.input]))
  return .ready prepared

/-- The `try` block of the first pass. -/
def examineModule (candidate : GameModuleRecord) (extracted projectRoot : String) :
    Except (GameFailure × Progress) Examined := do
  let data ← during ⟨extracted, none, none⟩ (tools.readBytes extracted)
  let model ← during ⟨extracted, none, none⟩ (front (analyzeBytes data extracted))
  let name := moduleName model
  if !model.needsDecryption then
    validateModule tools ⟨candidate, extracted, projectRoot, model, name, none⟩
  else
    match tools.recoverBytes with
    | none =>
      return .recorded (unplacedRecord candidate (some (tools.relativeDisplay extracted)) .needsDecryption name model.warnings none)
    | some recover =>
      let bytes ← during ⟨extracted, some model, none⟩ (tools.readBytes extracted)
      match recover bytes with
      | .error (.recovery message provenance) =>
        return .recorded (unplacedRecord candidate (some (tools.relativeDisplay extracted)) .needsDecryption name
          (model.warnings ++ [s!"recovery attempted and failed: {message}"]) provenance)
      | .error failure => .error (failure, ⟨extracted, some model, none⟩)
      | .ok recovered =>
        let name := moduleName recovered.model <|> name
        let target ← during ⟨extracted, some recovered.model, some recovered.provenance⟩
          (tools.safeTarget "recovered" candidate.path)
        during ⟨target, some recovered.model, some recovered.provenance⟩ (tools.writeRecovered target recovered)
        validateModule tools ⟨candidate, target, projectRoot, recovered.model, name, some recovered.provenance⟩

/-- One turn of the first pass. Unsafe paths are raised for the whole game, failures of the module are recorded. -/
def firstPassTurn (pass : ModulePass) (candidate : GameModuleRecord) : Except GameFailure ModulePass :=
  match candidate.outputPath with
  | none =>
    let record := unplacedRecord candidate none .failed none ["Phase 7A did not provide an extracted module path"] none
    .ok { pass with records := pass.records.set candidate.path record }
  | some outputPath => do
    let extracted ← tools.safeTarget "" outputPath
    let projectRoot ← tools.safeTarget "projects" candidate.path
    match examineModule tools candidate extracted projectRoot with
    | .ok (.recorded record) => return { pass with records := pass.records.set candidate.path record }
    | .ok (.ready prepared) => return { pass with prepared := pass.prepared ++ [prepared] }
    | .error (failure, progress) =>
      if failure.isolated then
        let record := unplacedRecord candidate (some (tools.relativeDisplay progress.extracted)) .failed
          (progress.model.bind moduleName) [failure.message] progress.recovery
        return { pass with records := pass.records.set candidate.path record }
      else .error failure

def firstPass (candidates : List GameModuleRecord) : Except GameFailure ModulePass :=
  candidates.foldlM (firstPassTurn tools) ⟨[], []⟩

/-- The joint planning call. No handler is around it. -/
def planPrepared (prepared : List PreparedModule) : Except Failure (List ModulePlacement) :=
  if prepared = [] then .ok [] else planModulePlacements tools.casefold (prepared.map PreparedModule.input)

structure ModuleAnalysisInput where
  model : ExecutableModel
  disassembly : DisassemblyResult

def relocatedLinkModel (prepared : PreparedModule) (placement : ModulePlacement) : Except GameFailure ExecutableModel :=
  if !placement.requiresRelocation then .ok prepared.model
  else do
    let data ← tools.readBytes prepared.extracted
    let elf ← front (parseElf32 data)
    let view ← front (buildRelocatedLoadView data elf prepared.model placement.loadAddress)
    return view.model

/-- The `try` block of the second pass. -/
def generateModule (prepared : PreparedModule) (placement : ModulePlacement) : Except GameFailure ModuleAnalysisInput := do
  let loadAddress := if placement.requiresRelocation then some placement.loadAddress else none
  let disassembly ← tools.disassembleFile prepared.extracted loadAddress
  tools.generateProject prepared.extracted prepared.projectRoot loadAddress
  let model ← relocatedLinkModel tools prepared placement
  return ⟨model, disassembly⟩

structure GameLinking where
  records : Dict String GameModuleAnalysisRecord
  linkUnits : List ModuleAnalysisInput

def secondPassTurn (placementByPath : Dict String ModulePlacement) (s : GameLinking) (prepared : PreparedModule) :
    Except GameFailure GameLinking := do
  let candidate := prepared.candidate
  let placement ← front (lookupPlacement placementByPath prepared.input)
  let record : GameModuleAnalysisRecord := {
    path := candidate.path, extractedPath := some (tools.relativeDisplay prepared.extracted),
    executableKind := candidate.executableKind, isBoot := candidate.isBoot, status := .failed,
    moduleName := prepared.moduleName, projectPath := none, placement := some (placementFields placement),
    disassembly := none, warnings := [], recovery := prepared.recovery }
  match generateModule tools prepared placement with
  | .ok unit =>
    let analyzed := { record with
      status := if prepared.recovery.isSome then .analyzedRecovered else .analyzed
      projectPath := some (tools.relativeDisplay prepared.projectRoot)
      disassembly := some unit.disassembly
      warnings := prepared.model.warnings ++ unit.disassembly.warnings }
    return ⟨s.records.set candidate.path analyzed, s.linkUnits ++ [unit]⟩
  | .error failure =>
    if failure.isolated then
      return { s with records := s.records.set candidate.path { record with warnings := [failure.message] } }
    else .error failure

def sortPrepared (prepared : List PreparedModule) : List PreparedModule :=
  prepared.insertionSort fun module other => tools.casefold module.candidate.path ≤ tools.casefold other.candidate.path

/-- The placements by path. The last one of a path counts. -/
def placementsByPath (placements : List ModulePlacement) : Dict String ModulePlacement :=
  placements.foldl (fun byPath placement => byPath.set placement.path placement) []

/-- `generate_game_project` from the joint planning call to the end of the second pass. -/
def finishModules (pass : ModulePass) : Except GameFailure GameLinking := do
  let placements ← front (planPrepared tools pass.prepared)
  (sortPrepared tools pass.prepared).foldlM (secondPassTurn tools (placementsByPath placements)) ⟨pass.records, []⟩

def sortCandidates (modules : List GameModuleRecord) : List GameModuleRecord :=
  modules.insertionSort fun module other => tools.casefold module.path ≤ tools.casefold other.path

def generateGameModules (modules : List GameModuleRecord) : Except GameFailure GameLinking := do
  let pass ← firstPass tools (sortCandidates tools modules)
  finishModules tools pass

end Game

end PspDisasm
