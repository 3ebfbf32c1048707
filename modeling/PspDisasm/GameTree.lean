import PspDisasm.Disc.GameScan
import PspDisasm.PythonValues
import PspDisasm.Recovery

namespace PspDisasm
open Foundations

/-- A file of an analysis: the bytes of a module, or the payload of a JSON text. -/
inductive ProjectFile
  | bytes (data : Bytes)
  | json (payload : Json)

/-- The files below the directory of an analysis, by the parts of their paths. -/
abbrev ProjectTree := Dict WorkspacePath ProjectFile

def ProjectTree.putAll (tree : ProjectTree) (files : List (WorkspacePath × ProjectFile)) : ProjectTree :=
  files.foldl (fun tree file => tree.set file.1 file.2) tree

def gameAnalysisFile : WorkspacePath := ["metadata", "game_analysis.json"]

/-- The standard library, the reader of disc images, and the parts of the analysis that look at one module at a time.
`dumps` is the text of a JSON file, `isDigit` is `str.isdigit`, and `writable` is what the host says to a write.
`generateProject` writes files below the directory of a project and returns or raises. -/
structure ProjectTools extends WorkspaceTools where
  isDigit : String → Bool
  openDisc : Bytes → Except WorkspaceFailure (String × List DiscMember)
  dumps : Json → Bytes
  writable : ProjectTree → WorkspacePath → Except GameFailure Unit
  disassemble : String → Bytes → Option Int → Except GameFailure DisassemblyResult
  generateProject : String → Bytes → Option Int → List (WorkspacePath × ProjectFile) × Except GameFailure Unit

def ProjectFile.data (dumps : Json → Bytes) : ProjectFile → Bytes
  | .bytes data => data
  | .json payload => dumps payload

section Paths

def unsafeRelative (path : String) : Prop := path.toList.head? = some '/' ∨ ".." ∈ posixParts path

instance (path : String) : Decidable (unsafeRelative path) := inferInstanceAs (Decidable (_ ∨ _))

/-- `_safe_relative_target` of a directory below the output, as the path below the output. -/
def safeRelativeTarget (directory relative : String) : Except GameFailure String := do
  raiseIf (unsafeRelative relative) (.value s!"Unsafe game project path: {relative}")
  return "/".intercalate (posixParts directory ++ posixParts relative)

/-- The place of a copied module: `_safe_target` below `modules`. -/
def copyTarget (path : String) : Except GameFailure String := do
  raiseIf (unsafeRelative path) (.front (.parseError s!"Unsafe disc extraction path: {path}"))
  return "/".intercalate ("modules" :: posixParts path)

/-- `path.with_name(path.name + ".recovery.json")`. -/
def sidecarPath (path : WorkspacePath) : WorkspacePath := path.dropLast ++ [path.getLastD "" ++ ".recovery.json"]

end Paths

section Json

def jsonText : Option String → Json := Json.ofOption .str

def recoveryJson (provenance : RecoveryProvenance) : Json := .obj [
  ("outcome", .str provenance.outcome),
  ("original_sha256", jsonText provenance.originalSha256),
  ("recovered_sha256", jsonText provenance.recoveredSha256),
  ("recovery_backend", jsonText provenance.recoveryBackend),
  ("backend_version", jsonText provenance.backendVersion),
  ("verification", jsonText provenance.verification),
  ("warnings", Json.ofTexts provenance.warnings)]

def ModuleStatus.value : ModuleStatus → String
  | .analyzed => "analyzed"
  | .analyzedRecovered => "analyzed_recovered"
  | .needsDecryption => "needs_decryption"
  | .failed => "failed"

def PlacementKind.value : PlacementKind → String
  | .fixed => "fixed"
  | .bootInferred => "boot_inferred"
  | .analysis => "analysis"

/-- The members that `_placement_fields` sets, or their defaults. -/
def placementMembers : Option PlacementFields → Fields
  | none => [("load_address", .null), ("placement_kind", .null), ("placement_confidence", .null),
      ("runtime_address_claim", .null), ("requires_relocation", .null), ("placement_evidence", .arr [])]
  | some fields => [("load_address", .int fields.loadAddress), ("placement_kind", .str fields.placementKind.value),
      ("placement_confidence", .float (some fields.placementConfidence)),
      ("runtime_address_claim", .bool fields.runtimeAddressClaim), ("requires_relocation", .bool fields.requiresRelocation),
      ("placement_evidence", Json.ofTexts fields.placementEvidence)]

def countMembers (disassembly : Option DisassemblyResult) : Fields :=
  let count (counter : DisassemblyResult → Nat) := Json.int ((disassembly.map counter).getD 0 : Nat)
  [("function_count", count (·.functionCount)), ("symbol_count", count (·.symbolCount)),
    ("reference_count", count (·.referenceCount)), ("string_count", count (·.stringCount))]

/-- `asdict` of the record of a module. -/
def moduleMembers (record : GameModuleAnalysisRecord) : Fields :=
  [("path", .str record.path), ("extracted_path", jsonText record.extractedPath),
    ("executable_kind", .str record.executableKind), ("is_boot", .bool record.isBoot), ("status", .str record.status.value),
    ("module_name", jsonText record.moduleName), ("project_path", jsonText record.projectPath)] ++
  placementMembers record.placement ++ countMembers record.disassembly ++
  [("warnings", Json.ofTexts record.warnings), ("recovery", Json.ofOption recoveryJson record.recovery)]

/-- `asdict` of the analysis, without the links. -/
def analysisJson (manifest : GameDiscManifest) (records : List GameModuleAnalysisRecord) : Json := .obj [
  ("source_name", .str manifest.sourceName), ("title", jsonText manifest.title), ("disc_id", jsonText manifest.discId),
  ("image_format", .str manifest.imageFormat), ("boot_path", .str manifest.bootPath),
  ("modules", .arr (records.map fun record => .obj (moduleMembers record))),
  ("warnings", Json.ofTexts manifest.warnings)]

end Json

section Run
variable (tools : ProjectTools)

def readProjectFile (tree : ProjectTree) (path : String) : Except GameFailure Bytes :=
  match tree.get? (posixParts path) with
  | some file => .ok (file.data tools.dumps)
  | none => .error (.os s!"[Errno 2] No such file or directory: '{path}'")

/-- The tools of an analysis over its files. Targets stand as paths below the output, which is how they are displayed. -/
def treeTools (recovery : Option (Bytes → Except GameFailure RecoveryResult)) (tree : ProjectTree) : GameTools where
  casefold := tools.casefold
  safeTarget := safeRelativeTarget
  relativeDisplay := id
  readBytes := readProjectFile tools tree
  recoverBytes := recovery
  writeRecovered target _ := tools.writable tree (posixParts target)
  disassembleFile path loadAddress := do
    let data ← readProjectFile tools tree path
    tools.disassemble path data loadAddress
  generateProject path _ loadAddress := do
    let data ← readProjectFile tools tree path
    (tools.generateProject path data loadAddress).2

/-- What leaves a recovery is, to the pipeline around it, one of the two classes that it catches. -/
def recoveryFailure : RecoveryFailure → GameFailure
  | .front failure => .front failure
  | .raised exception => .recovery exception.message exception.provenance

/-- The recovery of an analysis with some backends, if there are any. -/
def gameRecovery (recovery : RecoveryTools) (backends : List RecoveryBackend) (maxOutputBytes : Int) :
    Option (Bytes → Except GameFailure RecoveryResult) :=
  if backends = [] then none
  else some fun data => (recoverBytes recovery data maxOutputBytes backends).mapError recoveryFailure

variable (recovery : Option (Bytes → Except GameFailure RecoveryResult))

/-- What the recovery of a module comes to, with the place that it is written to. -/
def recoveredModule (tree : ProjectTree) (candidate : GameModuleRecord) (extracted : String) :
    Option (WorkspacePath × RecoveryResult) := do
  let data ← (readProjectFile tools tree extracted).toOption
  let model ← (analyzeBytes data extracted).toOption
  guard (model.needsDecryption = true)
  let recover ← recovery
  let recovered ← (recover data).toOption
  let target ← (safeRelativeTarget "recovered" candidate.path).toOption
  let _ ← (tools.writable tree (posixParts target)).toOption
  return (posixParts target, recovered)

/-- The files that the first pass writes for a module. -/
def recoveredFiles (tree : ProjectTree) (candidate : GameModuleRecord) : List (WorkspacePath × ProjectFile) :=
  let extracted := candidate.outputPath.bind fun outputPath => (safeRelativeTarget "" outputPath).toOption
  match extracted.bind (recoveredModule tools recovery tree candidate) with
  | none => []
  | some (target, recovered) =>
    [(target, .bytes recovered.data), (sidecarPath target, .json (recoveryJson recovered.provenance))]

structure ExamineRun where
  tree : ProjectTree
  pass : ModulePass

/-- A turn of the first pass with the files that it writes. -/
def examineTurn (run : ExamineRun) (candidate : GameModuleRecord) : Except GameFailure ExamineRun := do
  let pass ← firstPassTurn (treeTools tools recovery run.tree) run.pass candidate
  return ⟨run.tree.putAll (recoveredFiles tools recovery run.tree candidate), pass⟩

/-- The files that the second pass writes for a module, whether or not its project is finished. -/
def projectWrites (tree : ProjectTree) (prepared : PreparedModule) (placement : ModulePlacement) :
    List (WorkspacePath × ProjectFile) :=
  let loadAddress := if placement.requiresRelocation then some placement.loadAddress else none
  match readProjectFile tools tree prepared.extracted with
  | .error _ => []
  | .ok data =>
    match tools.disassemble prepared.extracted data loadAddress with
    | .error _ => []
    | .ok _ => (tools.generateProject prepared.extracted data loadAddress).1.map fun file =>
      (posixParts prepared.projectRoot ++ file.1, file.2)

structure GenerateRun where
  tree : ProjectTree
  linking : GameLinking

/-- A turn of the second pass with the files that it writes. -/
def generateTurn (placementByPath : Dict String ModulePlacement) (run : GenerateRun) (prepared : PreparedModule) :
    Except GameFailure GenerateRun := do
  let placement ← front (lookupPlacement placementByPath prepared.input)
  let linking ← secondPassTurn (treeTools tools recovery run.tree) placementByPath run.linking prepared
  return ⟨run.tree.putAll (projectWrites tools run.tree prepared placement), linking⟩

/-- The files of a source, with what an image holds in place of its one file. -/
def sourceFiles : HostSource → Except GameFailure (List IsoFile)
  | .directory _ entries => listDirectory tools.toWorkspaceTools entries
  | .file data _ =>
    match tools.openDisc data with
    | .error _ => .error (.front (.parseError "Unable to read PSP ISO9660 filesystem"))
    | .ok (_, members) => .ok (walkFiles tools.toWorkspaceTools tools.isDigit members)

def workspaceFailure : WorkspaceFailure → GameFailure
  | .parseError message => .front (.parseError message)
  | .engineUnavailable message => .engineUnavailable message
  | .workspaceError message => .value message

/-- `scan_game_directory` or `scan_game_disc`, with the modules copied to the output. -/
def scanGame (sourceName : String) : HostSource → Except GameFailure GameDiscManifest
  | .directory stat entries =>
    scanGameDirectory tools.toWorkspaceTools sourceName (some copyTarget) (.directory stat entries)
  | .file data _ =>
    match tools.openDisc data with
    | .error failure => .error (workspaceFailure failure)
    | .ok (imageFormat, members) =>
      (scanGameDisc tools.toWorkspaceTools tools.isDigit sourceName imageFormat (some copyTarget) members).mapError workspaceFailure

/-- The copies of the modules of a source. -/
def moduleFiles (bootPath : String) (files : List IsoFile) : List (WorkspacePath × ProjectFile) :=
  (files.filter fun item => discClassification tools.toWorkspaceTools item bootPath ∈ ["boot", "module"]).map fun item =>
    ("modules" :: posixParts item.logicalPath, .bytes item.content)

/-- The records in the order of the candidates. -/
def recordsInOrder (records : Dict String GameModuleAnalysisRecord) (candidates : List GameModuleRecord) :
    Except GameFailure (List GameModuleAnalysisRecord) :=
  candidates.mapM fun candidate =>
    match records.get? candidate.path with
    | some record => .ok record
    | none => .error (.front (.keyError candidate.path))

/-- `generate_game_project` into an empty directory. The resources, the links and the plan are written to places of their
own that no module is read from; they are left out. -/
def generateGameTree (sourceName : String) (source : HostSource) :
    Except GameFailure (ProjectTree × List GameModuleAnalysisRecord) := do
  let files ← sourceFiles tools source
  let manifest ← scanGame tools sourceName source
  let candidates := sortCandidates (treeTools tools recovery []) manifest.modules
  let copied := ProjectTree.putAll [] (moduleFiles tools manifest.bootPath files)
  let examined ← candidates.foldlM (examineTurn tools recovery) ⟨copied, ⟨[], []⟩⟩
  let placements ← front (planPrepared (treeTools tools recovery examined.tree) examined.pass.prepared)
  let generated ← (sortPrepared (treeTools tools recovery examined.tree) examined.pass.prepared).foldlM
    (generateTurn tools recovery (placementsByPath placements)) ⟨examined.tree, ⟨examined.pass.records, []⟩⟩
  let records ← recordsInOrder generated.linking.records candidates
  return (generated.tree.set gameAnalysisFile (.json (analysisJson manifest records)), records)

end Run

end PspDisasm
