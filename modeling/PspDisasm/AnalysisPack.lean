import PspDisasm.GameTree

namespace PspDisasm.AnalysisPack
open Foundations

inductive PackFailure
  | workspace (failure : WorkspaceFailure)
  | analysisPack (message : String)
deriving DecidableEq, Repr

structure Artifact where
  path : String
  data : Bytes
deriving DecidableEq, Repr

structure AnalysisPackResult where
  selectorKind : String
  selectorValue : String
  artifactCount : Nat
  totalBytes : Nat
  manifestSha256 : String
deriving DecidableEq, Repr

/-- The members of an archive: the artifacts, in order, and the manifest behind them. -/
structure Pack where
  members : List Artifact
  manifest : Bytes
deriving DecidableEq

/-- The name of the manifest in an archive. -/
def packManifestPath : String := "pack-manifest.json"

/-- The tools of an analysis with those of the packer. `portableText` puts a mark in the place of the workspace in a
text, `selectorInt` is `int(selector, 0)`, `sameValue` is `==` of two JSON values, and `writePack` writes the archive. -/
structure PackTools extends ProjectTools where
  portableText : String → String
  selectorInt : String → Option Int
  sameValue : Json → Json → Bool
  texts : ValueTexts
  writePack : Pack → Except PackFailure Unit

def optionalFullArtifacts : List String := ["evidence/module.bin", "evidence/resource.bin"]

def artifactBytes (artifacts : List Artifact) : Nat := (artifacts.map fun artifact => artifact.data.length).sum

/-- A call of `_append`, or of `_append_optional_full_file`. -/
inductive Step
  | required (artifact : Artifact)
  | full (artifact : Artifact)
deriving DecidableEq

/-- What the code reads and appends, one after the other. It does not depend on the artifacts before. -/
inductive Collection (α : Type)
  | done (value : α)
  | raised (failure : PackFailure)
  | collect (step : Step) (rest : Collection α)

namespace Collection
variable {α β : Type}

def bind : Collection α → (α → Collection β) → Collection β
  | .done value, next => next value
  | .raised failure, _ => .raised failure
  | .collect step rest, next => .collect step (rest.bind next)

instance : Monad Collection where
  pure := .done
  bind := bind

def read : Except PackFailure α → Collection α
  | .ok value => .done value
  | .error failure => .raised failure

def append (artifact : Artifact) : Collection Unit := .collect (.required artifact) (.done ())

def appendFull (artifact : Artifact) : Collection Unit := .collect (.full artifact) (.done ())

end Collection

section Portable
variable (portableText : String → String) (logicalSource : String)

mutual

def portableize : Json → Json
  | .arr items => .arr (portableItems items)
  | .obj fields => .obj (portableMembers fields)
  | .str text => .str (portableText text)
  | value => value

def portableItems : List Json → List Json
  | [] => []
  | item :: items => portableize item :: portableItems items

def portableMembers : List (String × Json) → List (String × Json)
  | [] => []
  | (key, item) :: members =>
    let portable := if key = "source_name" ∧ item.typeName = "str" then .str logicalSource else portableize item
    (key, portable) :: portableMembers members

end

end Portable

section Pack
variable (tools : PackTools)

/-- `_safe_logical_path`, which is that of the workspace under another message. -/
def packLogicalPath (label value : String) : Except PackFailure String :=
  (safeLogicalPath value).mapError fun _ => .analysisPack s!"Unsafe {label} path: {value}"

/-- `_safe_child` of the directory of an analysis, by the parts of the path below it. -/
def safeChild (relative : String) : Except PackFailure WorkspacePath :=
  posixParts <$> packLogicalPath "analysis artifact" relative

def loadProjectJson (tree : ProjectTree) (path : WorkspacePath) (label : String) : Except PackFailure Json :=
  let name := path.getLastD ""
  match tree.get? path with
  | none => .error (.analysisPack s!"Required {label} is missing: {name}")
  | some (.bytes _) => .error (.analysisPack s!"Unable to read {label}: Expecting value")
  | some (.json payload) => .ok payload

def findFile (manifest : GameWorkspaceManifest) (logicalPath : String) : Except PackFailure WorkspaceFileRecord := do
  let selected ← packLogicalPath "selector" logicalPath
  match manifest.files.filter fun record => tools.casefold record.path = tools.casefold selected with
  | [record] => return record
  | _ => .error (.analysisPack s!"Workspace source path was not found uniquely: {logicalPath}")

def analysisRoot (tree : ProjectTree) : Except PackFailure Unit :=
  raiseIf ((tree.get? gameAnalysisFile).isNone)
    (.analysisPack "Workspace has not been analyzed; run analyze-workspace first")

def gameAnalysisModules (tree : ProjectTree) : Except PackFailure (List Json) := do
  let payload ← loadProjectJson tree gameAnalysisFile "game analysis"
  match payload with
  | .obj fields =>
    match Fields.getOr fields "modules" .null with
    | .arr items => return items
    | _ => .error (.analysisPack "Game analysis has an invalid module schema")
  | _ => .error (.analysisPack "Game analysis has an invalid module schema")

/-- The members of a module whose path is a text that folds like the selected one. -/
def selectedModule (selected : String) : Json → Option Fields
  | .obj fields =>
    match Fields.getOr fields "path" .null with
    | .str path => if tools.casefold path = tools.casefold selected then some fields else none
    | _ => none
  | _ => none

def moduleRecord (tree : ProjectTree) (logicalPath : String) : Except PackFailure Fields := do
  let selected ← packLogicalPath "selector" logicalPath
  let modules ← gameAnalysisModules tree
  match modules.filterMap (selectedModule tools selected) with
  | [fields] => return fields
  | _ => .error (.analysisPack s!"Analyzed module was not found uniquely: {logicalPath}")

/-- A text member that is not empty. -/
def textMember (fields : Fields) (key : String) : Option String :=
  match Fields.getOr fields key .null with
  | .str text => if text = "" then none else some text
  | _ => none

def isDirectory (tree : ProjectTree) (path : WorkspacePath) : Bool :=
  tree.keys.any fun file => path.isPrefixOf file && file ≠ path

def projectRoot (tree : ProjectTree) (module : Fields) : Except PackFailure WorkspacePath :=
  match textMember module "project_path" with
  | none => .error (.analysisPack "Selected module has no generated analysis project")
  | some value => do
    let project ← safeChild value
    raiseIf (isDirectory tree project = false) (.analysisPack "Selected module project is missing")
    return project

def moduleBytesPath (tree : ProjectTree) (module : Fields) : Except PackFailure Bytes :=
  match textMember module "extracted_path" with
  | none => .error (.analysisPack "Selected module has no extracted byte provenance")
  | some value => do
    let path ← safeChild value
    match tree.get? path with
    | none => .error (.analysisPack "Selected module bytes are missing")
    | some file => return file.data tools.dumps

def mismatch (record : WorkspaceFileRecord) : PackFailure :=
  .analysisPack s!"Analysis bytes no longer match workspace provenance: {record.path}"

def verifySourceFile (record : WorkspaceFileRecord) (data : Bytes) : Except PackFailure Unit :=
  raiseIf (data.length ≠ record.size ∨ tools.sha256 data ≠ record.sha256) (mismatch record)

/-- `_append`, whose paths are logical paths as they stand. -/
def append (maxBytes : Nat) (artifacts : List Artifact) (artifact : Artifact) : Except PackFailure (List Artifact) := do
  raiseIf (artifacts.any (·.path = artifact.path)) (.analysisPack s!"Duplicate analysis-pack artifact: {artifact.path}")
  raiseIf (maxBytes < artifactBytes artifacts + artifact.data.length)
    (.analysisPack s!"Analysis-pack artifact {artifact.path} exceeds the configured {maxBytes} byte budget")
  return artifacts ++ [artifact]

def appendOptionalFullFile (maxBytes : Nat) (artifacts : List Artifact) (artifact : Artifact) :
    Except PackFailure (List Artifact) :=
  if maxBytes - artifactBytes artifacts < artifact.data.length then .ok artifacts else append maxBytes artifacts artifact

def takeStep (maxBytes : Nat) (artifacts : List Artifact) : Step → Except PackFailure (List Artifact)
  | .required artifact => append maxBytes artifacts artifact
  | .full artifact => appendOptionalFullFile maxBytes artifacts artifact

/-- The calls under a budget. -/
def Collection.run {α : Type} (maxBytes : Nat) : Collection α → List Artifact → Except PackFailure (α × List Artifact)
  | .done value, artifacts => .ok (value, artifacts)
  | .raised failure, _ => .error failure
  | .collect step rest, artifacts => do
    let artifacts ← takeStep maxBytes artifacts step
    rest.run maxBytes artifacts

def metadataNames : List String := ["executable.json", "disassembly.json", "advanced.json", "data_typing.json",
  "asset_discovery.json", "functions.json", "symbols.json", "references.json", "strings.json"]

def moduleJson (module : Fields) : Artifact := ⟨"evidence/module.json", tools.dumps (.obj module)⟩

def metadataArtifact (source : WorkspaceFileRecord) (name : String) (payload : Json) : Artifact :=
  ⟨s!"metadata/{name}", tools.dumps (portableize tools.portableText source.path payload)⟩

/-- A turn of the loop over the metadata of a project. -/
def appendMetadata (tree : ProjectTree) (source : WorkspaceFileRecord) (project : WorkspacePath) (name : String) : Collection Unit :=
  let path := project ++ ["metadata", name]
  if (tree.get? path).isNone then .done ()
  else do
    let payload ← .read (loadProjectJson tree path s!"module metadata {name}")
    .append (metadataArtifact tools source name payload)

def moduleArtifacts (tree : ProjectTree) (source : WorkspaceFileRecord) (module : Fields) : Collection Unit := do
  .append (moduleJson tools module)
  let project ← .read (projectRoot tree module)
  metadataNames.forM (appendMetadata tools tree source project)
  let data ← .read (moduleBytesPath tools tree module)
  .read (verifySourceFile tools source data)
  .appendFull ⟨"evidence/module.bin", data⟩

/-- The members of a function that the selector names, or whose address it is. -/
def selectedFunction (selector : String) : Json → Option Fields
  | .obj fields =>
    let named := (Json.getField fields "name").equalsStr selector
    let placed := (tools.selectorInt selector).any fun address => (Json.getField fields "address").equalsInt address
    if named || placed then some fields else none
  | _ => none

def selectFunction (functions : Json) (selector : String) : Except PackFailure Fields :=
  match functions with
  | .arr items =>
    match items.filterMap (selectedFunction tools selector) with
    | [fields] => .ok fields
    | _ => .error (.analysisPack s!"Function was not found uniquely: {selector}")
  | _ => .error (.analysisPack "Function metadata has an invalid schema")

/-- The place of a section, if all of its numbers are integers. -/
def sectionPlace : Json → Option (Int × Int × Int)
  | .obj fields => do
    let addr ← (Json.getField fields "addr").int?
    let offset ← (Json.getField fields "offset").int?
    let size ← (Json.getField fields "size").int?
    return (addr, offset, size)
  | _ => none

def functionContextRange (tree : ProjectTree) (project : WorkspacePath) (moduleSize : Nat) (function : Fields) (contextBytes : Int) :
    Except PackFailure (Int × Int) := do
  let executable ← loadProjectJson tree (project ++ ["metadata", "executable.json"]) "executable metadata"
  let unmapped : PackFailure := .analysisPack "Executable metadata cannot map the selected function to file bytes"
  let sections ← match executable with
    | .obj fields =>
      match Json.getField fields "sections" with
      | .arr items => .ok items
      | _ => .error unmapped
    | _ => .error unmapped
  match (Json.getField function "address").int?, (Json.getField function "size").int? with
  | some address, some size =>
    raiseIf (size < 0) (.analysisPack "Selected function has invalid address/size metadata")
    match (sections.filterMap sectionPlace).find? fun (addr, _, length) => addr ≤ address ∧ address < addr + length with
    | none => .error (.analysisPack "Selected function is not backed by a file section")
    | some (addr, offset, _) =>
      let start := offset + (address - addr)
      raiseIf (start < 0 ∨ moduleSize < start + size) (.analysisPack "Selected function byte range is outside the source module")
      return (max 0 (start - contextBytes), min moduleSize (start + size + contextBytes))
  | _, _ => .error (.analysisPack "Selected function has invalid address/size metadata")

/-- `_read_slice` of the bytes of a file. -/
def readSlice (data : Bytes) (offset size : Int) (label : String) : Except PackFailure Bytes := do
  raiseIf (offset < 0 ∨ size < 0) (.analysisPack s!"Invalid {label} byte range")
  let part := slice data offset.toNat size.toNat
  raiseIf (part.length ≠ size) (.analysisPack s!"Unable to read complete {label}")
  return part

def listItems : Json → List Json
  | .arr items => items
  | _ => []

/-- A member of an entry is an address of the function. -/
def addressInside (address size : Int) (fields : Fields) (key : String) : Bool :=
  (Json.getField fields key).int?.any fun value => address ≤ value ∧ value < address + size

def touchesFunction (address size : Int) : Json → Bool
  | .obj fields => addressInside address size fields "source_address" || addressInside address size fields "target_address"
  | _ => false

def callsFunction (name : Json) (address size : Int) : Json → Bool
  | .obj fields => tools.sameValue (Json.getField fields "source_function") name ||
      tools.sameValue (Json.getField fields "target_function") name || touchesFunction address size (.obj fields)
  | _ => false

def jsonArtifact (path : String) (value : Json) : Artifact := ⟨path, tools.dumps value⟩

/-- The call edges of a function, none where the project has no call graph. -/
def callEdges (tree : ProjectTree) (project : WorkspacePath) (selected : Fields) (address size : Int) : Except PackFailure (List Json) :=
  let path := project ++ ["metadata", "callgraph.json"]
  if (tree.get? path).isNone then .ok []
  else do
    let callgraph ← loadProjectJson tree path "call graph"
    return (listItems callgraph).filter (callsFunction tools (Json.getField selected "name") address size)

def functionArtifacts (tree : ProjectTree) (source : WorkspaceFileRecord) (module : Fields) (selector : String) (contextBytes : Int) :
    Collection Fields := do
  let project ← .read (projectRoot tree module)
  let functions ← .read (loadProjectJson tree (project ++ ["metadata", "functions.json"]) "function metadata")
  let selected ← .read (selectFunction tools functions selector)
  match (Json.getField selected "address").int?, (Json.getField selected "size").int? with
  | some address, some size =>
    .append (jsonArtifact tools "evidence/function.json" (.obj selected))
    .append (jsonArtifact tools "evidence/instructions.json" (.arr (listItems (Json.getField selected "instructions"))))
    let references ← .read (loadProjectJson tree (project ++ ["metadata", "references.json"]) "reference metadata")
    .append (jsonArtifact tools "evidence/references.json" (.arr ((listItems references).filter (touchesFunction address size))))
    let edges ← .read (callEdges tools tree project selected address size)
    .append (jsonArtifact tools "evidence/callgraph.json" (.arr edges))
    let data ← .read (moduleBytesPath tools tree module)
    .read (verifySourceFile tools source data)
    let (start, stop) ← .read (functionContextRange tree project source.size selected contextBytes)
    let context ← .read (readSlice data start (stop - start) "function context")
    .append ⟨"evidence/context.bin", context⟩
    .append (jsonArtifact tools "evidence/context.json" (.obj [("parent_path", .str source.path), ("parent_sha256", .str source.sha256),
      ("file_offset", .int start), ("size", .int context.length)]))
    return selected
  | _, _ => .raised (.analysisPack "Selected function has invalid address/size metadata")

/-- The bytes of a resource, by the path that its record gives. -/
def resourceBytes (tree : ProjectTree) (resource : Fields) : Except PackFailure Bytes :=
  match textMember resource "extracted_path" with
  | none => .error (.analysisPack "Selected resource has no extracted byte provenance")
  | some value => do
    let path ← safeChild value
    match tree.get? path with
    | none => .error (.analysisPack "Selected resource bytes are missing")
    | some file => return file.data tools.dumps

def belongsTo (source : WorkspaceFileRecord) : Json → Bool
  | .obj fields =>
    match Json.getField fields "parent_path" with
    | .str path => tools.casefold path = tools.casefold source.path
    | _ => false
  | _ => false

/-- A turn of the loop over the records of what a resource contains. -/
def appendRelated (tree : ProjectTree) (source : WorkspaceFileRecord) (related : String × String) : Collection Unit :=
  let path := ["metadata", related.1]
  if (tree.get? path).isNone then .done ()
  else do
    let payload ← .read (loadProjectJson tree path related.1)
    .append (jsonArtifact tools s!"evidence/{related.2}.json" (.arr ((listItems payload).filter (belongsTo tools source))))

def relatedFiles : List (String × String) := [("embedded_resources.json", "embedded"), ("container_inspections.json", "containers")]

def resourceArtifacts (tree : ProjectTree) (source : WorkspaceFileRecord) (resource : Fields) (contextBytes : Int) : Collection Unit := do
  .append (jsonArtifact tools "evidence/resource.json" (.obj resource))
  let data ← .read (resourceBytes tools tree resource)
  .read (verifySourceFile tools source data)
  let sample ← .read (readSlice data 0 (min contextBytes source.size) "resource sample")
  .append ⟨"evidence/resource-sample.bin", sample⟩
  .appendFull ⟨"evidence/resource.bin", data⟩
  relatedFiles.forM (appendRelated tools tree source)

def artifactJson (artifact : Artifact) : Json := .obj [
  ("path", .str artifact.path), ("size", .int artifact.data.length), ("sha256", .str (tools.sha256 artifact.data))]

def sortArtifacts (artifacts : List Artifact) : List Artifact := artifacts.insertionSort fun artifact other => artifact.path ≤ other.path

def packManifest (manifest : GameWorkspaceManifest) (source : WorkspaceFileRecord) (selectorKind selectorValue : String)
    (artifacts : List Artifact) : Json := .obj [
  ("schema_version", .int 1),
  ("source_identity", .str manifest.sourceIdentity),
  ("selector", .obj [("kind", .str selectorKind), ("value", .str selectorValue)]),
  ("source", .obj [("path", .str source.path), ("size", .int source.size), ("sha256", .str source.sha256)]),
  ("artifacts", .arr ((sortArtifacts artifacts).map (artifactJson tools)))]

/-- The last artifact that the pack can do without. -/
def lastOptional (artifacts : List Artifact) : Option Nat :=
  (List.range artifacts.length).reverse.find? fun index =>
    (artifacts[index]?.map (·.path)).any (· ∈ optionalFullArtifacts)

/-- The loop of `_fit_manifest_budget`, with the number of artifacts that it can still leave out. -/
def fitManifest (describe : List Artifact → Bytes) (maxBytes : Nat) : Nat → List Artifact →
    Except PackFailure (List Artifact × Bytes)
  | spare, selected =>
    if artifactBytes selected + (describe selected).length ≤ maxBytes then .ok (selected, describe selected)
    else
      match spare, lastOptional selected with
      | spare + 1, some index => fitManifest describe maxBytes spare (selected.eraseIdx index)
      | _, _ => .error (.analysisPack "Analysis-pack manifest would exceed the configured budget")

def fitManifestBudget (describe : List Artifact → Bytes) (maxBytes : Nat) (artifacts : List Artifact) :
    Except PackFailure (List Artifact × Bytes) :=
  fitManifest describe maxBytes (artifacts.countP fun artifact => artifact.path ∈ optionalFullArtifacts) artifacts

def manifestBytes (manifest : GameWorkspaceManifest) (source : WorkspaceFileRecord) (selector : String × String)
    (artifacts : List Artifact) : Bytes :=
  tools.dumps (packManifest tools manifest source selector.1 selector.2 artifacts)

/-- The only analyzed module, for a function that comes without its module. -/
def singleAnalyzedModule (tree : ProjectTree) : Except PackFailure Fields := do
  let modules ← gameAnalysisModules tree
  let analyzed (item : Json) : Option Fields :=
    match item with
    | .obj fields =>
      if (Json.getField fields "status").equalsStr "analyzed" ∧ (Json.getField fields "path").typeName = "str" ∧
        (Json.getField fields "project_path").typeName = "str" then some fields else none
    | _ => none
  match modules.filterMap analyzed with
  | [fields] => return fields
  | _ => .error (.analysisPack "Function pack is ambiguous without --module; select an analyzed module explicitly")

def resourceRecord (tree : ProjectTree) (logicalPath : String) : Except PackFailure Fields := do
  let selected ← packLogicalPath "selector" logicalPath
  let payload ← loadProjectJson tree ["metadata", "game_resources.json"] "resource analysis"
  let invalid : PackFailure := .analysisPack "Resource analysis has an invalid schema"
  let resources ← match payload with
    | .obj fields =>
      match Json.getField fields "resources" with
      | .arr items => .ok items
      | _ => .error invalid
    | _ => .error invalid
  match resources.filterMap (selectedModule tools selected) with
  | [fields] => return fields
  | _ => .error (.analysisPack s!"Analyzed resource was not found uniquely: {logicalPath}")

/-- The source and the record of the module that is named, or of the only one. -/
def selectedSource (tree : ProjectTree) (manifest : GameWorkspaceManifest) :
    Option String → Except PackFailure (WorkspaceFileRecord × Fields)
  | none => do
    let record ← singleAnalyzedModule tree
    match Json.getField record "path" with
    | .str path => do
      let source ← findFile tools manifest path
      return (source, record)
    | _ => .error (.analysisPack "Analyzed module has no logical source path")
  | some module => do
    let source ← findFile tools manifest module
    let record ← moduleRecord tools tree source.path
    return (source, record)

/-- The keyword arguments that select the evidence. -/
structure Selectors where
  module : Option String
  function : Option String
  resource : Option String

/-- The source that is selected, and what there is to collect about it. The collection returns the kind and the value of
the selector. -/
structure Selection where
  manifest : GameWorkspaceManifest
  source : WorkspaceFileRecord
  collection : Collection (String × String)

/-- `create_analysis_pack` up to the collection of the artifacts. -/
def openSelection (disk : WorkspaceDisk) (tree : ProjectTree) (selectors : Selectors) (maxBytes contextBytes : Int) :
    Except PackFailure Selection := do
  raiseIf (maxBytes ≤ 0) (.analysisPack "Analysis-pack budget must be positive")
  raiseIf (contextBytes < 0 ∨ maxBytes < contextBytes)
    (.analysisPack "Analysis-pack context size must be within the configured budget")
  raiseIf (selectors.resource.isSome ∧ (selectors.module.isSome ∨ selectors.function.isSome))
    (.analysisPack "Resource packs cannot be combined with module/function selectors")
  raiseIf (selectors.module.isNone ∧ selectors.function.isNone ∧ selectors.resource.isNone)
    (.analysisPack "Select a module, function, or resource for the analysis pack")
  let manifest ← (loadGameWorkspace tools.toWorkspaceTools disk).mapError .workspace
  analysisRoot tree
  match selectors.resource with
  | some resource => do
    let source ← findFile tools manifest resource
    let record ← resourceRecord tools tree source.path
    return ⟨manifest, source, do
      resourceArtifacts tools tree source record contextBytes
      return ("resource", source.path)⟩
  | none => do
    let (source, record) ← selectedSource tools tree manifest selectors.module
    match selectors.function with
    | none => return ⟨manifest, source, do
        moduleArtifacts tools tree source record
        return ("module", source.path)⟩
    | some function => return ⟨manifest, source, do
        let selected ← functionArtifacts tools tree source record function contextBytes
        match Json.getField selected "name" with
        | .null => return ("function", function)
        | name => return ("function", tools.texts.toText name)⟩

/-- `create_analysis_pack`, with the archive that it writes. -/
def createAnalysisPack (disk : WorkspaceDisk) (tree : ProjectTree) (selectors : Selectors) (maxBytes contextBytes : Int) :
    Except PackFailure (AnalysisPackResult × Pack) := do
  let selection ← openSelection tools disk tree selectors maxBytes contextBytes
  let (selector, artifacts) ← selection.collection.run maxBytes.toNat []
  let (artifacts, described) ← fitManifestBudget (manifestBytes tools selection.manifest selection.source selector) maxBytes.toNat artifacts
  let pack : Pack := ⟨sortArtifacts artifacts, described⟩
  tools.writePack pack
  return (⟨selector.1, selector.2, artifacts.length, artifactBytes artifacts, tools.sha256 described⟩, pack)

end Pack

end PspDisasm.AnalysisPack
