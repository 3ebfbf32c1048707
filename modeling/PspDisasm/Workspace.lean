import Mathlib.Data.List.Sort
import PspDisasm.Foundations.ByteWords
import PspDisasm.Foundations.DiskOps
import PspDisasm.Foundations.Raising

namespace PspDisasm
open Foundations

def workspaceSchemaVersion : Nat := 1
def analysisSchemaVersion : Nat := 2

/-- A path below the workspace directory, by its parts. -/
abbrev WorkspacePath := List String

def workspaceFile : WorkspacePath := ["workspace.json"]
def filesManifest : WorkspacePath := ["manifests", "files.json"]
def localFile : WorkspacePath := [".pspdisasm-local.json"]
def analysisState : WorkspacePath := ["analysis", "state.json"]

/-- `path.with_name(f".{path.name}.tmp")`. -/
def tempName (path : WorkspacePath) : WorkspacePath := path.dropLast ++ ["." ++ path.getLastD "" ++ ".tmp"]

inductive WorkspaceFailure
  | workspaceError (message : String)
  | parseError (message : String)
  | engineUnavailable (message : String)
deriving DecidableEq, Repr

def WorkspaceFailure.IsWorkspaceError (failure : WorkspaceFailure) : Prop := ∃ message, failure = .workspaceError message

structure WorkspaceFileRecord where
  path : String
  size : Nat
  sha256 : String
  sourceKind : String
  classification : String
  executableKind : String
  analysisState : String
  analysisVersion : Nat
deriving DecidableEq, Repr

/-- The part of a record that the identity of a source is made of. -/
structure FileIdentity where
  path : String
  size : Nat
  sha256 : String
  sourceKind : String
  classification : String
  executableKind : String
deriving DecidableEq, Repr

def WorkspaceFileRecord.identity (record : WorkspaceFileRecord) : FileIdentity :=
  ⟨record.path, record.size, record.sha256, record.sourceKind, record.classification, record.executableKind⟩

structure GameWorkspaceManifest where
  schemaVersion : Nat
  toolkitVersion : String
  sourceKind : String
  sourceName : String
  sourceIdentity : String
  files : List WorkspaceFileRecord
deriving DecidableEq, Repr

/-- The contents of `workspace.json`. -/
structure PortableWorkspace where
  schemaVersion : Nat
  toolkitVersion : String
  sourceKind : String
  sourceName : String
  sourceIdentity : String
  filesManifest : WorkspacePath
deriving DecidableEq, Repr

structure SnapshotEntry where
  path : String
  size : Nat
  mtimeNs : Int
deriving DecidableEq, Repr

structure FileStat where
  size : Nat
  mtimeNs : Int
deriving DecidableEq, Repr

inductive Snapshot
  | directory (entries : List SnapshotEntry)
  | disc (stat : FileStat)
deriving DecidableEq, Repr

/-- The contents of `.pspdisasm-local.json`. -/
structure LocalSource where
  schemaVersion : Nat
  sourceKind : String
  sourcePath : String
  snapshot : Snapshot
deriving DecidableEq, Repr

/-- The counters of a whole-game analysis. -/
structure GameProjectSummary where
  moduleCount : Nat
  analyzedCount : Nat
  needsDecryptionCount : Nat
  failedCount : Nat
  recoveredCount : Nat
  resourceCount : Nat
  knownResourceCount : Nat
  unknownResourceCount : Nat
  embeddedResourceCount : Nat
  containerCandidateCount : Nat
  containerInspectionCount : Nat
  containerEntryCount : Nat
deriving DecidableEq, Repr

/-- The contents of `analysis/state.json`. -/
structure AnalysisState where
  schemaVersion : Nat
  analysisKey : String
  sourceIdentity : String
  gameProject : GameProjectSummary
deriving DecidableEq, Repr

/-- What a file of a workspace holds. A torn file was cut off while it was written: it is no JSON. -/
inductive Contents
  | portable (workspace : PortableWorkspace)
  | files (records : List WorkspaceFileRecord)
  | localSource (source : LocalSource)
  | state (state : AnalysisState)
  | output (text : String)
  | torn (reason : String)
deriving DecidableEq, Repr

abbrev WorkspaceDisk := Disk WorkspacePath Contents

/-- A file below a source directory. -/
structure HostFile where
  path : String
  symlink : Bool
  regular : Bool
  data : Bytes
  mtimeNs : Int
deriving DecidableEq, Repr

/-- What a source path leads to: a directory with its own stat and all entries below it, or a file. -/
inductive HostSource
  | directory (stat : FileStat) (entries : List HostFile)
  | file (data : Bytes) (mtimeNs : Int)
deriving DecidableEq, Repr

/-- `stat` of a source path. -/
def HostSource.stat : HostSource → FileStat
  | .directory stat _ => stat
  | .file data mtimeNs => ⟨data.length, mtimeNs⟩

/-- The standard library and the disc reader: folding of case, SHA-256 of bytes and of the canonical text of
an identity, and the image format and members of a disc image. -/
structure WorkspaceTools where
  casefold : String → String
  sha256 : Bytes → String
  identityDigest : List FileIdentity → String
  discEntries : Bytes → Except WorkspaceFailure (String × List WorkspaceFileRecord)
  toolkitVersion : String

def safeLogicalPath (value : String) : Except WorkspaceFailure String := do
  let unsafePath := WorkspaceFailure.workspaceError s!"Unsafe workspace logical path: {value}"
  let text := String.ofList (value.toList.map fun c => if c = '\\' then '/' else c)
  let parts := (text.toList.splitOn '/').map String.ofList |>.filter fun part => part ≠ "" ∧ part ≠ "."
  raiseIf (value = "" ∨ text.toList.head? = some '/' ∨ ".." ∈ parts) unsafePath
  raiseIf (parts = []) unsafePath
  return "/".intercalate parts

def workspaceExecutableKind (data : Bytes) : String :=
  if [0x7F, 0x45, 0x4C, 0x46].isPrefixOf data then "elf"
  else if [0x7E, 0x50, 0x53, 0x50].isPrefixOf data then "psp_container"
  else "unknown"

section Source
variable (tools : WorkspaceTools)

def directoryClassification (path executableKind : String) : String :=
  let folded := tools.casefold path
  if folded ∈ ["psp_game/sysdir/eboot.bin", "psp_game/sysdir/boot.bin"] then "boot"
  else if folded = "umd_data.bin" ∨ "/param.sfo".toList.isSuffixOf folded.toList ∨
      folded ∈ ["psp_game/icon0.png", "psp_game/pic0.png", "psp_game/pic1.png"] then "metadata"
  else if ".prx".toList.isSuffixOf folded.toList ∨ executableKind ≠ "unknown" then "module"
  else "resource"

/-- The regular files below a source, in order of path. Symbolic links are refused. -/
def walkSource (entries : List HostFile) : Except WorkspaceFailure (List (String × HostFile)) := do
  let ordered := entries.insertionSort fun entry other => tools.casefold entry.path ≤ tools.casefold other.path
  let checked ← ordered.mapM fun entry => do
    raiseIf (entry.symlink = true) (.workspaceError s!"Symlinks are not allowed in extracted PSP sources: {entry.path}")
    if entry.regular then
      let logical ← safeLogicalPath entry.path
      return some (logical, entry)
    else return none
  return checked.filterMap id

def snapshotEntry (file : String × HostFile) : SnapshotEntry := ⟨file.1, file.2.data.length, file.2.mtimeNs⟩

def directoryRecord (file : String × HostFile) : WorkspaceFileRecord :=
  let kind := workspaceExecutableKind file.2.data
  { path := file.1, size := file.2.data.length, sha256 := tools.sha256 file.2.data, sourceKind := "directory",
    classification := directoryClassification tools file.1 kind, executableKind := kind, analysisState := "pending",
    analysisVersion := analysisSchemaVersion }

def directoryEntries (entries : List HostFile) :
    Except WorkspaceFailure (List WorkspaceFileRecord × List SnapshotEntry) := do
  let walked ← walkSource tools entries
  raiseIf (walked = []) (.workspaceError "Extracted PSP source contains no files")
  let records := (walked.map (directoryRecord tools)).insertionSort fun record other =>
    tools.casefold record.path ≤ tools.casefold other.path
  let snapshot := (walked.map snapshotEntry).insertionSort fun entry other =>
    tools.casefold entry.path ≤ tools.casefold other.path
  return (records, snapshot)

def sourceIdentity (records : List WorkspaceFileRecord) : String :=
  tools.identityDigest ((records.insertionSort fun record other =>
    tools.casefold record.path ≤ tools.casefold other.path).map (·.identity))

/-- The kind, the records and the snapshot of a source, as preparation reads them. -/
def scanSource (source : HostSource) : Except WorkspaceFailure (String × List WorkspaceFileRecord × Snapshot) :=
  match source with
  | .directory _ entries => do
    let (records, snapshot) ← directoryEntries tools entries
    return ("directory", records, .directory snapshot)
  | .file data mtimeNs => do
    let (imageFormat, records) ← tools.discEntries data
    return (imageFormat, records, .disc ⟨data.length, mtimeNs⟩)

/-- A workspace that is about to be written. -/
structure Preparation where
  manifest : GameWorkspaceManifest
  sourcePath : String
  snapshot : Snapshot
deriving DecidableEq, Repr

def prepareGameWorkspace (host : String → Option HostSource) (sourcePath sourceName : String) :
    Except WorkspaceFailure Preparation :=
  match host sourcePath with
  | none => .error (.workspaceError s!"PSP workspace source does not exist: {sourcePath}")
  | some source => do
    let (sourceKind, records, snapshot) ← scanSource tools source
    return ⟨⟨workspaceSchemaVersion, tools.toolkitVersion, sourceKind, sourceName, sourceIdentity tools records, records⟩,
      sourcePath, snapshot⟩

def portableWorkspace (manifest : GameWorkspaceManifest) : PortableWorkspace :=
  ⟨manifest.schemaVersion, manifest.toolkitVersion, manifest.sourceKind, manifest.sourceName, manifest.sourceIdentity,
    filesManifest⟩

def localSource (preparation : Preparation) : LocalSource :=
  ⟨workspaceSchemaVersion, preparation.manifest.sourceKind, preparation.sourcePath, preparation.snapshot⟩

def atomicWriteText (path : WorkspacePath) (contents : Contents) : List (DiskOp WorkspacePath Contents) :=
  atomicWrite (tempName path) path (.torn "Unterminated string") contents

/-- The three replacements of a preparation, one after the other. -/
def writeWorkspace (preparation : Preparation) : List (DiskOp WorkspacePath Contents) :=
  atomicWriteText workspaceFile (.portable (portableWorkspace preparation.manifest)) ++
    (atomicWriteText filesManifest (.files preparation.manifest.files) ++
      atomicWriteText localFile (.localSource (localSource preparation)))

def loadJson (disk : WorkspaceDisk) (path : WorkspacePath) : Except WorkspaceFailure Contents :=
  let name := path.getLastD ""
  match disk path with
  | none => .error (.workspaceError s!"Workspace metadata is missing: {name}")
  | some (.torn reason) => .error (.workspaceError s!"Workspace metadata is invalid: {name}: {reason}")
  | some contents => .ok contents

def loadGameWorkspace (disk : WorkspaceDisk) : Except WorkspaceFailure GameWorkspaceManifest := do
  let portable ← loadJson disk workspaceFile
  let files ← loadJson disk filesManifest
  match portable, files with
  | .portable portable, .files records => do
    raiseIf (portable.schemaVersion ≠ workspaceSchemaVersion)
      (.workspaceError s!"Unsupported workspace schema version {portable.schemaVersion}; expected {workspaceSchemaVersion}")
    raiseIf (sourceIdentity tools records ≠ portable.sourceIdentity)
      (.workspaceError "Workspace file manifest does not match its source identity")
    return ⟨workspaceSchemaVersion, portable.toolkitVersion, portable.sourceKind, portable.sourceName,
      portable.sourceIdentity, records⟩
  | _, _ => .error (.workspaceError "Workspace metadata has an invalid schema")

/-- The source path and the recorded snapshot. The source itself has to be there still. -/
def loadLocalSource (host : String → Option HostSource) (disk : WorkspaceDisk) (manifest : GameWorkspaceManifest) :
    Except WorkspaceFailure (HostSource × String × Snapshot) := do
  match ← loadJson disk localFile with
  | .localSource source => do
    raiseIf (source.schemaVersion ≠ workspaceSchemaVersion)
      (.workspaceError "Workspace local source metadata has an invalid schema")
    raiseIf (source.sourceKind ≠ manifest.sourceKind)
      (.workspaceError "Workspace local source kind does not match portable metadata")
    raiseIf (source.sourcePath = "") (.workspaceError "Workspace local source path is missing")
    match host source.sourcePath with
    | none => .error (.workspaceError s!"Workspace source is no longer available: {source.sourcePath}")
    | some found => return (found, source.sourcePath, source.snapshot)
  | _ => .error (.workspaceError "Workspace local source metadata has an invalid schema")

/-- The entries of a source path. A file has none. -/
def HostSource.entries : HostSource → List HostFile
  | .directory _ entries => entries
  | .file _ _ => []

def validateSnapshot (source : HostSource) (sourceKind : String) (snapshot : Snapshot) : Except WorkspaceFailure Unit :=
  let changed := WorkspaceFailure.workspaceError "Workspace source changed; run prepare-game again before analysis"
  if sourceKind = "directory" then
    match snapshot with
    | .disc _ => .error (.workspaceError "Workspace local directory snapshot is invalid")
    | .directory entries => do
      let walked ← walkSource tools source.entries
      raiseIf (walked.map snapshotEntry ≠ entries) changed
  else
    match snapshot with
    | .directory _ => .error (.workspaceError "Workspace local disc snapshot is invalid")
    | .disc stat => raiseIf (source.stat ≠ stat) changed

/-- The checks at the start of an analysis: what the workspace describes, and the source it leads to. -/
def openWorkspace (host : String → Option HostSource) (disk : WorkspaceDisk) :
    Except WorkspaceFailure (GameWorkspaceManifest × HostSource) := do
  let manifest ← loadGameWorkspace tools disk
  let (source, _, snapshot) ← loadLocalSource host disk manifest
  validateSnapshot tools source manifest.sourceKind snapshot
  return (manifest, source)

end Source

end PspDisasm
