import PspDisasm.Disc.ParamSfo
import PspDisasm.GameTree
import PspDisasm.Recovery
import PspDisasm.PosixPaths
import PspDisasm.PythonValues

namespace PspDisasm
open Foundations

namespace Backends

/-- Why the host does not hand out a file: an `OSError`, of which `FileNotFoundError` is told apart. -/
structure HostError where
  missing : Bool
  text : String

/-- What the host and the standard library answer. An absolute path is given by its parts, a path of the command line by
its text. The answers do not change between two questions. -/
structure Host where
  resolve : String → WorkspacePath
  isSymlink : WorkspacePath → Bool
  isFile : WorkspacePath → Bool
  size : WorkspacePath → Except String Nat
  read : WorkspacePath → Except String Bytes
  readManifest : String → Except HostError Bytes
  loads : String → Except String Json
  lower : String → String
  strip : String → String
  values : ValueTexts

def absoluteText (path : WorkspacePath) : String := "/" ++ "/".intercalate path

/-- An exception of a class, without a provenance. -/
def raising (kind : RecoveryErrorClass) (message : String) : RaisedException := kind.raised message none

/-- An exception of another class, which nothing here catches. -/
def foreign (message : String) : RaisedException := ⟨[], message, none, by simp⟩

structure PrebuiltEntry where
  originalSha256 : String
  recoveredSha256 : String
  path : WorkspacePath

section Manifest
variable (host : Host) (manifestPath : String)

def safeManifestTarget (root : WorkspacePath) (relative : String) : Except RaisedException WorkspacePath := do
  let parts := posixParts (slashed relative)
  let refusal := raising .backendUnavailable s!"unsafe prebuilt-dump manifest path: {relative}"
  raiseIf (relative = "" ∨ (slashed relative).toList.head? = some '/' ∨ ".." ∈ parts) refusal
  let rootResolved := host.resolve (absoluteText root)
  let literalTarget := rootResolved ++ parts
  raiseIf (host.isSymlink literalTarget)
    (raising .backendUnavailable s!"prebuilt-dump manifest path must not be a symlink: {relative}")
  let target := host.resolve (absoluteText literalTarget)
  raiseIf (¬rootResolved <+: target) refusal
  return target

def manifestText (index : Nat) (fields : Fields) (key : String) : Except RaisedException String :=
  match fields.get? key with
  | some value => .ok (host.values.toText value)
  | none => .error (raising .backendUnavailable s!"prebuilt-dump manifest entry {index} is missing '{key}': {manifestPath}")

/-- One round of the loop over the entries. -/
def addManifestEntry (root : WorkspacePath) (entries : Dict String PrebuiltEntry) (item : Json × Nat) :
    Except RaisedException (Dict String PrebuiltEntry) := do
  let index := item.2
  match item.1 with
  | .obj fields =>
    let originalSha256 := host.lower (← manifestText host manifestPath index fields "original_sha256")
    let recoveredSha256 := host.lower (← manifestText host manifestPath index fields "recovered_sha256")
    let relativePath ← manifestText host manifestPath index fields "path"
    let resolved ← safeManifestTarget host root relativePath
    raiseIf (originalSha256 ∈ entries.keys)
      (raising .backendUnavailable s!"prebuilt-dump manifest has a duplicate original_sha256: {originalSha256}")
    return entries.set originalSha256 ⟨originalSha256, recoveredSha256, resolved⟩
  | _ => .error (raising .backendUnavailable s!"prebuilt-dump manifest entry {index} must be a JSON object: {manifestPath}")

/-- The bytes of the manifest, or what is raised in their place. -/
def manifestBytes : Except RaisedException Bytes :=
  (host.readManifest manifestPath).mapError fun refused =>
    if refused.missing then raising .backendUnavailable s!"prebuilt-dump manifest does not exist: {manifestPath}"
    else raising .backendUnavailable s!"prebuilt-dump manifest is not valid JSON: {manifestPath}: {refused.text}"

def manifestPayload (raw : Bytes) : Except RaisedException Json :=
  match decodeUtf8Strict raw with
  | none => .error (foreign "'utf-8' codec can't decode the manifest")
  | some text => (host.loads text).mapError fun refused =>
    raising .backendUnavailable s!"prebuilt-dump manifest is not valid JSON: {manifestPath}: {refused}"

def loadPrebuiltManifest : Except RaisedException (Dict String PrebuiltEntry) := do
  let payload ← manifestPayload host manifestPath (← manifestBytes host manifestPath)
  match payload with
  | .arr items => items.zipIdx.foldlM (addManifestEntry host manifestPath (host.resolve manifestPath).dropLast) []
  | _ => .error (raising .backendUnavailable s!"prebuilt-dump manifest must be a JSON list of objects: {manifestPath}")

/-- `_read_bounded_file`. -/
def readBoundedFile (path : WorkspacePath) (maxBytes : Int) (label : String) : Except RaisedException Bytes := do
  let size ← (host.size path).mapError fun refused => raising .recovery s!"unable to stat {label}: {absoluteText path}: {refused}"
  raiseIf (maxBytes < size) (raising .outputTooLarge (s!"{label} exceeds the maximum recovered-output size " ++
    s!"({size} > {maxBytes} bytes): {absoluteText path}"))
  (host.read path).mapError fun refused => raising .recovery s!"unable to read {label}: {absoluteText path}: {refused}"

variable (tools : RecoveryTools) (maxOutputBytes : Int)

/-- `PrebuiltDumpBackend.recover`. -/
def handOver (entries : Dict String PrebuiltEntry) (data : Bytes) : Except RaisedException RecoveredPayload := do
  let originalSha256 := tools.sha256 data
  match entries.get? originalSha256 with
  | none => .error (raising .recovery s!"prebuilt-dump manifest has no entry for original_sha256={originalSha256}")
  | some entry =>
    let path := absoluteText entry.path
    raiseIf (host.isSymlink entry.path) (raising .recovery s!"prebuilt-dump recovered file must not be a symlink: {path}")
    raiseIf (host.isFile entry.path = false) (raising .recovery s!"prebuilt-dump recovered file does not exist: {path}")
    let recovered ← readBoundedFile host entry.path maxOutputBytes "prebuilt-dump recovered file"
    raiseIf (tools.sha256 recovered ≠ entry.recoveredSha256)
      (raising .verification (s!"prebuilt-dump recovered file {path} does not match the manifest " ++ "recovered_sha256"))
    return { data := recovered }

/-- `PrebuiltDumpBackend`. -/
def prebuiltDumpBackend : Except RaisedException RecoveryBackend := do
  let entries ← loadPrebuiltManifest host manifestPath
  let raw ← (host.readManifest manifestPath).mapError fun refused => foreign refused.text
  return {
    name := s!"prebuilt-dump:{manifestPath}:" ++ String.ofList ((tools.sha256 raw).toList.take 12)
    probe := fun _ data => .ok (if tools.sha256 data ∈ entries.keys then ⟨some 1, "1.0"⟩ else ⟨some 0, "0.0"⟩)
    recover := handOver host tools maxOutputBytes entries }

end Manifest

/-- How a run of an external tool ends. Of the output only what `_read_bounded_file` makes of it counts, and whether it
is a file. -/
inductive ToolRun
  | notExecuted (text : String)
  | timedOut
  | completed (returncode : Int) (stdout stderr : Bytes) (output : Option (Except String Nat × Except String Bytes))

/-- A user-supplied tool: its command, what it answers to an input, and the version that its project declares. -/
structure ExternalTool where
  command : List String
  name : Option String
  version : Option String
  timeoutText : String
  run : Bytes → ToolRun

def maxDiagnosticChars : Nat := 2000

section External
variable (host : Host) (tools : RecoveryTools) (maxOutputBytes : Int) (tool : ExternalTool)

def boundedDiagnostic (raw : Bytes) : String :=
  let text := host.strip (decodeUtf8 raw)
  if maxDiagnosticChars < text.length then String.ofList (text.toList.take maxDiagnosticChars) ++ "..." else text

def ExternalTool.subject : String := tools.reprText (tool.command.headD "")

/-- `ExternalDecryptorBackend.recover`. The name of the temporary directory stands open. -/
def runTool (outputPath : String) (data : Bytes) : Except RaisedException RecoveredPayload :=
  let subject := tool.subject tools
  match tool.run data with
  | .notExecuted text => .error (raising .backendUnavailable s!"unable to execute recovery backend {subject}: {text}")
  | .timedOut => .error (raising .recovery s!"recovery backend {subject} timed out after {tool.timeoutText}s")
  | .completed returncode stdout stderr output =>
    if returncode ≠ 0 then
      let detail := boundedDiagnostic host (if stderr = [] then stdout else stderr)
      let suffix := if detail = "" then "" else s!": {detail}"
      .error (raising .recovery s!"recovery backend {subject} exited with code {returncode}{suffix}")
    else
      match output with
      | none => .error (raising .recovery s!"recovery backend {subject} did not produce the expected output file")
      | some (size, contents) => do
        let written : Host := { host with size := fun _ => size, read := fun _ => contents }
        let recovered ← readBoundedFile written (posixParts outputPath) maxOutputBytes "recovery backend output"
        let text := boundedDiagnostic host stderr
        return { data := recovered, backendVersion := tool.version
                 diagnostics := if text = "" then [] else [s!"recovery backend wrote diagnostics to stderr: {text}"] }

/-- `ExternalDecryptorBackend`, with a command that has been resolved. -/
def externalDecryptorBackend (outputPath : String) : RecoveryBackend where
  name := match tool.name with
    | some name => if name = "" then "external:" ++ " ".intercalate tool.command else name
    | none => "external:" ++ " ".intercalate tool.command
  probe := fun _ _ => .ok ⟨some 1, "1.0"⟩
  recover := runTool host tools maxOutputBytes tool outputPath

/-- `_build_recovery_backends` of the command line. -/
def buildRecoveryBackends (outputPath : String) (externals : List ExternalTool) (manifests : List String) :
    Except RaisedException (List RecoveryBackend) := do
  let prebuilt ← manifests.mapM fun manifest => prebuiltDumpBackend host manifest tools maxOutputBytes
  return externals.map (fun tool => externalDecryptorBackend host tools maxOutputBytes tool outputPath) ++ prebuilt

end External

end Backends

end PspDisasm
