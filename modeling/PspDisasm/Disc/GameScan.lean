import PspDisasm.Disc.ParamSfo
import PspDisasm.GameProject
import PspDisasm.Workspace

namespace PspDisasm
open Foundations

structure DiscFileRecord where
  path : String
  size : Nat
  classification : String
  executableKind : String
deriving DecidableEq, Repr

structure GameDiscManifest where
  sourceName : String
  imageFormat : String
  title : Option String
  discId : Option String
  discVersion : Option String
  pspSystemVersion : Option String
  bootPath : String
  files : List DiscFileRecord
  modules : List GameModuleRecord
  warnings : List String
deriving DecidableEq, Repr

/-- A file of a source, as a scan lists it. Its content stands for what a later read of it gives. -/
structure IsoFile where
  physicalPath : String
  logicalPath : String
  size : Nat
  content : Bytes
deriving DecidableEq, Repr

def IsoFile.magic (item : IsoFile) : Bytes := item.content.take 4

/-- A file of a disc image, as the reader of the file system presents it. -/
structure DiscMember where
  physicalPath : String
  dataLength : Nat
  content : Bytes
deriving DecidableEq, Repr

def discParamSfo : String := "PSP_GAME/PARAM.SFO"
def discUmdData : String := "UMD_DATA.BIN"
def discEboot : String := "PSP_GAME/SYSDIR/EBOOT.BIN"
def discBoot : String := "PSP_GAME/SYSDIR/BOOT.BIN"
def metadataNames : List String :=
  [discParamSfo, discUmdData, "PSP_GAME/ICON0.PNG", "PSP_GAME/PIC0.PNG", "PSP_GAME/PIC1.PNG"]

/-- `_executable_kind` of the scan, which is the same as that of the workspace. -/
def discExecutableKind (magic : Bytes) : String := workspaceExecutableKind magic

section Scan
variable (tools : WorkspaceTools)

/-- The file of each folded path. The last one of a path counts. -/
def filesByPath (files : List IsoFile) : Dict String IsoFile :=
  files.foldl (fun byPath item => byPath.set (tools.casefold item.logicalPath) item) []

def chooseBoot (files : List IsoFile) : Option String :=
  [discEboot, discBoot].findSome? fun candidate =>
    ((filesByPath tools files).get? (tools.casefold candidate)).bind fun item =>
      if discExecutableKind item.magic ≠ "unknown" then some item.logicalPath else none

def discClassification (item : IsoFile) (bootPath : String) : String :=
  let folded := tools.casefold item.logicalPath
  if folded = tools.casefold bootPath then "boot"
  else if folded ∈ metadataNames.map tools.casefold ∨ "/param.sfo".toList.isSuffixOf folded.toList then "metadata"
  else if ".prx".toList.isSuffixOf folded.toList ∨ discExecutableKind item.magic ≠ "unknown" then "module"
  else "resource"

def stringValue : Option SfoValue → Option String
  | some (.text value) => some value
  | _ => none

/-- The values of PARAM.SFO, and the warning where they are missing. -/
def scanSfo (files : List IsoFile) : Except GameFailure (Dict String SfoValue × List String) :=
  match files.find? fun item => tools.casefold item.logicalPath = tools.casefold discParamSfo with
  | none => .ok ([], ["PSP_GAME/PARAM.SFO is missing"])
  | some item =>
    match parseParamSfo item.content with
    | .ok sfo => .ok (sfo, [])
    | .error (.parseError message) => .ok ([], [s!"PARAM.SFO could not be parsed: {message}"])
    | .error failure => .error (.front failure)

def discRecord (bootPath : String) (item : IsoFile) : DiscFileRecord :=
  ⟨item.logicalPath, item.size, discClassification tools item bootPath, discExecutableKind item.magic⟩

/-- The record of a module. With an output directory, the file is copied there and its path below it is noted. -/
def moduleRecord (output : Option (String → Except GameFailure String)) (record : DiscFileRecord) :
    Except GameFailure GameModuleRecord := do
  let outputPath ← match output with
    | none => .ok none
    | some copy => some <$> copy record.path
  return ⟨record.path, record.executableKind, outputPath, record.classification = "boot"⟩

/-- What `scan_game_disc` and `scan_game_directory` both make of the files that they have listed. -/
def scanFiles (sourceName imageFormat noBoot : String) (output : Option (String → Except GameFailure String))
    (files : List IsoFile) : Except GameFailure GameDiscManifest :=
  match chooseBoot tools files with
  | none => .error (.front (.parseError noBoot))
  | some bootPath => do
    let (sfo, warnings) ← scanSfo tools files
    let records := files.map (discRecord tools bootPath)
    let modules ← (records.filter fun record => record.classification ∈ ["boot", "module"]).mapM (moduleRecord output)
    let text (key : String) := stringValue (sfo.get? key)
    return {
      sourceName, imageFormat, title := text "TITLE", discId := text "DISC_ID", discVersion := text "DISC_VERSION",
      pspSystemVersion := text "PSP_SYSTEM_VER", bootPath, warnings
      files := records.insertionSort fun record other => tools.casefold record.path ≤ tools.casefold other.path
      modules := modules.insertionSort fun record other => tools.casefold record.path ≤ tools.casefold other.path }

end Scan

/-- The parts of a `PurePosixPath` below its root. -/
def posixParts (text : String) : List String :=
  ((text.toList.splitOn '/').map String.ofList).filter fun part => part ≠ "" ∧ part ≠ "."

section Directory
variable (tools : WorkspaceTools)

/-- `_safe_source_file` of a regular file of the walk, which has met no symbolic link: only its text can be unsafe. -/
def safeSourceFile (logical : String) : Except GameFailure Unit :=
  raiseIf (logical.toList.head? = some '/' ∨ ".." ∈ posixParts logical)
    (.front (.parseError s!"Unsafe extracted PSP path: {logical}"))

def listedFile (entry : HostFile) : IsoFile := ⟨entry.path, entry.path, entry.data.length, entry.data⟩

def listDirectory (entries : List HostFile) : Except GameFailure (List IsoFile) := do
  let ordered := entries.insertionSort fun entry other => tools.casefold entry.path ≤ tools.casefold other.path
  let checked ← ordered.mapM fun entry => do
    raiseIf (entry.symlink = true)
      (.front (.parseError s!"Symlink is not allowed in extracted PSP source: {entry.path}"))
    if entry.regular then
      safeSourceFile entry.path
      return some (listedFile entry)
    else return none
  return checked.filterMap id

def scanGameDirectory (sourceName : String) (output : Option (String → Except GameFailure String)) :
    HostSource → Except GameFailure GameDiscManifest
  | .file .. => .error (.front (.parseError s!"Extracted PSP source is not a regular directory: {sourceName}"))
  | .directory _ entries => do
    let files ← listDirectory tools entries
    raiseIf (files = []) (.front (.parseError "Extracted PSP source contains no files"))
    scanFiles tools sourceName "directory" "Extracted PSP source contains no usable EBOOT.BIN or BOOT.BIN executable"
      output files

end Directory

section Disc
variable (tools : WorkspaceTools) (isDigit : String → Bool)

/-- A part of an ISO path without its version, such as `;1`. `isDigit` is `str.isdigit`. -/
def stripVersion (part : String) : String :=
  let chars := part.toList
  let suffix := (chars.reverse.takeWhile (· ≠ ';')).reverse
  if ';' ∈ chars ∧ isDigit (String.ofList suffix) then String.ofList (chars.take (chars.length - suffix.length - 1))
  else part

def logicalPath (physicalPath : String) : String :=
  "/".intercalate ((posixParts physicalPath).map (stripVersion isDigit))

def walkFiles (members : List DiscMember) : List IsoFile :=
  let files := members.map fun member =>
    ⟨member.physicalPath, logicalPath isDigit member.physicalPath, member.dataLength, member.content⟩
  files.insertionSort fun item other => tools.casefold item.logicalPath ≤ tools.casefold other.logicalPath

/-- What a scan of an image raises: everything but the documented failures is one more `ParseError`. -/
def discFailure : GameFailure → WorkspaceFailure
  | .front (.parseError message) => .parseError message
  | .engineUnavailable message => .engineUnavailable message
  | failure => .parseError s!"Unable to read PSP ISO9660 filesystem: {failure.message}"

def scanGameDisc (sourceName imageFormat : String) (output : Option (String → Except GameFailure String))
    (members : List DiscMember) : Except WorkspaceFailure GameDiscManifest :=
  (scanFiles tools sourceName imageFormat "PSP disc contains no usable EBOOT.BIN or BOOT.BIN executable" output
    (walkFiles tools isDigit members)).mapError discFailure

def isoLogicalPath (physicalPath : String) : Except WorkspaceFailure String :=
  safeLogicalPath (logicalPath isDigit physicalPath)

/-- The record of each folded path in the manifest of a disc. The last one of a path counts. -/
def metadataByPath (manifest : GameDiscManifest) : Dict String DiscFileRecord :=
  manifest.files.foldl (fun byPath record => byPath.set (tools.casefold record.path) record) []

/-- `_disc_entries`, with the member beside each record. -/
def discDescriptions (sourceName imageFormat : String) (members : List DiscMember) :
    Except WorkspaceFailure (List (DiscMember × WorkspaceFileRecord)) := do
  let manifest ← scanGameDisc tools isDigit sourceName imageFormat none members
  let physical ← members.mapM fun member => do
    let logical ← isoLogicalPath isDigit member.physicalPath
    return (logical, member)
  let ordered := physical.insertionSort fun item other => tools.casefold item.1 ≤ tools.casefold other.1
  ordered.mapM fun (logical, member) =>
    match (metadataByPath tools manifest).get? (tools.casefold logical) with
    | none => .error (.workspaceError s!"Disc manifest lost source file during hashing: {logical}")
    | some found => .ok (member, {
        path := logical, size := found.size, sha256 := tools.sha256 member.content, sourceKind := manifest.imageFormat,
        classification := found.classification, executableKind := found.executableKind, analysisState := "pending",
        analysisVersion := analysisSchemaVersion })

/-- `_disc_entries` of an image whose format and members are known. -/
def discEntries (sourceName imageFormat : String) (members : List DiscMember) :
    Except WorkspaceFailure (List WorkspaceFileRecord) :=
  List.map Prod.snd <$> discDescriptions tools isDigit sourceName imageFormat members

end Disc

end PspDisasm
