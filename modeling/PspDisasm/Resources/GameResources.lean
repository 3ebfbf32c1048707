import PspDisasm.GameTree
import PspDisasm.Linker.NidFiles
import PspDisasm.Resources.ContainerSelection
import PspDisasm.Resources.ResourceExtraction

namespace PspDisasm
open Foundations

def maxContainerEntries : Nat := 4096
def copyChunkBytes : Nat := 1024 * 1024
def prefixFingerprintBytes : Nat := 16
def familyPrefixBytes : Nat := 4

structure DiscResourceRecord where
  path : String
  size : Nat
  outputPath : String
deriving DecidableEq

structure GameResourceRecord where
  path : String
  extractedPath : String
  size : Nat
  detected : FileFields
  embeddedCount : Nat
  containerFamily : Option String
  containerParser : Option String
  containerEntryCount : Nat
  warnings : List String
deriving DecidableEq

structure EmbeddedGameResourceRecord where
  parentPath : String
  fileOffset : Nat
  format : String
  kind : String
  size : Option Nat
  confidence : Rat
  evidence : List String
  extractedPath : Option String
  suggestedExtension : Option String
  metadata : List (String × MetadataValue)
deriving DecidableEq

structure ContainerCandidateProfile where
  path : String
  size : Nat
  suffix : String
  prefixHex : String
  prefixAscii : String
  embeddedCount : Nat
  boundedEmbeddedBytes : Nat
  familyKey : String
deriving DecidableEq

structure ContainerFamily where
  familyKey : String
  suffix : String
  prefixHex : String
  memberPaths : List String
  memberCount : Nat
  totalSize : Nat
deriving DecidableEq

structure ContainerInspectionRecord where
  parentPath : String
  parserName : String
  formatName : String
  confidence : Rat
  entryCount : Nat
  warnings : List String
deriving DecidableEq

structure ContainerEntryRecord where
  parentPath : String
  parserName : String
  innerPath : String
  offset : Int
  size : Int
  extractedPath : String
  detected : FileFields
deriving DecidableEq

structure GameResourceAnalysis where
  sourceName : String
  resources : List GameResourceRecord
  embeddedResources : List EmbeddedGameResourceRecord
  containerCandidates : List ContainerCandidateProfile
  containerFamilies : List ContainerFamily
  containerInspections : List ContainerInspectionRecord
  containerEntries : List ContainerEntryRecord
  warnings : List String

/-- The standard library and the host. `parents` is what the host says to `mkdir` of the directories above a path,
`readable` and `writable` what it says to opening a file. -/
structure ResourceTools where
  casefold : String → String
  lower : String → String
  parents : OutputFiles → WorkspacePath → Except String Unit
  readable : OutputFiles → WorkspacePath → Except String Unit
  writable : OutputFiles → WorkspacePath → Except String Unit

section Targets

/-- `_safe_relative_target`. -/
def safeResourceTarget (root : WorkspacePath) (relative : String) : Except GameFailure WorkspacePath := do
  raiseIf (unsafeRelative relative) (.value s!"Unsafe game resource path: {relative}")
  return root ++ posixParts relative

def safeContainerEntryTarget (root : WorkspacePath) (relative : String) : Except GameFailure WorkspacePath := do
  raiseIf (relative = "" ∨ unsafeRelative relative) (.value s!"Unsafe container entry path: {relative}")
  return root ++ posixParts relative

def embeddedRoot : WorkspacePath := ["resources", "embedded"]
def containersRoot : WorkspacePath := ["resources", "containers"]

def embeddedName (found : ResourceFormatMatch) : String :=
  let extension := (found.suggestedExtension.filter (· ≠ "")).getD found.format
  hexPadded 8 found.offset ++ "_" ++ found.format ++ "." ++ extension

def embeddedDestination (found : ResourceFormatMatch) (parentPath : String) : Except GameFailure WorkspacePath :=
  safeResourceTarget embeddedRoot (parentPath ++ "/" ++ embeddedName found)

def containerDestination (parentPath innerPath : String) : Except GameFailure WorkspacePath := do
  let parentRoot ← safeResourceTarget containersRoot parentPath
  safeContainerEntryTarget parentRoot innerPath

def relativeDisplay (path : WorkspacePath) : String := "/".intercalate path

end Targets

section Host
variable (tools : ResourceTools) (files : OutputFiles)

def readOutput (path : WorkspacePath) : Except String Bytes := do
  tools.readable files path
  match files.get? path with
  | some data => return data
  | none =>
    let name := relativeDisplay path
    .error s!"[Errno 2] No such file or directory: '{name}'"

def writeOutput (path : WorkspacePath) (data : Bytes) : OutputFiles × Except String Unit :=
  match tools.parents files path >>= fun _ => tools.writable files path with
  | .error text => (files, .error text)
  | .ok () => (files.set path data, .ok ())

/-- The loop of `_copy_entry_range`: what it writes, and whether it comes to the end of the range. -/
def copyChunks (source : Bytes) (position remaining : Nat) (written : Bytes) : Bytes × Bool :=
  if remaining = 0 then (written, true)
  else
    let chunk := slice source position (min remaining copyChunkBytes)
    if _ended : chunk = [] then (written, false)
    else copyChunks source (position + chunk.length) (remaining - chunk.length) (written ++ chunk)
termination_by remaining
decreasing_by
  have some : 0 < (slice source position (min remaining copyChunkBytes)).length := List.length_pos_iff.mpr _ended
  omega

/-- Opening the destination empties it before the source is read. -/
def copyEntryRange (source destination : WorkspacePath) (offset size : Nat) : OutputFiles × Except String Unit :=
  match (do tools.parents files destination; let _ ← readOutput tools files source; tools.writable files destination) with
  | .error text => (files, .error text)
  | .ok () =>
    let opened := files.set destination []
    let (written, complete) := copyChunks ((opened.get? source).getD []) offset size []
    let range := "0x" ++ hex offset ++ "+0x" ++ hex size
    (opened.set destination written,
      if complete then .ok () else .error s!"Unexpected end of container while extracting range {range}")

/-- `_write_embedded`. -/
def writeEmbedded (parentPath : String) (data : Bytes) (found : ResourceFormatMatch) :
    Except GameFailure (OutputFiles × Except String (Option String)) :=
  match embeddedContents data found with
  | none => return (files, .ok none)
  | some contents => do
    let destination ← embeddedDestination found parentPath
    let (files, written) := writeOutput tools files destination contents
    return (files, written.map fun _ => some (relativeDisplay destination))

end Host

def sortedWarnings (warnings : List String) : List String := warnings.dedup.insertionSort (· ≤ ·)

section Reading
variable (tools : ResourceTools)

/-- What is known of a resource once its file has been read, or could not be. -/
structure ResourceReading where
  data : Option Bytes
  probePrefix : Bytes
  looseMatch : Option ResourceFormatMatch
  matches_ : List ResourceFormatMatch
  warnings : List String

def detectFirst (data : Bytes) : Option ResourceFormatMatch := if data = [] then none else detectResourceAt data 0

def readResource (files : OutputFiles) (record : DiscResourceRecord) (path : WorkspacePath) : ResourceReading :=
  match readOutput tools files path with
  | .error text => ⟨none, [], none, [], [s!"Unable to read resource {record.path}: {text}"]⟩
  | .ok data =>
    if record.size ≤ maxEmbeddedScanBytes then
      let found := if data = [] then [] else scanResourceBytes data (9 / 10)
      ⟨some data, data.take maxLooseProbeBytes, detectFirst data, found, []⟩
    else
      let probePrefix := data.take (min record.size maxLooseProbeBytes)
      let warning := s!"Embedded scanning skipped for {record.path}: file size {record.size} " ++
        s!"exceeds {maxEmbeddedScanBytes} byte safety ceiling"
      ⟨none, probePrefix, detectFirst probePrefix, [], [warning]⟩

/-- What the embedded records of a file are sorted by. -/
def EmbeddedGameResourceRecord.place (record : EmbeddedGameResourceRecord) : Nat ×ₗ String := toLex (record.fileOffset, record.format)

structure EmbeddedRun where
  files : OutputFiles
  records : List EmbeddedGameResourceRecord
  warnings : List String

def embeddedRecord (parentPath : String) (found : ResourceFormatMatch) (extractedPath : Option String) :
    EmbeddedGameResourceRecord :=
  ⟨parentPath, found.offset, found.format, found.kind, found.size, found.confidence, found.evidence, extractedPath,
    found.suggestedExtension, found.metadata⟩

/-- A turn of the loop over the matches in a file. -/
def takeMatch (record : DiscResourceRecord) (data : Bytes) (loose : Option ResourceFormatMatch) (run : EmbeddedRun)
    (found : ResourceFormatMatch) : Except GameFailure EmbeddedRun :=
  -- A recognized loose file is not also an embedded copy of itself.
  if found.offset = 0 ∧ loose.map (·.format) = some found.format then return run
  else do
    let (files, written) ← writeEmbedded tools run.files record.path data found
    match written with
    | .ok extractedPath => return ⟨files, run.records ++ [embeddedRecord record.path found extractedPath], run.warnings⟩
    | .error text =>
      let place := "0x" ++ hex found.offset
      let warning := s!"Unable to extract embedded {found.format} at {place} from {record.path}: {text}"
      return ⟨files, run.records ++ [embeddedRecord record.path found none], run.warnings ++ [warning]⟩

def extractEmbedded (files : OutputFiles) (record : DiscResourceRecord) (reading : ResourceReading) :
    Except GameFailure EmbeddedRun := do
  let run ← match reading.data with
    | none => .ok ⟨files, [], []⟩
    | some data => reading.matches_.foldlM (takeMatch tools record data reading.looseMatch) ⟨files, [], []⟩
  return { run with records := run.records.insertionSort fun item other => item.place ≤ other.place }

end Reading

section Profiles
variable (tools : ResourceTools)

/-- `bytes.hex`. -/
def hexText (data : Bytes) : String :=
  String.ofList (data.flatMap fun byte => [Nat.digitChar (byte.toNat / 16), Nat.digitChar (byte.toNat % 16)])

def asciiView (data : Bytes) : String :=
  String.ofList (data.map fun byte => if 0x20 ≤ byte ∧ byte ≤ 0x7E then Char.ofNat byte.toNat else '.')

/-- `_family_key`: the key and the suffix. -/
def familyKey (path : String) (probePrefix : Bytes) : String × String :=
  let suffix := tools.lower (Linker.pathSuffix path)
  let familyPrefix := hexText (probePrefix.take familyPrefixBytes)
  ((if suffix = "" then "<none>" else suffix) ++ ":" ++ familyPrefix, suffix)

def profileContainerCandidate (data : Bytes) (path : String) (embeddedCount boundedEmbeddedBytes : Nat) :
    ContainerCandidateProfile :=
  let probePrefix := data.take prefixFingerprintBytes
  let (key, suffix) := familyKey tools path probePrefix
  ⟨path, data.length, suffix, hexText probePrefix, asciiView probePrefix, embeddedCount, boundedEmbeddedBytes, key⟩

def groupedProfiles (profiles : List ContainerCandidateProfile) : Dict String (List ContainerCandidateProfile) :=
  profiles.foldl (fun grouped profile =>
    grouped.set profile.familyKey ((grouped.get? profile.familyKey).getD [] ++ [profile])) []

def containerFamily (key : String) (group : List ContainerCandidateProfile) : ContainerFamily :=
  let members := group.insertionSort fun item other => tools.casefold item.path ≤ tools.casefold other.path
  let first := members.head?
  ⟨key, (first.map (·.suffix)).getD "", String.ofList (((first.map (·.prefixHex)).getD "").toList.take (familyPrefixBytes * 2)),
    members.map (·.path), members.length, (members.map (·.size)).sum⟩

def groupContainerFamilies (profiles : List ContainerCandidateProfile) : List ContainerFamily :=
  let grouped := groupedProfiles profiles
  (grouped.keys.insertionSort fun key other => tools.casefold key ≤ tools.casefold other).map fun key =>
    containerFamily tools key ((grouped.get? key).getD [])

end Profiles

section Containers
variable (tools : ResourceTools)

structure EntryRun where
  files : OutputFiles
  records : List ContainerEntryRecord
  warnings : List String
  extractedBytes : Int

def EntryRun.warn (run : EntryRun) (warning : String) : EntryRun := { run with warnings := run.warnings ++ [warning] }

/-- `dict.update`. -/
def updated (metadata : Dict String MetadataValue) (others : List (String × MetadataValue)) : Dict String MetadataValue :=
  others.foldl (fun metadata item => metadata.set item.1 item.2) metadata

def entryRecord (parentPath parserName : String) (entry : ContainerEntry) (destination : WorkspacePath) (detected : FileFields) :
    ContainerEntryRecord :=
  ⟨parentPath, parserName, entry.path, entry.offset, entry.size, relativeDisplay destination,
    { detected with metadata := updated entry.metadata detected.metadata }⟩

/-- A copy and what the copy is classified as. -/
def extractEntry (files : OutputFiles) (source destination : WorkspacePath) (entry : ContainerEntry) :
    OutputFiles × Except String FileFields :=
  let (files, copied) := copyEntryRange tools files source destination entry.offset.toNat entry.size.toNat
  (files, do
    copied
    let contents ← readOutput tools files destination
    return classifyExtractedEntry contents entry.size.toNat)

/-- A turn of the loop over the entries of a container. -/
def takeEntry (parserName : String) (record : DiscResourceRecord) (source : WorkspacePath) (run : EntryRun)
    (entry : ContainerEntry) : Except GameFailure EntryRun := do
  let destination ← containerDestination record.path entry.path
  if entry.offset < 0 ∨ entry.size ≤ 0 ∨ record.size < entry.offset + entry.size then
    return run.warn (s!"Container entry {entry.path} from {record.path} is out of bounds: " ++
      s!"offset={entry.offset}, size={entry.size}, parent_size={record.size}")
  else if record.size < run.extractedBytes + entry.size then
    return run.warn (s!"Container entry {entry.path} from {record.path} exceeds the " ++
      s!"per-container extraction budget of {record.size} bytes")
  else
    let (files, extracted) := extractEntry tools run.files source destination entry
    match extracted with
    | .error text =>
      return { run with files }.warn s!"Unable to extract container entry {entry.path} from {record.path}: {text}"
    | .ok detected =>
      return { run with
        files, records := run.records ++ [entryRecord record.path parserName entry destination detected]
        extractedBytes := run.extractedBytes + entry.size }

/-- What a selected parser leads to: the inspection and the extracted entries, or a warning. -/
structure ContainerRun where
  files : OutputFiles
  inspection : Option ContainerInspectionRecord
  entries : List ContainerEntryRecord
  warnings : List String

def inspectContainer (files : OutputFiles) (record : DiscResourceRecord) (source : WorkspacePath)
    (parser : ResourceContainerParser) (confidence : Rat) : Except GameFailure ContainerRun :=
  let name := parser.name
  match parser.inspect files source with
  | .error text => return ⟨files, none, [], [s!"Container parser {name} inspect failed for {record.path}: {text}"]⟩
  | .ok inspection => do
    let count := inspection.entries.length
    let excess := if maxContainerEntries < count then
      [s!"Container parser {name} returned {count} entries for " ++
        s!"{record.path}; only the first {maxContainerEntries} are accepted"] else []
    let run ← (inspection.entries.take maxContainerEntries).foldlM (takeEntry tools name record source) ⟨files, [], excess, 0⟩
    let inspected : ContainerInspectionRecord :=
      ⟨record.path, name, inspection.formatName, confidence, run.records.length, sortedWarnings (inspection.warnings ++ run.warnings)⟩
    return ⟨run.files, some inspected, run.records, run.warnings⟩

def parseContainer (parsers : List ResourceContainerParser) (files : OutputFiles) (record : DiscResourceRecord)
    (source : WorkspacePath) (probePrefix : Bytes) : Except GameFailure ContainerRun :=
  if parsers = [] ∨ probePrefix = [] then return ⟨files, none, [], []⟩
  else
    match selectContainerParser tools.casefold probePrefix record.path defaultParserThreshold parsers with
    | (none, warnings) => return ⟨files, none, [], warnings⟩
    | (some (parser, confidence), warnings) => do
      let run ← inspectContainer tools files record source parser confidence
      return { run with warnings := warnings ++ run.warnings }

end Containers

section Analysis
variable (tools : ResourceTools) (parsers : List ResourceContainerParser)

structure ResourceRun where
  files : OutputFiles
  resources : List GameResourceRecord
  embedded : List EmbeddedGameResourceRecord
  candidates : List ContainerCandidateProfile
  inspections : List ContainerInspectionRecord
  entries : List ContainerEntryRecord
  warnings : List String

def ResourceRun.start (files : OutputFiles) : ResourceRun := ⟨files, [], [], [], [], [], []⟩

def boundedEmbeddedBytes (records : List EmbeddedGameResourceRecord) : Nat := (records.map fun record => record.size.getD 0).sum

/-- The profile of a file that is read once more, or a warning. -/
def profileResource (files : OutputFiles) (record : DiscResourceRecord) (path : WorkspacePath)
    (embedded : List EmbeddedGameResourceRecord) : Option ContainerCandidateProfile × List String :=
  match readOutput tools files path with
  | .error text => (none, [s!"Unable to profile container candidate {record.path}: {text}"])
  | .ok data => (some (profileContainerCandidate tools data record.path embedded.length (boundedEmbeddedBytes embedded)), [])

/-- The part of a turn that an unknown file takes: its profile and what a parser finds in it. -/
def examineCandidate (files : OutputFiles) (record : DiscResourceRecord) (path : WorkspacePath) (reading : ResourceReading)
    (embedded : List EmbeddedGameResourceRecord) : Except GameFailure (Option ContainerCandidateProfile × ContainerRun) :=
  if (knownFileFields reading.looseMatch).format ≠ "unknown" then return (none, ⟨files, none, [], []⟩)
  else do
    let (profile, profiling) := profileResource tools files record path embedded
    let run ← parseContainer tools parsers files record path reading.probePrefix
    return (profile, { run with warnings := profiling ++ run.warnings })

/-- What one turn of the loop over the resources adds to the lists. -/
structure ResourceReport where
  record : GameResourceRecord
  embedded : List EmbeddedGameResourceRecord
  candidate : Option ContainerCandidateProfile
  inspection : Option ContainerInspectionRecord
  entries : List ContainerEntryRecord
  warnings : List String

def reportResource (files : OutputFiles) (record : DiscResourceRecord) (path : WorkspacePath) :
    Except GameFailure (OutputFiles × ResourceReport) := do
  let reading := readResource tools files record path
  let embedded ← extractEmbedded tools files record reading
  let (profile, container) ← examineCandidate tools parsers embedded.files record path reading embedded.records
  let warnings := reading.warnings ++ embedded.warnings ++ container.warnings
  return (container.files, {
    record := {
      path := record.path, extractedPath := record.outputPath, size := record.size
      detected := knownFileFields reading.looseMatch
      embeddedCount := embedded.records.length, containerFamily := profile.map (·.familyKey)
      containerParser := container.inspection.map (·.parserName), containerEntryCount := container.entries.length
      warnings := sortedWarnings warnings }
    embedded := embedded.records, candidate := profile, inspection := container.inspection
    entries := container.entries, warnings })

def ResourceRun.add (run : ResourceRun) (files : OutputFiles) (report : ResourceReport) : ResourceRun where
  files := files
  resources := run.resources ++ [report.record]
  embedded := run.embedded ++ report.embedded
  candidates := run.candidates ++ report.candidate.toList
  inspections := run.inspections ++ report.inspection.toList
  entries := run.entries ++ report.entries
  warnings := run.warnings ++ report.warnings

/-- A turn of the loop over the resources. -/
def analyzeResource (run : ResourceRun) (resolved : DiscResourceRecord × WorkspacePath) : Except GameFailure ResourceRun := do
  let (files, report) ← reportResource tools parsers run.files resolved.1 resolved.2
  return run.add files report

def embeddedOrder (record : EmbeddedGameResourceRecord) : String ×ₗ Nat ×ₗ String :=
  toLex (tools.casefold record.parentPath, record.place)

def inspectionOrder (record : ContainerInspectionRecord) : String ×ₗ String :=
  toLex (tools.casefold record.parentPath, tools.casefold record.parserName)

def entryOrder (record : ContainerEntryRecord) : String ×ₗ String ×ₗ Int ×ₗ String :=
  toLex (tools.casefold record.parentPath, toLex (tools.casefold record.parserName,
    toLex (record.offset, tools.casefold record.innerPath)))

/-- `analyze_game_resources`, without the reports. -/
def analyzeGameResources (sourceName : String) (files : OutputFiles) (resources : List DiscResourceRecord) :
    Except GameFailure (GameResourceAnalysis × OutputFiles) := do
  let fold := tools.casefold
  let ordered := resources.insertionSort fun item other => fold item.path ≤ fold other.path
  let resolved ← ordered.mapM fun record => do
    let path ← safeResourceTarget [] record.outputPath
    return (record, path)
  let run ← resolved.foldlM (analyzeResource tools parsers) (.start files)
  let candidates := run.candidates.insertionSort fun item other => fold item.path ≤ fold other.path
  return ({
    sourceName
    resources := run.resources.insertionSort fun item other => fold item.path ≤ fold other.path
    embeddedResources := run.embedded.insertionSort fun item other => embeddedOrder tools item ≤ embeddedOrder tools other
    containerCandidates := candidates
    containerFamilies := groupContainerFamilies tools candidates
    containerInspections := run.inspections.insertionSort fun item other => inspectionOrder tools item ≤ inspectionOrder tools other
    containerEntries := run.entries.insertionSort fun item other => entryOrder tools item ≤ entryOrder tools other
    warnings := sortedWarnings run.warnings }, run.files)

end Analysis

end PspDisasm
