import PspDisasm.Decompile.AttemptIdentity
import PspDisasm.GameTree

namespace PspDisasm
open Foundations

/-- The files of a project, by the texts of their paths. -/
abbrev ProjectDisk := String → Option ProjectFile

structure Completed where
  returncode : Int
  stdout : String
  stderr : String

/-- How a program ends that gives no return code. -/
inductive LaunchFailure
  | timeout
  | os (message : String)

/-- What a compiler leaves at the place of the object. -/
inductive ObjectLeft
  | untouched
  | removed
  | written (data : Bytes)

/-- The programs that are started, as functions of their arguments and of the files that they are given, and the parts
of the standard library around them: the answers to regular expressions, `str.strip`, the format `g`, arithmetic on
floats, and JSON texts. m2c is given its assembly in a temporary place, and asm-differ the objdump, the object and the
reference. -/
structure ToolSite where
  digests : OrchestratorTools
  readers : ReaderTools
  store : StoreTools
  host : Host
  projects : String → FunctionsFile
  references : Option (Except String Json)
  m2c : List String → String → Except String Completed
  compiler : List String → Bytes → Except LaunchFailure Completed × ObjectLeft
  asmDiffer : List String → String → Bytes → Bytes → Except LaunchFailure Completed
  unknownInstructions : String → List String
  strip : String → String
  split : String → List String
  formatGeneral : Rat → String
  similarity : Int → Int → Rat
  loads : String → Except String Json
  parentSibling : String → String → String
  dumps : Json → Bytes

/-- The options of a call, with an external compiler. -/
structure CallOptions where
  m2cPath : Option String
  contexts : List String
  target : String
  compiler : String
  flags : List String
  asmDifferPath : Option String
  objdumpPath : Option String
  maxAttempts : Int
  force : Bool
  timeout : Rat

def utf8 (text : String) : Bytes := text.toList.flatMap String.utf8EncodeChar

/-- `path.relative_to(project).as_posix()`, or else the text of the path. -/
def relativeOrString (project path : String) : String :=
  let root := (project ++ "/").toList
  if root <+: path.toList then String.ofList (path.toList.drop root.length) else path

section Stems

/-- `text.strip("._")`. -/
def stripEdges (text : List Char) : List Char :=
  let edge (c : Char) : Bool := c = '.' || c = '_'
  (text.dropWhile edge).rdropWhile edge

def plainFilenameChar (c : Char) : Bool := c.isAlphanum || c = '_' || c = '.' || c = '-'

/-- What stands for a function whose name leaves no stem. -/
def addressStem (address : Int) : String := s!"func_{addressDigits address}"

/-- `_SAFE_FILENAME_RE.sub("_", name)`: each run of other characters becomes one underscore. -/
def underscoreRuns : List Char → List Char
  | [] => []
  | c :: rest =>
    if plainFilenameChar c then c :: underscoreRuns rest
    else if (rest.head?.map plainFilenameChar) = some false then underscoreRuns rest else '_' :: underscoreRuns rest

/-- `_safe_stem` of the decompiler. -/
def ProjectFunction.safeStem (function : ProjectFunction) : String :=
  let stem := String.ofList (stripEdges (underscoreRuns function.name.toList))
  if stem = "" then addressStem function.address else stem

/-- `_safe_stem` of the matcher. -/
def MatchFunction.safeStem (function : MatchFunction) : String :=
  let cleaned := String.ofList (stripEdges (function.name.toList.map fun c => if plainFilenameChar c then c else '_'))
  if cleaned = "" then addressStem function.address else cleaned

end Stems

section Places

/-- Where the files of attempts lie below a project. -/
inductive ArtifactDirectory
  | candidates
  | assembly
  | decompilations
  | objects
  | references
  | reports
  | matching
deriving DecidableEq

def ArtifactDirectory.text : ArtifactDirectory → String
  | .candidates => "/src/nonmatching/"
  | .assembly => "/asm/nonmatchings/"
  | .decompilations => "/metadata/decompilations/"
  | .objects => "/build/nonmatching/"
  | .references => "/build/matching/reference/"
  | .reports => "/reports/matching/"
  | .matching => "/metadata/matching/"

def artifactPath (project : String) (directory : ArtifactDirectory) (name : String) : String :=
  project ++ (directory.text ++ name)

end Places

namespace ToolSite
variable (site : ToolSite) (options : CallOptions)

/-- The end of a program's output in a message. -/
def detail (limit : Nat) (text : String) : String :=
  let stripped := site.strip text
  if limit < stripped.length then String.ofList (stripped.toList.take limit) ++ "..." else stripped

/-- `: detail`, or nothing. -/
def failureSuffix (limit : Nat) (completed : Completed) : String :=
  let text := site.detail limit (if completed.stderr = "" then completed.stdout else completed.stderr)
  if text = "" then "" else s!": {text}"

section Decompile

/-- `_extract_unsupported_instructions`: the found instructions, each one once. -/
def unsupportedInstructions (source : String) : List String :=
  (site.unknownInstructions source).foldl (fun seen found =>
    let instruction := " ".intercalate (site.split found)
    if instruction ≠ "" ∧ instruction ∉ seen then seen ++ [instruction] else seen) []

def decompilationWarnings (completed : Completed) : List String :=
  let count := (site.unsupportedInstructions completed.stdout).length
  (if count = 0 then [] else [s!"m2c reported {count} unsupported PSP/Allegrex instruction(s); " ++
    "the generated C is an assisted draft and contains M2C_ERROR markers."]) ++
  (if site.strip completed.stderr = "" then []
    else ["m2c wrote diagnostic output to stderr; inspect metadata or rerun m2c directly if needed."])

/-- `_run_m2c`, without the place of the assembly. -/
def runM2c (command : List String) (function : ProjectFunction) (target : String) (contexts : List String) :
    Except String Completed :=
  site.m2c (command ++ ["-t", target, "--valid-syntax", "--deterministic-vars", "--no-cache", "--globals=used", "-f",
    function.name] ++ contexts.flatMap fun context => ["--context", context]) function.assembly

/-- The checks of `decompile_project_function` and the run of m2c. -/
def decompiledFunction (project selector : String) (projectFile : FunctionsFile) (variant : RetryVariant) :
    Except ToolFailure (ProjectFunction × List String × Completed) := do
  let function ← (resolveProjectFunction site.readers (functionsPath project) projectFile selector).mapError .failed
  let command ← (resolveM2cCommand site.host options.m2cPath).mapError fun _ => .unavailable
  let contexts := variant.contexts.map site.readers.resolve
  match contexts.find? fun context => !site.host.isFile context with
  | some context => .error (.failed s!"m2c context file does not exist: {context}")
  | none =>
    let completed ← (site.runM2c command function variant.target contexts).mapError fun _ => .unavailable
    raiseIf (completed.returncode ≠ 0)
      (.failed s!"m2c failed for {function.name} with exit code {completed.returncode}{site.failureSuffix 500 completed}")
    return (function, command, completed)

def decompilationMetadata (project : String) (function : ProjectFunction) (version : Option String) (variant : RetryVariant)
    (assemblyPath candidatePath : String) (completed : Completed) : Json := .obj [
  ("backend", .obj [("name", .str "m2c"), ("version", Json.ofOption .str version)]),
  ("target", .str variant.target),
  ("function", .obj [("name", .str function.name), ("address", .int function.address), ("size", .int function.size),
    ("section", .str function.sectionName), ("instruction_count", .int function.instructionCount)]),
  ("artifacts", .obj [("assembly", .str (relativeOrString project assemblyPath)),
    ("c", .str (relativeOrString project candidatePath))]),
  ("contexts", Json.ofTexts (variant.contexts.map fun context => relativeOrString project (site.readers.resolve context))),
  ("warnings", Json.ofTexts (site.decompilationWarnings completed)),
  ("unsupported_instructions", Json.ofTexts (site.unsupportedInstructions completed.stdout))]

/-- `decompile_project_function` with an output path, and what it leaves on the disk. -/
def decompileProjectFunction (project selector : String) (projectFile : FunctionsFile) (variant : RetryVariant)
    (outputPath : String) (disk : ProjectDisk) : Except ToolFailure DecompilationResult × ProjectDisk :=
  match site.decompiledFunction options project selector projectFile variant with
  | .error failure => (.error failure, disk)
  | .ok (function, command, completed) =>
    match probeM2cVersion site.host command with
    | .error failure => (.error (.raised failure), disk)
    | .ok version =>
      let assemblyPath := artifactPath project .assembly (function.safeStem ++ ".s")
      let metadataPath := artifactPath project .decompilations (function.safeStem ++ ".json")
      let metadata := site.decompilationMetadata project function version variant assemblyPath outputPath completed
      let disk := Function.update disk assemblyPath (some (.bytes (utf8 function.assembly)))
      let disk := Function.update disk outputPath (some (.bytes (utf8 completed.stdout)))
      let disk := Function.update disk metadataPath (some (.json metadata))
      (.ok ⟨outputPath, utf8 completed.stdout, site.decompilationWarnings completed⟩, disk)

end Decompile

section Compile

def ObjectLeft.apply (left : ObjectLeft) (path : String) (disk : ProjectDisk) : ProjectDisk :=
  match left with
  | .untouched => disk
  | .removed => Function.update disk path none
  | .written data => Function.update disk path (some (.bytes data))

/-- `compile_function` of an external compiler. -/
def compileFunction (source : String) (output : String) (disk : ProjectDisk) : Except ToolFailure BuildResult × ProjectDisk :=
  let arguments := options.compiler :: options.flags ++ ["-c", source, "-o", output]
  let (ending, left) := site.compiler arguments (((disk source).map (·.data site.dumps)).getD [])
  let disk := ObjectLeft.apply left output disk
  match ending with
  | .error .timeout => (.error (.failed s!"build compiler timed out after {site.formatGeneral options.timeout} seconds"), disk)
  | .error (.os _) => (.error .unavailable, disk)
  | .ok completed =>
    if completed.returncode ≠ 0 then
      (.error (.failed s!"build compiler exited with code {completed.returncode}{site.failureSuffix 500 completed}"), disk)
    else match disk output with
      | none => (.error (.failed s!"build compiler did not produce the expected output: {output}"), disk)
      | some object =>
        let diagnostic := if completed.stderr = "" then "" else site.detail 500 completed.stderr
        (.ok ⟨output, site.digests.sha256Bytes (object.data site.dumps), if diagnostic = "" then [] else [diagnostic]⟩, disk)

end Compile

section Match

/-- `_command_for_path` of the matcher. -/
def backendForPath (path label : String) : Except String (List String) :=
  match site.host.node path with
  | none => .error s!"{label} does not exist: {path}"
  | some .directory => .error s!"{label} path is a directory: {path}"
  | some _ =>
    let resolved := site.readers.resolve path
    .ok (if site.host.suffix path = ".py" then [site.host.executable, resolved] else [resolved])

def resolveAsmDifferCommand : Except String (List String) :=
  match options.asmDifferPath with
  | some path => site.backendForPath path "asm-differ backend"
  | none =>
    match (site.host.environ "PSPDISASM_ASM_DIFFER").getD "", (site.host.which "asm-differ").getD "" with
    | "", "" => .error ("asm-differ is required for matching. Pass --asm-differ PATH, set PSPDISASM_ASM_DIFFER, " ++
      "or install the asm-differ executable on PATH.")
    | "", executable => .ok [executable]
    | configured, _ => site.backendForPath configured "asm-differ backend"

/-- An objdump that is given by its path. -/
def objdumpAt (label path : String) : Except String String :=
  match site.host.node path with
  | none => .error s!"{label} does not exist: {path}"
  | some .directory => .error s!"{label} does not exist: {path}"
  | some _ => .ok (site.readers.resolve path)

def resolveObjdump : Except String String :=
  match options.objdumpPath with
  | some path => site.objdumpAt "objdump executable" path
  | none =>
    match (site.host.environ "PSPDISASM_OBJDUMP").getD "" with
    | "" =>
      match ["psp-objdump", "mipsel-linux-gnu-objdump", "objdump"].findSome? fun name =>
          (site.host.which name).filter (· ≠ "") with
      | some executable => .ok executable
      | none => .error ("A MIPS-capable objdump is required. Pass --objdump PATH, set PSPDISASM_OBJDUMP, " ++
        "or install psp-objdump/mipsel-linux-gnu-objdump on PATH.")
    | configured => site.objdumpAt "configured objdump executable" configured

def align (value alignment : Nat) : Nat := (value + alignment - 1) / alignment * alignment

/-- The number of each instruction that is not where the one before it ends, with the address expected there. -/
def misplacedInstruction (function : MatchFunction) : Option (Nat × Int × Int) :=
  function.instructions.zipIdx.findSome? fun item =>
    let expected := function.address + 4 * item.2
    if item.1.address ≠ expected then some (item.2, expected, item.1.address) else none

def elfWords (words : List Nat) : Bytes := words.flatMap (littleBytes 4)

def padTo (size : Nat) (data : Bytes) : Bytes := data ++ List.replicate (size - data.length) 0

/-- `build_reference_object`: an object with the words of the function and a symbol for it. -/
def buildReferenceObject (function : MatchFunction) : Except ToolFailure Bytes := do
  raiseIf (function.instructions = [])
    (.failed s!"Function {function.name} has no instruction words for reference-object generation.")
  match misplacedInstruction function with
  | some (index, expected, address) =>
    .error (.failed (s!"Function {function.name} instruction {index} is not contiguous: " ++
      s!"expected 0x{addressDigits expected}, got 0x{addressDigits address}."))
  | none =>
    let text := elfWords (function.instructions.map fun instruction => instruction.word.toNat)
    let symbolName := utf8 function.name
    raiseIf (0 ∈ symbolName) (.failed "Function names containing NUL cannot be emitted into an ELF string table.")
    let strtab := [0] ++ symbolName ++ [0]
    let shstrtab := utf8 "\x00.text\x00.symtab\x00.strtab\x00.shstrtab\x00"
    let symtab := List.replicate 16 0 ++ elfWords [1, 0, text.length] ++ [18, 0] ++ littleBytes 2 1
    let textOffset := align 52 4
    let symtabOffset := align (textOffset + text.length) 4
    let strtabOffset := symtabOffset + symtab.length
    let shstrtabOffset := strtabOffset + strtab.length
    let headersOffset := align (shstrtabOffset + shstrtab.length) 4
    let ident := [0x7F, 0x45, 0x4C, 0x46, 1, 1, 1] ++ List.replicate 9 0
    let header := ident ++ littleBytes 2 1 ++ littleBytes 2 8 ++ elfWords [1, 0, 0, headersOffset, 0] ++
      [52, 0, 0, 40, 5, 4].flatMap (littleBytes 2)
    let sections := List.replicate 40 0 ++
      elfWords [1, 1, 6, 0, textOffset, text.length, 0, 0, 4, 0] ++
      elfWords [7, 2, 0, 0, symtabOffset, symtab.length, 3, 1, 4, 16] ++
      elfWords [15, 3, 0, 0, strtabOffset, strtab.length, 0, 0, 1, 0] ++
      elfWords [23, 3, 0, 0, shstrtabOffset, shstrtab.length, 0, 0, 1, 0]
    let parts := padTo symtabOffset (padTo textOffset header ++ text) ++ symtab ++ strtab ++ shstrtab
    return padTo headersOffset parts ++ sections

/-- `_run_asm_differ`, without the places of the temporary files, up to its JSON object. -/
def runAsmDiffer (command : List String) (function : MatchFunction) (candidate objdump : String) (object reference : Bytes) :
    Except ToolFailure Fields :=
  let arguments := command ++ [function.name, "-o", "-f", candidate, "-F", "--format", "json", "--algorithm", "difflib",
    "--no-pager", "--no-line-numbers", "-j", ".text"]
  match site.asmDiffer arguments objdump object reference with
  | .error .timeout => .error (.failed s!"asm-differ timed out after {site.formatGeneral options.timeout} seconds.")
  | .error (.os _) => .error .unavailable
  | .ok completed => do
    raiseIf (completed.returncode ≠ 0)
      (.failed s!"asm-differ failed with exit code {completed.returncode}{site.failureSuffix 750 completed}")
    match site.loads completed.stdout with
    | .error _ =>
      let text := site.detail 300 completed.stdout
      let shown := if text = "" then "<empty output>" else text
      .error (.failed s!"asm-differ did not return valid JSON: {shown}")
    | .ok (.obj payload) => return payload
    | .ok _ => .error (.failed "asm-differ JSON output must be an object.")

/-- `_score`. -/
def score (payload : Fields) : Except ToolFailure (Int × Int × Rat) :=
  match Json.getField payload "current_score", Json.getField payload "max_score" with
  | .int rawScore, .int maxScore =>
    if maxScore < 0 then .error (.failed "asm-differ JSON is missing non-negative integer max_score.")
    else .ok (rawScore, maxScore,
      if maxScore = 0 then (if rawScore = 0 then 100 else 0) else site.similarity rawScore maxScore)
  | .int _, _ => .error (.failed "asm-differ JSON is missing non-negative integer max_score.")
  | _, _ => .error (.failed "asm-differ JSON is missing integer current_score.")

def cellHasDiff : Json → Bool
  | .obj cell =>
    match Json.getField cell "text" with
    | .arr segments => segments.any fun
      | .obj segment =>
        match Json.getField segment "format" with
        | .str format => "diff_".toList.isPrefixOf format.toList
        | _ => false
      | _ => false
    | _ => false
  | _ => false

/-- How many rows match, differ, were added and were removed. -/
structure RowCounts where
  matching : Nat
  changed : Nat
  added : Nat
  removed : Nat

def RowCounts.count (counts : RowCounts) (row : Fields) : RowCounts :=
  match Json.getField row "base", Json.getField row "current" with
  | .null, .null => counts
  | .null, _ => { counts with added := counts.added + 1 }
  | _, .null => { counts with removed := counts.removed + 1 }
  | base, current =>
    if cellHasDiff base || cellHasDiff current then { counts with changed := counts.changed + 1 }
    else { counts with matching := counts.matching + 1 }

/-- `_classify_rows`. -/
def classifyRows (payload : Fields) : Except ToolFailure RowCounts :=
  match Json.getField payload "rows" with
  | .arr rows => rows.foldlM (fun counts row =>
      match row with
      | .obj row => .ok (counts.count row)
      | _ => .error (.failed "asm-differ rows must contain JSON objects.")) ⟨0, 0, 0, 0⟩
  | _ => .error (.failed "asm-differ JSON is missing rows list.")

/-- Whether a reference from the function is known. -/
def knownReferences (name : String) : Bool :=
  match site.references with
  | some (.ok (.arr items)) => items.any fun
    | .obj item => (Json.getField item "source_function").equalsStr name
    | _ => false
  | _ => false

/-- `_reference_warning` for a reference object of the matcher's own. -/
def referenceWarning (function : MatchFunction) : List String :=
  if site.knownReferences function.name then
    ["The synthesized reference object contains original instruction words but no MIPS relocation records; " ++
      "functions with calls/global references may receive a pessimistic asm-differ score."]
  else []

/-- `payload.get("tool", {}).get("poetry", {}).get("version")`, when it is a text. -/
def poetryVersion (payload : Dict String Json) : Except DecompileFailure (Option String) :=
  match (payload.get? "tool").getD (.obj []) with
  | .obj tool =>
    match (Dict.get? tool "poetry").getD (.obj []) with
    | .obj poetry =>
      match Json.getField poetry "version" with
      | .str version => .ok (some version)
      | _ => .ok none
    | _ => .error (.other "object has no attribute 'get'")
  | _ => .error (.other "object has no attribute 'get'")

/-- `_detect_backend_version`: the version in a project file beside the program or above it. -/
def detectBackendVersion (command : List String) : Except DecompileFailure (Option String) :=
  match command.getLast? with
  | none => .ok none
  | some path => [site.host.sibling path "pyproject.toml", site.parentSibling path "pyproject.toml"].foldlM (fun known pyproject =>
      match known with
      | some version => .ok (some version)
      | none =>
        match site.host.readFile pyproject with
        | .error _ => .ok none
        | .ok contents =>
          match site.host.toml contents with
          | .error .decode => .ok none
          | .error (.raised failure) => .error failure
          | .ok payload => do
            match ← projectVersion payload with
            | some version => return some version
            | none => poetryVersion payload) none

/-- What a comparison comes to before anything is written. -/
structure Comparison where
  function : MatchFunction
  objdump : String
  reference : Bytes
  payload : Fields
  rawScore : Int
  maxScore : Int
  similarityPercent : Rat
  rows : RowCounts
  backendVersion : Option String

/-- `match_project_function` of an object that is built already, up to its writes. -/
def compareFunction (project selector : String) (projectFile : FunctionsFile) (candidate : String) (disk : ProjectDisk) :
    Except ToolFailure Comparison := do
  raiseIf (options.timeout ≤ 0) (.failed "timeout must be greater than zero.")
  let function ← (resolveMatchFunction site.readers (functionsPath project) projectFile selector).mapError .failed
  match disk candidate with
  | none => .error (.failed s!"candidate object does not exist after build: {candidate}")
  | some object =>
    let command ← (site.resolveAsmDifferCommand options).mapError fun _ => .unavailable
    let objdump ← (site.resolveObjdump options).mapError fun _ => .unavailable
    let reference ← buildReferenceObject function
    let payload ← site.runAsmDiffer options command function candidate objdump (object.data site.dumps) reference
    let (rawScore, maxScore, similarityPercent) ← site.score payload
    let rows ← classifyRows payload
    let backendVersion ← (site.detectBackendVersion command).mapError .raised
    return ⟨function, objdump, reference, payload, rawScore, maxScore, similarityPercent, rows, backendVersion⟩

/-- The contents of `metadata/matching`. -/
def matchMetadata (project candidate : String) (comparison : Comparison) : Json :=
  let function := comparison.function
  let stem := function.safeStem
  .obj [
  ("backend", .obj [("name", .str "asm-differ"), ("version", Json.ofOption .str comparison.backendVersion),
    ("objdump", .str comparison.objdump)]),
  ("function", .obj [("name", .str function.name), ("address", .int function.address), ("size", .int function.size),
    ("section", .str function.sectionName)]),
  ("artifacts", .obj [("candidate_object", .str (relativeOrString project candidate)),
    ("reference_object", .str (relativeOrString project (artifactPath project .references (stem ++ ".o")))),
    ("raw_report", .str (relativeOrString project (artifactPath project .reports (stem ++ ".asm-differ.json"))))]),
  ("build_command", .null),
  ("settings", .obj [("section", .str ".text"), ("ignore_large_imms", .bool false), ("algorithm", .str "difflib")]),
  ("score", .obj [("raw", .int comparison.rawScore), ("max", .int comparison.maxScore),
    ("similarity_percent", .float (some comparison.similarityPercent))]),
  ("rows", .obj [("matching", .int comparison.rows.matching), ("changed", .int comparison.rows.changed),
    ("added", .int comparison.rows.added), ("removed", .int comparison.rows.removed)]),
  ("warnings", Json.ofTexts (site.referenceWarning function))]

/-- The place of the metadata of a comparison. -/
def matchMetadataPath (project : String) (function : MatchFunction) : String :=
  artifactPath project .matching (function.safeStem ++ ".json")

/-- `match_project_function`, and what it leaves on the disk. -/
def matchProjectFunction (project selector : String) (projectFile : FunctionsFile) (candidate : String) (disk : ProjectDisk) :
    Except ToolFailure MatchResult × ProjectDisk :=
  match site.compareFunction options project selector projectFile candidate disk with
  | .error failure => (.error failure, disk)
  | .ok comparison =>
    let stem := comparison.function.safeStem
    let metadataPath := matchMetadataPath project comparison.function
    let disk := Function.update disk (artifactPath project .references (stem ++ ".o")) (some (.bytes comparison.reference))
    let disk := Function.update disk (artifactPath project .reports (stem ++ ".asm-differ.json")) (some (.json (.obj comparison.payload)))
    let disk := Function.update disk metadataPath (some (.json (site.matchMetadata project candidate comparison)))
    (.ok ⟨metadataPath, comparison.rawScore, comparison.maxScore, comparison.similarityPercent, comparison.rows.matching,
      comparison.rows.changed, comparison.rows.added, comparison.rows.removed, site.referenceWarning comparison.function⟩, disk)

end Match

section Attempts
variable (queued : QueuedFunction)

def setting : RunSetting where
  host := site.host
  projects := site.projects
  m2cPath := options.m2cPath
  contexts := options.contexts
  target := options.target
  toolchain := .externalCompiler options.compiler options.flags
  options := {
    instructionCount := .ok 0
    m2cCommand := .error ""
    m2cVersion := none
    contexts := options.contexts
    target := options.target
    maxAttempts := options.maxAttempts
    force := options.force
    toolchainName := ""
    toolchainIdentity := []
    hasKnownReferences := site.knownReferences queued.function
    contextSha256 := fun _ => .error ""
    assemblyText := fun _ => .error .malformed
    decompile := fun _ => .error .unavailable
    compile := fun _ => .error .unavailable
    matching := fun _ => .error .unavailable }

/-- The place of a candidate or of an object: its name has the orchestrator's stem and the identity of the attempt. -/
def attemptPath (directory : ArtifactDirectory) (id suffix : String) : String :=
  artifactPath (projectDirectory site.store queued) directory
    (safeFunctionStem site.store queued.function ++ ("." ++ (id ++ suffix)))

/-- What the tools answer one after the other for an attempt, and what they leave on the disk. -/
structure ToolAnswers where
  decompiled : Except ToolFailure DecompilationResult
  compiled : Except ToolFailure BuildResult
  matched : Except ToolFailure MatchResult
  disk : ProjectDisk

/-- The calls of the tools in `_run_one_attempt`. A tool whose predecessor has failed is not called. -/
def callTools (variant : RetryVariant) (id : String) (disk : ProjectDisk) : ToolAnswers :=
  let project := projectDirectory site.store queued
  let projectFile := site.projects queued.projectDir
  let (decompiled, disk) := site.decompileProjectFunction options project queued.function projectFile variant
    (site.attemptPath queued .candidates id ".c") disk
  match decompiled with
  | .error failure => ⟨.error failure, .error .unavailable, .error .unavailable, disk⟩
  | .ok decompilation =>
    let (compiled, disk) := site.compileFunction options decompilation.outputPath (site.attemptPath queued .objects id ".o") disk
    match compiled with
    | .error failure => ⟨.ok decompilation, .error failure, .error .unavailable, disk⟩
    | .ok built =>
      let (matched, disk) := site.matchProjectFunction options project queued.function projectFile built.outputPath disk
      ⟨.ok decompilation, .ok built, matched, disk⟩

/-- Whether the tools are called for a variant. -/
def callsTools (inputs : RunInputs) (attempts : List DecompilationAttempt) (variant : RetryVariant) (id : String) : Bool :=
  (variant.contexts.mapM inputs.contextSha256).toOption.isSome && (inputs.force || id ∉ attempts.map (·.attemptId))

/-- What a variant comes to, and what it leaves on the disk. -/
def runVariant (inputs : RunInputs) (command : List String) (attempts : List DecompilationAttempt) (variant : RetryVariant)
    (disk : ProjectDisk) : Except DecompileFailure VariantEnd × ProjectDisk :=
  match variantId site.digests inputs queued command variant with
  | .error failure => (.error failure, disk)
  | .ok id =>
    let answers := site.callTools options queued variant id disk
    let answered := { inputs with
      decompile := fun _ => answers.decompiled, compile := fun _ => answers.compiled, matching := fun _ => answers.matched }
    (PspDisasm.runVariant site.digests answered queued command attempts variant,
      if callsTools inputs attempts variant id then answers.disk else disk)

def runVariants (inputs : RunInputs) (command : List String) : List DecompilationAttempt → List RetryVariant → ProjectDisk →
    Except DecompileFailure LoopEnd × ProjectDisk
  | attempts, [], disk => (.ok (.finished attempts), disk)
  | attempts, variant :: rest, disk =>
    match site.runVariant options queued inputs command attempts variant disk with
    | (.error failure, disk) => (.error failure, disk)
    | (.ok .skipped, disk) => runVariants inputs command attempts rest disk
    | (.ok .missing, disk) => (.ok (.stopped attempts), disk)
    | (.ok (.added attempt), disk) =>
      if attempt.matchExact = some true then (.ok (.finished (attempts ++ [attempt])), disk)
      else runVariants inputs command (attempts ++ [attempt]) rest disk

/-- `run_function` with what it leaves on the disk of the project. -/
def runFunction (disk : ProjectDisk) : Except RunFailure FunctionDecompilationState × ProjectDisk :=
  let setting := site.setting options queued
  match (setting.known site.digests site.readers site.store queued).instructionCount with
  | .error failure => (.error (.other failure), disk)
  | .ok 0 => (.error (.unsupportedFunction
      s!"function {site.digests.reprText queued.function} has no instructions to decompile"), disk)
  | .ok _ =>
    match setting.inputs site.digests site.readers site.store queued with
    | .error failure => (.error (.other failure), disk)
    | .ok inputs =>
      match inputs.m2cCommand with
      | .error message => (.ok (queued.state.marked .blocked message), disk)
      | .ok command =>
        match site.runVariants options queued inputs command queued.state.attemptHistory inputs.variants disk with
        | (.error failure, disk) => (.error (.other failure), disk)
        | (.ok ending, disk) => (.ok (ending.state queued), disk)

end Attempts

end ToolSite

end PspDisasm
