import PspDisasm.Decompile.ProjectReaders

namespace PspDisasm
open Foundations

/-- What a path leads to. What cannot be read has the text of the error. -/
inductive HostNode
  | file (contents : Except String Bytes)
  | directory
  | device (contents : Except String Bytes)

/-- How a text is no TOML: in the documented way, or with another exception. -/
inductive TomlFailure
  | decode
  | raised (failure : DecompileFailure)

/-- The machine that a run finds: what paths lead to from the working directory, the environment, the search path,
and the standard library's reading of paths, command lines and TOML. `launched` is the program that the system
starts for the template of a build command. -/
structure Host where
  node : String → Option HostNode
  environ : String → Option String
  which : String → Option String
  executable : String
  pathText : String → String
  pathName : String → String
  suffix : String → String
  sibling : String → String → String
  shlexSplit : String → Except String (List String)
  toml : Bytes → Except TomlFailure (Dict String Json)
  launched : String → Option Bytes

namespace Host
variable (host : Host) (path : String)

/-- `path.open("rb")` and all that follows in the file. -/
def readFile : Except String Bytes :=
  match host.node path with
  | none => .error s!"[Errno 2] No such file or directory: '{path}'"
  | some .directory => .error s!"[Errno 21] Is a directory: '{path}'"
  | some (.file contents) => contents
  | some (.device contents) => contents

def contents : Option Bytes := (host.readFile path).toOption

def isFile : Bool :=
  match host.node path with
  | some (.file _) => true
  | _ => false

end Host

/-- `_hash_file` of the toolchains and `_sha256_file` of the orchestrator. -/
def hashFile (tools : OrchestratorTools) (host : Host) (path : String) : Except String String :=
  tools.sha256Bytes <$> host.readFile path

def programDigest (tools : OrchestratorTools) (host : Host) : Option String → Except DecompileFailure (Option String)
  | none => .ok none
  | some path => some <$> (hashFile tools host path).mapError .os

/-- The toolchains of the repository. A compiler is given by its resolved path. -/
inductive BuildToolchain
  | externalCompiler (compiler : String) (flags : List String)
  | projectBuildCommand (commandTemplate outputTemplate : String)

namespace BuildToolchain

def name : BuildToolchain → String
  | .externalCompiler compiler _ => s!"external-compiler:{compiler}"
  | .projectBuildCommand commandTemplate _ => s!"project-build-command:{commandTemplate}"

/-- The file whose digest goes into the identity. For a build command it is the one that the first word of its
template names from the working directory. -/
def programFile (host : Host) : BuildToolchain → Except DecompileFailure (Option String)
  | .externalCompiler compiler _ => .ok (if host.isFile compiler then some compiler else none)
  | .projectBuildCommand commandTemplate _ =>
    match host.shlexSplit commandTemplate with
    | .error _ => .ok none
    | .ok [] => .error (.other "list index out of range")
    | .ok (candidate :: _) => .ok (if candidate ≠ "" ∧ host.isFile candidate then some candidate else none)

/-- The identity of a toolchain with the digest of its program. -/
def describe (digest : Option String) : BuildToolchain → Dict String Json
  | .externalCompiler compiler flags => [
    ("kind", .str "external_compiler"),
    ("compiler", .str compiler),
    ("compiler_sha256", .ofOption .str digest),
    ("flags", .ofTexts flags)]
  | .projectBuildCommand commandTemplate outputTemplate => [
    ("kind", .str "project_build_command"),
    ("command_template", .str commandTemplate),
    ("output_template", .str outputTemplate)] ++ (digest.map fun digest => ("command_sha256", Json.str digest)).toList

def identity (tools : OrchestratorTools) (host : Host) (toolchain : BuildToolchain) :
    Except DecompileFailure (Dict String Json) := do
  let path ← toolchain.programFile host
  let digest ← programDigest tools host path
  return toolchain.describe digest

end BuildToolchain

section Decompiler
variable (host : Host)

def commandForPath (path : String) : Except String (List String) :=
  match host.node path with
  | none => .error s!"m2c backend does not exist: {host.pathText path}"
  | some .directory => .error s!"m2c backend path is a directory, not an executable/script: {host.pathText path}"
  | some _ => .ok (if host.suffix path = ".py" then [host.executable, host.pathText path] else [host.pathText path])

def resolveM2cCommand (explicitPath : Option String) : Except String (List String) :=
  match explicitPath with
  | some path => commandForPath host path
  | none =>
    match (host.environ "PSPDISASM_M2C").getD "", (host.which "m2c").getD "" with
    | "", "" => .error ("m2c is required for assisted C decompilation. Pass --m2c PATH, set PSPDISASM_M2C, " ++
      "or install an m2c executable on PATH.")
    | "", executable => .ok [executable]
    | configured, _ => commandForPath host configured

/-- `payload.get("project", {}).get("version")`, when it is a text. -/
def projectVersion (payload : Dict String Json) : Except DecompileFailure (Option String) :=
  match (payload.get? "project").getD (.obj []) with
  | .obj project =>
    match Json.getField project "version" with
    | .str version => .ok (some version)
    | _ => .ok none
  | _ => .error (.other "object has no attribute 'get'")

def probeM2cVersion (command : List String) : Except DecompileFailure (Option String) :=
  match command.getLast? with
  | none => .ok none
  | some candidate =>
    if host.pathName candidate ≠ "m2c.py" then .ok none
    else match host.readFile (host.sibling candidate "pyproject.toml") with
      | .error _ => .ok none
      | .ok contents =>
        match host.toml contents with
        | .error .decode => .ok none
        | .error (.raised failure) => .error failure
        | .ok payload => projectVersion payload

end Decompiler

section Identity
variable {tools : OrchestratorTools} {host : Host} {toolchain other : BuildToolchain} {digest otherDigest : Option String}

theorem ofTexts_injective {texts others : List String} (same : Json.ofTexts texts = Json.ofTexts others) : texts = others :=
  List.map_injective_iff.mpr (fun _ _ same => Json.str.inj same) (Json.arr.inj same)

theorem ofOption_injective {digest other : Option String} (same : Json.ofOption .str digest = Json.ofOption .str other) :
    digest = other := by
  cases digest with
  | none =>
    cases other with
    | none => rfl
    | some digest => cases same
  | some digest =>
    cases other with
    | none => cases same
    | some other => rw [Json.str.inj same]

/-- The members of an identity tell the toolchain and the digest. -/
theorem describe_injective (same : ∀ key, (toolchain.describe digest).get? key = (other.describe otherDigest).get? key) :
    toolchain = other ∧ digest = otherDigest := by
  cases toolchain with
  | externalCompiler compiler flags =>
    cases other with
    | externalCompiler otherCompiler otherFlags =>
      have sameCompiler : compiler = otherCompiler := Json.str.inj (Option.some.inj (same "compiler"))
      have sameFlags : flags = otherFlags := ofTexts_injective (Option.some.inj (same "flags"))
      have sameDigest : digest = otherDigest := ofOption_injective (Option.some.inj (same "compiler_sha256"))
      rw [sameCompiler, sameFlags, sameDigest]
      exact ⟨rfl, rfl⟩
    | projectBuildCommand _ _ => exact absurd (Json.str.inj (Option.some.inj (same "kind"))) (by decide)
  | projectBuildCommand commandTemplate outputTemplate =>
    cases other with
    | externalCompiler _ _ => exact absurd (Json.str.inj (Option.some.inj (same "kind"))) (by decide)
    | projectBuildCommand otherCommand otherOutput =>
      have sameCommand : commandTemplate = otherCommand := Json.str.inj (Option.some.inj (same "command_template"))
      have sameOutput : outputTemplate = otherOutput := Json.str.inj (Option.some.inj (same "output_template"))
      have sameDigest := same "command_sha256"
      rw [sameCommand, sameOutput]
      refine ⟨rfl, ?_⟩
      cases digest with
      | none =>
        cases otherDigest with
        | none => rfl
        | some digest => cases sameDigest
      | some digest =>
        cases otherDigest with
        | none => cases sameDigest
        | some other => rw [Json.str.inj (Option.some.inj sameDigest)]

theorem programDigest_ok {file : Option String} (hashed : programDigest tools host file = .ok digest) :
    digest = (file.bind host.contents).map tools.sha256Bytes := by
  cases file with
  | none =>
    cases hashed
    rfl
  | some path =>
    change some <$> (tools.sha256Bytes <$> host.readFile path).mapError DecompileFailure.os = .ok digest at hashed
    rw [Option.bind_some, Host.contents]
    cases read : host.readFile path with
    | error reason =>
      rw [read] at hashed
      cases hashed
    | ok contents =>
      rw [read] at hashed
      cases hashed
      rfl

/-- The identity of a toolchain has the digest of its program file. -/
theorem identity_ok {identity : Dict String Json} (described : toolchain.identity tools host = .ok identity) :
    ∃ file, toolchain.programFile host = .ok file ∧
      identity = toolchain.describe ((file.bind host.contents).map tools.sha256Bytes) := by
  obtain ⟨file, located, rest⟩ := bind_ok.mp described
  obtain ⟨digest, hashed, rest⟩ := bind_ok.mp rest
  cases rest
  exact ⟨file, located, congrArg (fun digest => toolchain.describe digest) (programDigest_ok hashed)⟩

end Identity

end PspDisasm
