import PspDisasm.Decompile.Batch
import PspDisasm.Decompile.Toolchain

namespace PspDisasm
open Foundations

/-- What a call of `run_function` is given, and the machine and the project that it finds. `options` are its other
options, with what the tools answer. -/
structure RunSetting where
  host : Host
  projects : String → FunctionsFile
  m2cPath : Option String
  contexts : List String
  target : String
  toolchain : BuildToolchain
  options : RunInputs

section Payload
variable (tools : OrchestratorTools) (inputs : RunInputs) (queued : QueuedFunction) (command : List String)
  (variant : RetryVariant)

/-- The payload of `compute_attempt_id`. -/
def attemptPayload (contextSha256 : List String) (assemblySha256 : String) : AttemptPayload where
  function := queued.function
  address := queued.address
  assemblySha256 := assemblySha256
  contextSha256 := contextSha256
  m2cCommand := command
  m2cVersion := inputs.m2cVersion
  target := variant.target
  toolchainIdentity := inputs.toolchainIdentity

/-- The payload of a variant. It has placeholders when the contexts cannot be read. -/
def variantPayload : Except DecompileFailure AttemptPayload :=
  match variant.contexts.mapM inputs.contextSha256 with
  | .error _ => .ok (attemptPayload inputs queued command variant [] "unavailable")
  | .ok contextSha256 => do
    let assembly ← inputs.assemblyText variant
    return attemptPayload inputs queued command variant contextSha256 (tools.sha256Text assembly)

end Payload

section Runs
variable (tools : OrchestratorTools) (readers : ReaderTools) (store : StoreTools) (queued : QueuedFunction)

/-- What a run knows before it looks for versions. -/
def RunSetting.known (setting : RunSetting) : RunInputs :=
  projectInputs readers store setting.projects { setting.options with
    m2cCommand := resolveM2cCommand setting.host setting.m2cPath
    contexts := setting.contexts
    target := setting.target
    toolchainName := setting.toolchain.name
    contextSha256 := hashFile tools setting.host } queued

/-- What the loop over the variants meets. Without m2c the call ends before it looks at versions and toolchains. -/
def RunSetting.inputs (setting : RunSetting) : Except DecompileFailure RunInputs :=
  let known := setting.known tools readers store queued
  match known.m2cCommand with
  | .error _ => .ok known
  | .ok command => do
    let m2cVersion ← probeM2cVersion setting.host command
    let toolchainIdentity ← setting.toolchain.identity tools setting.host
    return { known with m2cVersion := m2cVersion, toolchainIdentity := toolchainIdentity }

/-- A variant of a run that has computed the identity of its attempt. -/
structure VariantRun where
  setting : RunSetting
  inputs : RunInputs
  command : List String
  variant : RetryVariant
  payload : AttemptPayload
  met : setting.inputs tools readers store queued = .ok inputs
  found : inputs.m2cCommand = .ok command
  listed : variant ∈ inputs.variants
  identified : variantPayload tools inputs queued command variant = .ok payload

end Runs

def projectDirectory (store : StoreTools) (queued : QueuedFunction) : String :=
  s!"{store.workspaceDir}/analysis/game_project/{queued.projectDir}"

/-- The program that builds an object, with what it is told. -/
inductive BuilderConfiguration
  | compiler (program : Option Bytes) (flags : List String)
  | buildCommand (program : Option Bytes) (commandTemplate outputTemplate : String)

/-- What makes the outcome of a variant: the assembly that m2c is given, the contents of the contexts, m2c itself, the
target, and the builder. -/
structure Configuration where
  assembly : Option String
  contexts : List (Option Bytes)
  m2cProgram : Option Bytes
  target : String
  builder : BuilderConfiguration

/-- What the identity of an attempt is made of, before it is hashed. The sources are there when all the contexts
can be read: their contents, and the text of the first entry with the function's name. -/
structure HashedView where
  target : String
  m2cCommand : List String
  m2cVersion : Except DecompileFailure (Option String)
  toolchain : BuildToolchain
  program : Option Bytes
  sources : Option (List Bytes × Except DecompileFailure String)

namespace VariantRun
variable {tools : OrchestratorTools} {readers : ReaderTools} {store : StoreTools} {queued : QueuedFunction}

section Views
variable (run : VariantRun tools readers store queued)

def id : String := tools.attemptId run.payload

def configuration : Configuration where
  assembly := (resolveProjectFunction readers (functionsPath (readers.resolve (projectDirectory store queued)))
    (run.setting.projects queued.projectDir) queued.function).toOption.map (·.assembly)
  contexts := run.variant.contexts.map run.setting.host.contents
  m2cProgram := run.command.getLast?.bind run.setting.host.contents
  target := run.variant.target
  builder := match run.setting.toolchain with
    | .externalCompiler compiler flags => .compiler (run.setting.host.contents compiler) flags
    | .projectBuildCommand commandTemplate outputTemplate =>
      .buildCommand (run.setting.host.launched commandTemplate) commandTemplate outputTemplate

def readContexts : Except String (List Bytes) := run.variant.contexts.mapM run.setting.host.readFile

def hashedText : Except DecompileFailure String :=
  assemblyTextFor readers (functionsPath (projectDirectory store queued)) (run.setting.projects queued.projectDir) queued.function

def hashedProgram : Option Bytes :=
  match run.setting.toolchain.programFile run.setting.host with
  | .ok (some path) => run.setting.host.contents path
  | _ => none

def hashed : HashedView where
  target := run.variant.target
  m2cCommand := run.command
  m2cVersion := probeM2cVersion run.setting.host run.command
  toolchain := run.setting.toolchain
  program := run.hashedProgram
  sources := run.readContexts.toOption.map fun contents => (contents, run.hashedText)

end Views

/-- The texts of two payloads are the same in the canonical form, which sorts the members of the identities. -/
structure SamePayload (payload other : AttemptPayload) : Prop where
  function : payload.function = other.function
  address : payload.address = other.address
  assembly : payload.assemblySha256 = other.assemblySha256
  contexts : payload.contextSha256 = other.contextSha256
  command : payload.m2cCommand = other.m2cCommand
  version : payload.m2cVersion = other.m2cVersion
  target : payload.target = other.target
  toolchain : ∀ key, payload.toolchainIdentity.get? key = other.toolchainIdentity.get? key

/-- What two runs hash has different digests where it is different. No digest is the placeholder. -/
structure NoCollision (run other : VariantRun tools readers store queued) : Prop where
  ids : run.id = other.id → SamePayload run.payload other.payload
  texts : ∀ text again, run.hashedText = .ok text → other.hashedText = .ok again →
    tools.sha256Text text = tools.sha256Text again → text = again
  contexts : ∀ contents again, run.readContexts = .ok contents → other.readContexts = .ok again →
    contents.map tools.sha256Bytes = again.map tools.sha256Bytes → contents = again
  programs : ∀ contents again, run.hashedProgram = some contents → other.hashedProgram = some again →
    tools.sha256Bytes contents = tools.sha256Bytes again → contents = again
  digests : ∀ text, tools.sha256Text text ≠ "unavailable"

/-- A run without force passes over a variant only when another attempt than these is known. -/
def Reattempts (run : VariantRun tools readers store queued) (id : String) : Prop :=
  ∀ attempts : List DecompilationAttempt, (∀ attempt ∈ attempts, attempt.attemptId = id) →
    runVariant tools run.inputs queued run.command attempts run.variant ≠ .ok .skipped

end VariantRun

section Met
variable {tools : OrchestratorTools} {readers : ReaderTools} {store : StoreTools} {queued : QueuedFunction}

/-- What the loop has met, in terms of the machine and the project. -/
structure Met (setting : RunSetting) (command : List String) (inputs : RunInputs) (tools : OrchestratorTools)
    (text : Except DecompileFailure String) : Prop where
  contexts : inputs.contextSha256 = hashFile tools setting.host
  assembly : ∀ variant, inputs.assemblyText variant = text
  version : probeM2cVersion setting.host command = .ok inputs.m2cVersion
  identity : setting.toolchain.identity tools setting.host = .ok inputs.toolchainIdentity

theorem RunSetting.inputs_met {setting : RunSetting} {inputs : RunInputs} {command : List String}
    (met : setting.inputs tools readers store queued = .ok inputs) (found : inputs.m2cCommand = .ok command) :
    Met setting command inputs tools (assemblyTextFor readers (functionsPath (projectDirectory store queued))
      (setting.projects queued.projectDir) queued.function) := by
  unfold RunSetting.inputs at met
  dsimp only at met
  split at met
  · rename_i missing
    cases met
    cases found.symm.trans missing
  · rename_i resolved
    obtain ⟨version, probed, rest⟩ := bind_ok.mp met
    obtain ⟨identity, described, rest⟩ := bind_ok.mp rest
    cases rest
    cases resolved.symm.trans found
    exact ⟨rfl, fun _ => rfl, probed, described⟩

theorem RunSetting.inputs_ok {setting : RunSetting} {command : List String} {version : Option String}
    {identity : Dict String Json} (found : resolveM2cCommand setting.host setting.m2cPath = .ok command)
    (probed : probeM2cVersion setting.host command = .ok version)
    (described : setting.toolchain.identity tools setting.host = .ok identity) :
    setting.inputs tools readers store queued =
      .ok { setting.known tools readers store queued with m2cVersion := version, toolchainIdentity := identity } := by
  have resolved : (setting.known tools readers store queued).m2cCommand = .ok command := found
  unfold RunSetting.inputs
  dsimp only
  split
  · rename_i missing
    cases resolved.symm.trans missing
  · rename_i again
    cases resolved.symm.trans again
    rw [probed, described]
    rfl

theorem hashFile_mapM (host : Host) (paths : List String) :
    paths.mapM (hashFile tools host) = List.map tools.sha256Bytes <$> paths.mapM host.readFile :=
  mapM_map_each paths

theorem variantId_payload {inputs : RunInputs} {command : List String} {variant : RetryVariant} :
    variantId tools inputs queued command variant = tools.attemptId <$> variantPayload tools inputs queued command variant := by
  unfold variantId variantPayload
  cases variant.contexts.mapM inputs.contextSha256 with
  | error reason => rfl
  | ok digests =>
    cases inputs.assemblyText variant with
    | error failure => rfl
    | ok assembly => rfl

end Met

namespace VariantRun
variable {tools : OrchestratorTools} {readers : ReaderTools} {store : StoreTools} {queued : QueuedFunction}
  {run other : VariantRun tools readers store queued}

theorem hashedProgram_identity : run.inputs.toolchainIdentity =
    run.setting.toolchain.describe (run.hashedProgram.map tools.sha256Bytes) := by
  obtain ⟨file, located, described⟩ := identity_ok (RunSetting.inputs_met run.met run.found).identity
  rw [described, hashedProgram, located]
  cases file with
  | none => rfl
  | some path => rfl

/-- What the payload holds of the sources: their digests, or the placeholders. -/
inductive SourceDigests (run : VariantRun tools readers store queued) : Prop
  | unread : run.hashed.sources = none → run.payload.contextSha256 = [] → run.payload.assemblySha256 = "unavailable" →
      SourceDigests run
  | read (contents : List Bytes) (text : String) : run.readContexts = .ok contents → run.hashedText = .ok text →
      run.payload.contextSha256 = contents.map tools.sha256Bytes → run.payload.assemblySha256 = tools.sha256Text text →
      SourceDigests run

theorem sourceDigests (run : VariantRun tools readers store queued) : SourceDigests run := by
  have met := RunSetting.inputs_met run.met run.found
  have identified := run.identified
  have digests : run.variant.contexts.mapM run.inputs.contextSha256 = List.map tools.sha256Bytes <$> run.readContexts := by
    rw [met.contexts, hashFile_mapM]
    rfl
  unfold variantPayload at identified
  rw [digests, met.assembly] at identified
  cases read : run.readContexts with
  | error reason =>
    rw [read] at identified
    have payload := Except.ok.inj identified
    exact .unread (by rw [hashed, read]; rfl) (by rw [← payload]; rfl) (by rw [← payload]; rfl)
  | ok contents =>
    rw [read] at identified
    obtain ⟨text, found, rest⟩ := bind_ok.mp identified
    have payload := Except.ok.inj rest
    exact .read contents text read found (by rw [← payload]; rfl) (by rw [← payload]; rfl)

theorem payload_eq (run : VariantRun tools readers store queued) : run.payload = attemptPayload run.inputs queued run.command
    run.variant run.payload.contextSha256 run.payload.assemblySha256 := by
  have identified := run.identified
  unfold variantPayload at identified
  split at identified
  · rw [← Except.ok.inj identified]
    rfl
  · obtain ⟨text, _, rest⟩ := bind_ok.mp identified
    rw [← Except.ok.inj rest]
    rfl

theorem map_digest_injective {first second : Option Bytes}
    (apart : ∀ contents again, first = some contents → second = some again →
      tools.sha256Bytes contents = tools.sha256Bytes again → contents = again)
    (same : first.map tools.sha256Bytes = second.map tools.sha256Bytes) : first = second := by
  cases first with
  | none => exact (Option.map_eq_none_iff.mp same.symm).symm
  | some contents =>
    cases second with
    | none => cases same
    | some again => rw [apart contents again rfl rfl (Option.some.inj same)]

theorem read_sources {contents : List Bytes} {text : String} (read : run.readContexts = .ok contents)
    (found : run.hashedText = .ok text) : run.hashed.sources = some (contents, .ok text) := by
  rw [hashed, read, found]
  rfl

/-- Payloads of the same text come from the same sources. -/
theorem NoCollision.sources (free : NoCollision run other) (same : SamePayload run.payload other.payload) :
    run.hashed.sources = other.hashed.sources := by
  have assembly := same.assembly
  have contexts := same.contexts
  cases sourceDigests run with
  | unread none _ placeholder =>
    cases sourceDigests other with
    | unread otherNone _ _ => rw [none, otherNone]
    | read _ text _ _ _ digest =>
      rw [placeholder, digest] at assembly
      exact absurd assembly.symm (free.digests text)
  | read contents text read found digests digest =>
    cases sourceDigests other with
    | unread _ _ placeholder =>
      rw [placeholder, digest] at assembly
      exact absurd assembly (free.digests text)
    | read again otherText readOther foundOther digestsOther digestOther =>
      rw [digests, digestsOther] at contexts
      rw [digest, digestOther] at assembly
      rw [read_sources read found, read_sources readOther foundOther, free.contexts _ _ read readOther contexts,
        free.texts _ _ found foundOther assembly]

/-- The same sources have the same digests. -/
theorem sources_digests (same : run.hashed.sources = other.hashed.sources) :
    run.payload.contextSha256 = other.payload.contextSha256 ∧ run.payload.assemblySha256 = other.payload.assemblySha256 := by
  cases sourceDigests run with
  | unread none empty placeholder =>
    cases sourceDigests other with
    | unread _ otherEmpty otherPlaceholder => exact ⟨empty.trans otherEmpty.symm, placeholder.trans otherPlaceholder.symm⟩
    | read _ _ read found _ _ =>
      rw [none, read_sources read found] at same
      cases same
  | read contents text read found digests digest =>
    cases sourceDigests other with
    | unread none _ _ =>
      rw [none, read_sources read found] at same
      cases same
    | read again otherText readOther foundOther digestsOther digestOther =>
      rw [read_sources read found, read_sources readOther foundOther] at same
      cases same
      exact ⟨digests.trans digestsOther.symm, digest.trans digestOther.symm⟩

theorem met_version (run : VariantRun tools readers store queued) :
    probeM2cVersion run.setting.host run.command = .ok run.inputs.m2cVersion :=
  (RunSetting.inputs_met run.met run.found).version

theorem NoCollision.hashed (free : NoCollision run other) (sameId : run.id = other.id) : run.hashed = other.hashed := by
  have same := free.ids sameId
  have sources := free.sources same
  rw [payload_eq run, payload_eq other] at same
  have target : run.variant.target = other.variant.target := same.target
  have command : run.command = other.command := same.command
  have version : run.inputs.m2cVersion = other.inputs.m2cVersion := same.version
  have members : ∀ key, run.inputs.toolchainIdentity.get? key = other.inputs.toolchainIdentity.get? key := same.toolchain
  rw [hashedProgram_identity, hashedProgram_identity] at members
  obtain ⟨toolchain, digest⟩ := describe_injective members
  have program : run.hashedProgram = other.hashedProgram := map_digest_injective free.programs digest
  have probes : probeM2cVersion run.setting.host run.command = probeM2cVersion other.setting.host other.command := by
    rw [met_version, met_version, version]
  simp only [VariantRun.hashed, HashedView.mk.injEq]
  exact ⟨target, command, probes, toolchain, program, sources⟩

theorem id_of_hashed (same : run.hashed = other.hashed) : run.id = other.id := by
  obtain ⟨contexts, assembly⟩ := sources_digests (congrArg HashedView.sources same)
  simp only [VariantRun.hashed, HashedView.mk.injEq] at same
  obtain ⟨target, command, probes, toolchain, program, _⟩ := same
  have version : run.inputs.m2cVersion = other.inputs.m2cVersion :=
    Except.ok.inj ((met_version run).symm.trans (probes.trans (met_version other)))
  have identity : run.inputs.toolchainIdentity = other.inputs.toolchainIdentity := by
    rw [hashedProgram_identity, hashedProgram_identity, toolchain, program]
  rw [VariantRun.id, VariantRun.id, payload_eq run, payload_eq other, contexts, assembly]
  unfold attemptPayload
  rw [target, command, version, identity]

/-- Without collisions, the identities of two attempts are the same just when what they are made of is the same. -/
theorem id_eq_iff (free : NoCollision run other) : run.id = other.id ↔ run.hashed = other.hashed :=
  ⟨free.hashed, id_of_hashed⟩

theorem reattempts (unforced : other.inputs.force = false) (id : String) : Reattempts other id ↔ id ≠ other.id := by
  have identified : variantId tools other.inputs queued other.command other.variant = .ok other.id := by
    rw [variantId_payload, other.identified]
    rfl
  constructor
  · intro again same
    let known := baseAttempt tools other.inputs queued other.command other.variant other.payload.contextSha256
      other.payload.assemblySha256
    refine again [{ known with attemptId := id }] (List.forall_mem_singleton.mpr rfl) ?_
    exact runVariant_known unforced identified (same ▸ List.mem_singleton_self id)
  · intro apart attempts known skipped
    obtain ⟨found, identifiedAgain, cases⟩ := runVariant_case skipped
    cases identified.symm.trans identifiedAgain
    cases cases with
    | skipped member _ =>
      obtain ⟨attempt, listed, same⟩ := List.mem_map.mp member
      exact apart ((known attempt listed).symm.trans same)

/-- Without collisions, a run without force notices every difference from another run's configuration of a variant,
and attempts it again, unless it differs in nothing that goes into the identity. -/
theorem notices_iff (free : NoCollision run other) (unforced : other.inputs.force = false) :
    (run.configuration ≠ other.configuration → run.id ≠ other.id ∧ Reattempts other run.id) ↔
      ¬(run.configuration ≠ other.configuration ∧ run.hashed = other.hashed) := by
  have apart : run.id ≠ other.id ↔ ¬run.hashed = other.hashed := not_congr (id_eq_iff free)
  rw [reattempts unforced, and_self, not_and, apart]

/-- m2c is given the function by its name. -/
def FoundByName (run : VariantRun tools readers store queued) : Prop :=
  ∃ function, resolveProjectFunction readers (functionsPath (readers.resolve (projectDirectory store queued)))
    (run.setting.projects queued.projectDir) queued.function = .ok function ∧ function.name = queued.function

/-- Where a difference between two configurations can be that no identity shows. -/
inductive Unnoticed (run other : VariantRun tools readers store queued) : Prop
  | decompiler : run.configuration.m2cProgram ≠ other.configuration.m2cProgram → Unnoticed run other
  | buildCommand (commandTemplate outputTemplate : String) :
      run.setting.toolchain = .projectBuildCommand commandTemplate outputTemplate →
      run.setting.host.launched commandTemplate ≠ other.setting.host.launched commandTemplate → Unnoticed run other
  | irregularCompiler (compiler : String) (flags : List String) : run.setting.toolchain = .externalCompiler compiler flags →
      ¬(run.setting.host.isFile compiler = true ∧ other.setting.host.isFile compiler = true) → Unnoticed run other
  | unread : run.hashed.sources = none → Unnoticed run other
  | renamed : ¬(FoundByName run ∧ FoundByName other) → Unnoticed run other

theorem hashedProgram_compiler {compiler : String} {flags : List String}
    (toolchain : run.setting.toolchain = .externalCompiler compiler flags) (regular : run.setting.host.isFile compiler = true) :
    run.hashedProgram = run.setting.host.contents compiler := by
  rw [hashedProgram, toolchain, BuildToolchain.programFile, if_pos regular]

theorem contents_of_readFile {host : Host} {paths : List String} {contents : List Bytes}
    (read : paths.mapM host.readFile = .ok contents) : paths.map host.contents = contents.map some := by
  have pairs := mapM_ok.mp read
  clear read
  induction pairs with
  | nil => rfl
  | cons head _ ih =>
    rw [List.map_cons, List.map_cons, ih, Host.contents, head]
    rfl

theorem readContexts_contents {contents : List Bytes} (read : run.readContexts = .ok contents) :
    run.configuration.contexts = contents.map some := contents_of_readFile read

theorem FoundByName.text (named : FoundByName run) : ∃ text, run.configuration.assembly = some text ∧ run.hashedText = .ok text := by
  obtain ⟨function, found, name⟩ := named
  refine ⟨function.assembly, ?_, assemblyTextFor_resolved_name found name⟩
  rw [configuration, found]
  rfl

/-- Runs with the same toolchain and the same digest of its program have the same builder, where that digest is the
one of the program that builds. -/
theorem builder_eq (toolchain : run.setting.toolchain = other.setting.toolchain) (program : run.hashedProgram = other.hashedProgram)
    (noticed : ¬Unnoticed run other) : run.configuration.builder = other.configuration.builder := by
  unfold configuration
  dsimp only
  rw [← toolchain]
  cases given : run.setting.toolchain with
  | externalCompiler compiler flags =>
    obtain ⟨regular, regularOther⟩ := not_not.mp fun irregular => noticed (.irregularCompiler compiler flags given irregular)
    rw [hashedProgram_compiler given regular, hashedProgram_compiler (toolchain ▸ given) regularOther] at program
    dsimp only
    rw [program]
  | projectBuildCommand commandTemplate outputTemplate =>
    have launched := not_not.mp fun differs => noticed (.buildCommand commandTemplate outputTemplate given differs)
    dsimp only
    rw [launched]

/-- A difference that no identity shows is in m2c, in the program that a build command starts, in a compiler that is
no regular file, or in sources of which a context cannot be read or the function is not found by its name. -/
theorem unnoticed (differ : run.configuration ≠ other.configuration) (same : run.hashed = other.hashed) : Unnoticed run other := by
  by_contra noticed
  apply differ
  have toolchain : run.setting.toolchain = other.setting.toolchain := congrArg HashedView.toolchain same
  have program : run.hashedProgram = other.hashedProgram := congrArg HashedView.program same
  have target : run.configuration.target = other.configuration.target := congrArg HashedView.target same
  have m2cProgram := not_not.mp fun differs => noticed (.decompiler differs)
  have builder := builder_eq toolchain program noticed
  obtain ⟨named, otherNamed⟩ := not_not.mp fun renamed => noticed (.renamed renamed)
  obtain ⟨text, assembly, hashedText⟩ := named.text
  obtain ⟨otherText, otherAssembly, otherHashed⟩ := otherNamed.text
  have sources : run.hashed.sources = other.hashed.sources := congrArg HashedView.sources same
  cases sourceDigests run with
  | unread none _ _ => exact (noticed (.unread none)).elim
  | read contents _ read found _ _ =>
    cases sourceDigests other with
    | unread none _ _ =>
      rw [read_sources read found, none] at sources
      cases sources
    | read again _ readOther foundOther _ _ =>
      rw [read_sources read hashedText, read_sources readOther otherHashed] at sources
      cases sources
      have contexts := (readContexts_contents read).trans (readContexts_contents readOther).symm
      have assemblies := assembly.trans otherAssembly.symm
      cases one : run.configuration
      cases two : other.configuration
      rw [one, two] at target m2cProgram builder contexts assemblies
      rw [Configuration.mk.injEq]
      exact ⟨assemblies, contexts, m2cProgram, target, builder⟩

end VariantRun

/-- A machine with a compiler and m2c. -/
def sampleHost (m2c : Bytes) : Host where
  node := fun path =>
    if path = "/usr/local/bin/m2c" then some (.file (.ok m2c))
    else if path = "/usr/bin/psp-gcc" then some (.file (.ok [0x7F, 0x45, 0x4C, 0x46])) else none
  environ := fun _ => none
  which := fun _ => none
  executable := "/usr/bin/python3"
  pathText := id
  pathName := fun path => String.ofList ((path.toList.splitOn '/').getLastD [])
  suffix := fun path => String.ofList ((path.toList.dropWhile fun c => c ≠ '.').map Char.toLower)
  sibling := fun path name => String.ofList (List.intercalate ['/'] ((path.toList.splitOn '/').dropLast ++ [name.toList]))
  shlexSplit := fun text => .ok ((text.toList.splitOn ' ').map String.ofList)
  toml := fun _ => .error .decode
  launched := fun _ => none

/-- The digests of the assembly, of the compiler, and of two attempts for two targets. -/
def identityDigests : OrchestratorTools where
  reprText := fun text => s!"'{text}'"
  sha256Text := fun _ => "d00adbdfa1ec3877754e7bfd0a956fc62384863bdafa95a60c07330dc163f871"
  sha256Bytes := fun _ => "3bdbb4fe8397cd2b842430b39ccff01a8663c751945ef5e9a09e267fb8b1d359"
  attemptId := fun payload => if payload.target = "mipsel-gcc-c" then "5692cc96f4b90466" else "97a1e69b2ecbc9f0"

def sampleSetting (m2c : Bytes) (target : String) : RunSetting where
  host := sampleHost m2c
  projects := sampleProjects [sampleEntry "func_08804000" 0x08804000]
  m2cPath := some "/usr/local/bin/m2c"
  contexts := []
  target := target
  toolchain := .externalCompiler "/usr/bin/psp-gcc" ["-O2"]
  options := exactInputs

def sampleMet (m2c : Bytes) (target : String) : RunInputs :=
  { (sampleSetting m2c target).known identityDigests asciiReaders asciiTools (sampleQueued samplePending) with
    m2cVersion := none
    toolchainIdentity := (BuildToolchain.externalCompiler "/usr/bin/psp-gcc" ["-O2"]).describe
      (some "3bdbb4fe8397cd2b842430b39ccff01a8663c751945ef5e9a09e267fb8b1d359") }

theorem sampleMet_inputs (m2c : Bytes) (target : String) : (sampleSetting m2c target).inputs identityDigests asciiReaders
    asciiTools (sampleQueued samplePending) = .ok (sampleMet m2c target) := by
  have found : resolveM2cCommand (sampleHost m2c) (some "/usr/local/bin/m2c") = .ok ["/usr/local/bin/m2c"] := rfl
  have probed : probeM2cVersion (sampleHost m2c) ["/usr/local/bin/m2c"] = .ok none := rfl
  exact RunSetting.inputs_ok found probed rfl

def sampleVariantRun (m2c : Bytes) (target : String) :
    VariantRun identityDigests asciiReaders asciiTools (sampleQueued samplePending) where
  setting := sampleSetting m2c target
  inputs := sampleMet m2c target
  command := ["/usr/local/bin/m2c"]
  variant := ⟨"default", [], target⟩
  payload := attemptPayload (sampleMet m2c target) (sampleQueued samplePending) ["/usr/local/bin/m2c"] ⟨"default", [], target⟩ []
    "d00adbdfa1ec3877754e7bfd0a956fc62384863bdafa95a60c07330dc163f871"
  met := sampleMet_inputs m2c target
  found := rfl
  listed := List.mem_cons_self
  identified := rfl

/-- Runs on the same assembly with the same compiler hash the same texts and files. -/
theorem sampleNoCollision {m2c other : Bytes} {target otherTarget : String}
    (ids : (sampleVariantRun m2c target).id = (sampleVariantRun other otherTarget).id → target = otherTarget) :
    VariantRun.NoCollision (sampleVariantRun m2c target) (sampleVariantRun other otherTarget) := by
  refine ⟨fun same => ?_, fun text again found foundAgain _ => ?_, fun contents again read readAgain _ => ?_,
    fun contents again found foundAgain _ => ?_, fun _ => ?_⟩
  · rw [ids same]
    exact ⟨rfl, rfl, rfl, rfl, rfl, rfl, rfl, fun _ => rfl⟩
  · exact Except.ok.inj (found.symm.trans foundAgain)
  · cases read
    cases readAgain
    rfl
  · exact Option.some.inj (found.symm.trans foundAgain)
  · show "d00adbdfa1ec3877754e7bfd0a956fc62384863bdafa95a60c07330dc163f871" ≠ "unavailable"
    decide

/-- Another target gives another attempt. -/
theorem retargeted_noticed :
    (sampleVariantRun [0x01] "mipsel-gcc-c").id ≠ (sampleVariantRun [0x01] "mips-ido-c").id ∧
      VariantRun.Reattempts (sampleVariantRun [0x01] "mips-ido-c") (sampleVariantRun [0x01] "mipsel-gcc-c").id := by
  have apart : (sampleVariantRun [0x01] "mipsel-gcc-c").id ≠ (sampleVariantRun [0x01] "mips-ido-c").id := by decide
  have targets : (sampleVariantRun [0x01] "mipsel-gcc-c").hashed.target ≠ (sampleVariantRun [0x01] "mips-ido-c").hashed.target := by
    decide
  refine (VariantRun.notices_iff (sampleNoCollision fun same => absurd same apart) rfl).mpr ?_ fun same => ?_
  · exact fun unnoticed => targets (congrArg HashedView.target unnoticed.2)
  · exact absurd (congrArg Configuration.target same) (by decide)

/-- Another m2c in the place of the old one gives the same attempt, which is passed over. -/
theorem replacedDecompiler_unnoticed : ¬∀ tools readers store queued (run other : VariantRun tools readers store queued),
    VariantRun.NoCollision run other → other.inputs.force = false → run.configuration ≠ other.configuration →
    run.id ≠ other.id ∧ VariantRun.Reattempts other run.id := by
  intro claim
  have noticed := claim _ _ _ _ (sampleVariantRun [0x01] "mipsel-gcc-c") (sampleVariantRun [0x02] "mipsel-gcc-c")
    (sampleNoCollision fun _ => rfl) rfl fun same => absurd (congrArg Configuration.m2cProgram same) (by decide)
  exact noticed.1 rfl

end PspDisasm
