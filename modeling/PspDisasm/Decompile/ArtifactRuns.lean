import PspDisasm.Decompile.AttemptArtifacts
import PspDisasm.Decompile.Attempts

namespace PspDisasm
open Foundations

/-- A turn of a call in which the tools are called for a variant, with the attempts and the disk before it. -/
structure ToolTurn where
  options : CallOptions
  queued : QueuedFunction
  attempts : List DecompilationAttempt
  variant : RetryVariant
  id : String
  disk : ProjectDisk

namespace ToolTurn
variable (site : ToolSite) (turn : ToolTurn)

def answers : ToolSite.ToolAnswers := site.callTools turn.options turn.queued turn.variant turn.id turn.disk

def candidatePath : String := site.attemptPath turn.queued .candidates turn.id ".c"

def objectPath : String := site.attemptPath turn.queued .objects turn.id ".o"

/-- The tools do for the files of an earlier attempt what they did then. -/
structure Repeats (earlier : DecompilationAttempt) : Prop where
  candidate : earlier.artifact "candidate_c" = some (turn.candidatePath site) → ∀ decompilation,
    (turn.answers site).decompiled = .ok decompilation →
      earlier.candidateSha256 = some (site.digests.sha256Bytes decompilation.output)
  object : earlier.artifact "object" = some (turn.objectPath site) → ∀ decompilation,
    (turn.answers site).decompiled = .ok decompilation →
      ∃ built, (turn.answers site).compiled = .ok built ∧ earlier.objectSha256 = some built.objectSha256
  score : earlier.artifact "object" = some (turn.objectPath site) → ∀ result,
    (turn.answers site).matched = .ok result → earlier.matchRawScore = some result.rawScore

/-- An object is compared only when no other object was compared for the same stem. -/
def ComparesAlone (known : DecompilationAttempt → Prop) : Prop :=
  ∀ result, (turn.answers site).matched = .ok result → ∀ earlier, known earlier →
    earlier.artifact "match_metadata" = some result.metadataPath → earlier.artifact "object" = some (turn.objectPath site)

end ToolTurn

/-- An attempt with the files that it names. -/
structure ArtifactsSound (site : ToolSite) (project : String) (disk : ProjectDisk) (attempt : DecompilationAttempt) : Prop where
  placed : ArtifactsPlaced project attempt
  kept : ArtifactsKept site project disk attempt

section Turns
variable {site : ToolSite} {turn : ToolTurn} {earlier attempt : DecompilationAttempt}

/-- A turn leaves the files of an earlier attempt, when the tools repeat what they did for it, and when its metadata
are not written for another object. -/
theorem ArtifactsSound.after (sound : ArtifactsSound site (projectDirectory site.store turn.queued) turn.disk earlier)
    (repeats : turn.Repeats site earlier)
    (alone : ∀ result, (turn.answers site).matched = .ok result →
      earlier.artifact "match_metadata" = some result.metadataPath → earlier.artifact "object" = some (turn.objectPath site)) :
    ArtifactsSound site (projectDirectory site.store turn.queued) (turn.answers site).disk earlier := by
  have effect : ToolSite.CallEffect site turn.queued turn.id turn.disk (turn.answers site) :=
    ToolSite.callEffect site turn.options turn.queued turn.variant turn.id turn.disk
  refine ⟨sound.placed, fun path named => ?_, fun path named => ?_, fun path named => ?_⟩
  · obtain ⟨name, rfl⟩ := sound.placed.candidate path named
    by_cases own : ∃ decompilation, (turn.answers site).decompiled = .ok decompilation ∧
        artifactPath (projectDirectory site.store turn.queued) .candidates name = turn.candidatePath site
    · obtain ⟨decompilation, decompiled, same⟩ := own
      rw [same] at named ⊢
      exact ⟨_, (effect.candidate decompilation decompiled).2, repeats.candidate named decompilation decompiled⟩
    · rw [effect.candidates name fun decompilation decompiled same => own ⟨decompilation, decompiled, same⟩]
      exact sound.kept.candidate _ named
  · obtain ⟨name, rfl⟩ := sound.placed.object path named
    by_cases own : ∃ decompilation, (turn.answers site).decompiled = .ok decompilation ∧
        artifactPath (projectDirectory site.store turn.queued) .objects name = turn.objectPath site
    · obtain ⟨decompilation, decompiled, same⟩ := own
      rw [same] at named ⊢
      obtain ⟨built, compiled, digest⟩ := repeats.object named decompilation decompiled
      obtain ⟨_, _, file, found, hashed⟩ := effect.object built compiled
      exact ⟨file, found, digest.trans (congrArg some hashed)⟩
    · rw [effect.objects name fun decompilation decompiled same => own ⟨decompilation, decompiled, same⟩]
      exact sound.kept.object _ named
  · obtain ⟨name, rfl⟩ := sound.placed.metadata path named
    by_cases own : ∃ result, (turn.answers site).matched = .ok result ∧
        result.metadataPath = artifactPath (projectDirectory site.store turn.queued) .matching name
    · obtain ⟨result, matched, same⟩ := own
      rw [← same] at named ⊢
      have object := alone result matched named
      obtain ⟨_, comparison, _, score, found⟩ := effect.metadata result matched
      refine ⟨_, _, found, ?_, ToolSite.matchMetadata_object, ?_⟩
      · rw [ToolSite.matchMetadata_score, repeats.score object result matched, score]
      · rw [object]
        exact congrArg some artifactPath_relative.symm
    · rw [effect.matching name fun result matched same => own ⟨result, matched, same⟩]
      exact sound.kept.metadata _ named

/-- A comparison for another object takes the metadata away from an earlier attempt. -/
theorem ArtifactsKept.overwritten {result : MatchResult} (matched : (turn.answers site).matched = .ok result)
    (named : earlier.artifact "match_metadata" = some result.metadataPath)
    (other : earlier.artifact "object" ≠ some (turn.objectPath site)) :
    ¬ArtifactsKept site (projectDirectory site.store turn.queued) (turn.answers site).disk earlier := by
  have effect : ToolSite.CallEffect site turn.queued turn.id turn.disk (turn.answers site) :=
    ToolSite.callEffect site turn.options turn.queued turn.variant turn.id turn.disk
  intro kept
  obtain ⟨file, relative, found, _, recorded, object⟩ := kept.metadata _ named
  obtain ⟨_, comparison, _, _, written⟩ := effect.metadata result matched
  cases found.symm.trans written
  cases recorded.symm.trans ToolSite.matchMetadata_object
  exact other (object.trans (congrArg some artifactPath_relative))

/-- How far the tools have come with an attempt. -/
inductive AttemptFiles (tools : OrchestratorTools) (inputs : RunInputs) (variant : RetryVariant) (attempt : DecompilationAttempt) : Prop
  | none : attempt.artifactPaths = [] → AttemptFiles tools inputs variant attempt
  | candidate (decompilation : DecompilationResult) : inputs.decompile variant = .ok decompilation →
      attempt.artifactPaths = [("candidate_c", decompilation.outputPath)] →
      attempt.candidateSha256 = some (tools.sha256Bytes decompilation.output) → AttemptFiles tools inputs variant attempt
  | object (decompilation : DecompilationResult) (built : BuildResult) : inputs.decompile variant = .ok decompilation →
      inputs.compile variant = .ok built →
      attempt.artifactPaths = [("candidate_c", decompilation.outputPath), ("object", built.outputPath)] →
      attempt.candidateSha256 = some (tools.sha256Bytes decompilation.output) → attempt.objectSha256 = some built.objectSha256 →
      AttemptFiles tools inputs variant attempt
  | compared (decompilation : DecompilationResult) (built : BuildResult) (result : MatchResult) :
      inputs.decompile variant = .ok decompilation → inputs.compile variant = .ok built → inputs.matching variant = .ok result →
      attempt.artifactPaths = [("candidate_c", decompilation.outputPath), ("object", built.outputPath),
        ("match_metadata", result.metadataPath)] →
      attempt.candidateSha256 = some (tools.sha256Bytes decompilation.output) → attempt.objectSha256 = some built.objectSha256 →
      attempt.matchRawScore = some result.rawScore → AttemptFiles tools inputs variant attempt

theorem runOneAttempt_files {tools : OrchestratorTools} {inputs : RunInputs} {variant : RetryVariant} {base : DecompilationAttempt}
    (fresh : base.artifactPaths = []) (ran : runOneAttempt tools inputs base variant = .ok (some attempt)) :
    AttemptFiles tools inputs variant attempt := by
  unfold runOneAttempt at ran
  split at ran
  · cases ran
  · cases ran
  · cases ran
    exact .none fresh
  · rename_i decompilation decompiled
    split at ran
    · cases ran
    · cases ran
    · cases ran
      exact .candidate decompilation decompiled rfl rfl
    · rename_i built compiled
      split at ran
      · cases ran
      · cases ran
      · cases ran
        exact .object decompilation built decompiled compiled rfl rfl rfl
      · rename_i result matched
        cases ran
        exact .compared decompilation built result decompiled compiled matched rfl rfl rfl rfl

theorem artifactsPlaced_of_paths {project : String} (paths : ∀ item ∈ attempt.artifactPaths,
      (∃ name, item = ("candidate_c", artifactPath project .candidates name)) ∨
      (∃ name, item = ("object", artifactPath project .objects name)) ∨
      ∃ name, item = ("match_metadata", artifactPath project .matching name)) : ArtifactsPlaced project attempt := by
  refine ⟨fun path named => ?_, fun path named => ?_, fun path named => ?_⟩
  all_goals
    rcases paths _ (Dict.mem_of_get? named) with ⟨name, same⟩ | ⟨name, same⟩ | ⟨name, same⟩
    all_goals
      first
      | exact ⟨name, (Prod.mk.inj same).2⟩
      | exact absurd (Prod.mk.inj same).1 (by decide)

/-- An attempt that names no files. -/
theorem ArtifactsSound.none {project : String} {disk : ProjectDisk} (paths : attempt.artifactPaths = []) :
    ArtifactsSound site project disk attempt := by
  have unnamed : ∀ key path, attempt.artifact key ≠ some path := by
    intro key path named
    rw [DecompilationAttempt.artifact, paths] at named
    cases named
  exact ⟨artifactsPlaced_of_paths (by rw [paths]; exact List.forall_mem_nil _),
    fun _ named => absurd named (unnamed _ _), fun _ named => absurd named (unnamed _ _), fun _ named => absurd named (unnamed _ _)⟩

/-- The files of a new attempt are its own when the tools have ended. -/
theorem AttemptFiles.sound {inputs : RunInputs} (decompiled : inputs.decompile turn.variant = (turn.answers site).decompiled)
    (compiled : inputs.compile turn.variant = (turn.answers site).compiled)
    (matched : inputs.matching turn.variant = (turn.answers site).matched)
    (files : AttemptFiles site.digests inputs turn.variant attempt) :
    ArtifactsSound site (projectDirectory site.store turn.queued) (turn.answers site).disk attempt := by
  have effect : ToolSite.CallEffect site turn.queued turn.id turn.disk (turn.answers site) :=
    ToolSite.callEffect site turn.options turn.queued turn.variant turn.id turn.disk
  cases files with
  | none paths => exact .none paths
  | candidate decompilation ran paths digest =>
    obtain ⟨place, found⟩ := effect.candidate decompilation (decompiled ▸ ran)
    refine ⟨artifactsPlaced_of_paths ?_, fun path named => ?_, fun path named => ?_, fun path named => ?_⟩
    · rw [paths, place]
      exact List.forall_mem_singleton.mpr (Or.inl ⟨_, rfl⟩)
    · rw [DecompilationAttempt.artifact, paths, place] at named
      cases named
      exact ⟨_, found, digest⟩
    · rw [DecompilationAttempt.artifact, paths] at named
      cases named
    · rw [DecompilationAttempt.artifact, paths] at named
      cases named
  | object decompilation built ran builtOk paths digest objectDigest =>
    obtain ⟨place, found⟩ := effect.candidate decompilation (decompiled ▸ ran)
    obtain ⟨_, objectPlace, file, object, hashed⟩ := effect.object built (compiled ▸ builtOk)
    refine ⟨artifactsPlaced_of_paths ?_, fun path named => ?_, fun path named => ?_, fun path named => ?_⟩
    · rw [paths, place, objectPlace]
      exact List.forall_mem_cons.mpr ⟨Or.inl ⟨_, rfl⟩, List.forall_mem_singleton.mpr (Or.inr (Or.inl ⟨_, rfl⟩))⟩
    · rw [DecompilationAttempt.artifact, paths, place] at named
      cases named
      exact ⟨_, found, digest⟩
    · rw [DecompilationAttempt.artifact, paths, objectPlace] at named
      cases named
      exact ⟨file, object, objectDigest.trans (congrArg some hashed)⟩
    · rw [DecompilationAttempt.artifact, paths] at named
      cases named
  | compared decompilation built result ran builtOk resultOk paths digest objectDigest score =>
    obtain ⟨place, found⟩ := effect.candidate decompilation (decompiled ▸ ran)
    obtain ⟨_, objectPlace, file, object, hashed⟩ := effect.object built (compiled ▸ builtOk)
    obtain ⟨_, comparison, metadataPlace, compared, metadata⟩ := effect.metadata result (matched ▸ resultOk)
    refine ⟨artifactsPlaced_of_paths ?_, fun path named => ?_, fun path named => ?_, fun path named => ?_⟩
    · rw [paths, place, objectPlace, metadataPlace]
      exact List.forall_mem_cons.mpr ⟨Or.inl ⟨_, rfl⟩, List.forall_mem_cons.mpr ⟨Or.inr (Or.inl ⟨_, rfl⟩),
        List.forall_mem_singleton.mpr (Or.inr (Or.inr ⟨_, rfl⟩))⟩⟩
    · rw [DecompilationAttempt.artifact, paths, place] at named
      cases named
      exact ⟨_, found, digest⟩
    · rw [DecompilationAttempt.artifact, paths, objectPlace] at named
      cases named
      exact ⟨file, object, objectDigest.trans (congrArg some hashed)⟩
    · rw [DecompilationAttempt.artifact, paths] at named
      cases named
      refine ⟨_, _, metadata, ?_, ToolSite.matchMetadata_object, ?_⟩
      · rw [ToolSite.matchMetadata_score, score, compared]
      · rw [DecompilationAttempt.artifact, paths]
        exact congrArg some (objectPlace.trans artifactPath_relative.symm)

/-- Only an attempt for which the tools are called names files. -/
theorem runVariant_files {tools : OrchestratorTools} {inputs : RunInputs} {queued : QueuedFunction} {command : List String}
    {attempts : List DecompilationAttempt} {variant : RetryVariant}
    (ran : runVariant tools inputs queued command attempts variant = .ok (.added attempt)) :
    AttemptFiles tools inputs variant attempt ∧ (attempt.artifactPaths = [] ∨
      ∀ id, variantId tools inputs queued command variant = .ok id → ToolSite.callsTools inputs attempts variant id = true) := by
  unfold runVariant at ran
  cases read : variant.contexts.mapM inputs.contextSha256 with
  | error reason =>
    rw [read] at ran
    dsimp only at ran
    split at ran
    · cases ran
    · cases ran
      exact ⟨.none rfl, Or.inl rfl⟩
  | ok digests =>
    rw [read] at ran
    obtain ⟨assembly, text, rest⟩ := bind_ok.mp ran
    dsimp only at rest
    split at rest
    · cases rest
    · rename_i due
      obtain ⟨result, attempted, last⟩ := bind_ok.mp rest
      cases result with
      | none => cases last
      | some made =>
        cases last
        refine ⟨runOneAttempt_files rfl attempted, Or.inr fun id identified => ?_⟩
        have known : id = (baseAttempt tools inputs queued command variant digests (tools.sha256Text assembly)).attemptId := by
          unfold variantId at identified
          rw [read, text] at identified
          exact (Except.ok.inj identified).symm
        unfold ToolSite.callsTools
        rw [read, known]
        rcases not_and_or.mp due with fresh | forced
        · simp only [Except.toOption, Option.isSome_some, Bool.true_and, Bool.or_eq_true, decide_eq_true_eq]
          exact Or.inr fresh
        · simp only [Except.toOption, Option.isSome_some, Bool.true_and, Bool.or_eq_true]
          exact Or.inl (not_not.mp forced)

end Turns

section Loop
variable (site : ToolSite) (options : CallOptions) (queued : QueuedFunction) (inputs : RunInputs) (command : List String)

/-- From these attempts, variants and disk, the loop comes to a turn in which the tools are called. -/
inductive ReachesTurn : List DecompilationAttempt → List RetryVariant → ProjectDisk → ToolTurn → Prop
  | here {attempts variant rest disk id} : variantId site.digests inputs queued command variant = .ok id →
      ToolSite.callsTools inputs attempts variant id = true →
      ReachesTurn attempts (variant :: rest) disk ⟨options, queued, attempts, variant, id, disk⟩
  | skipped {attempts variant rest disk next turn} :
      site.runVariant options queued inputs command attempts variant disk = (.ok .skipped, next) →
      ReachesTurn attempts rest next turn → ReachesTurn attempts (variant :: rest) disk turn
  | inexact {attempts variant rest disk next attempt turn} :
      site.runVariant options queued inputs command attempts variant disk = (.ok (.added attempt), next) →
      attempt.matchExact ≠ some true → ReachesTurn (attempts ++ [attempt]) rest next turn →
      ReachesTurn attempts (variant :: rest) disk turn

variable {site options queued inputs command} {attempts : List DecompilationAttempt} {variant : RetryVariant}
  {variants : List RetryVariant} {disk after : ProjectDisk} {others : DecompilationAttempt → Prop}

/-- A turn in which the tools do what they did before, and compare an object alone, keeps the files of all attempts. -/
theorem runVariant_sound {ending : Except DecompileFailure VariantEnd}
    (sound : ∀ earlier, others earlier ∨ earlier ∈ attempts →
      ArtifactsSound site (projectDirectory site.store queued) disk earlier)
    (turns : ∀ id, variantId site.digests inputs queued command variant = .ok id →
      ToolSite.callsTools inputs attempts variant id = true →
      (∀ earlier, others earlier ∨ earlier ∈ attempts →
        ToolTurn.Repeats site ⟨options, queued, attempts, variant, id, disk⟩ earlier) ∧
      ToolTurn.ComparesAlone site ⟨options, queued, attempts, variant, id, disk⟩ fun earlier => others earlier ∨ earlier ∈ attempts)
    (ran : site.runVariant options queued inputs command attempts variant disk = (ending, after)) :
    (∀ earlier, others earlier ∨ earlier ∈ attempts → ArtifactsSound site (projectDirectory site.store queued) after earlier) ∧
      ∀ attempt, ending = .ok (.added attempt) → ArtifactsSound site (projectDirectory site.store queued) after attempt := by
  unfold ToolSite.runVariant at ran
  split at ran
  · obtain ⟨rfl, rfl⟩ := Prod.mk.inj ran
    refine ⟨sound, fun attempt added => ?_⟩
    cases added
  · rename_i id identified
    obtain ⟨result, rfl⟩ := Prod.mk.inj ran
    by_cases called : ToolSite.callsTools inputs attempts variant id = true
    · obtain ⟨repeats, alone⟩ := turns id identified called
      rw [if_pos called]
      refine ⟨fun earlier known => (sound earlier known).after (repeats earlier known) fun matched ok named =>
        alone matched ok earlier known named, fun attempt added => ?_⟩
      rw [← result] at added
      have files := (runVariant_files added).1
      exact @AttemptFiles.sound site ⟨options, queued, attempts, variant, id, disk⟩ attempt _ rfl rfl rfl files
    · rw [if_neg called]
      refine ⟨sound, fun attempt added => ?_⟩
      rw [← result] at added
      exact .none ((runVariant_files added).2.resolve_right fun always => called (always id identified))

/-- Whatever the loop comes to, the files of the attempts before it and of its own attempts are theirs at its end. -/
theorem runVariants_sound {ending : Except DecompileFailure LoopEnd}
    (sound : ∀ earlier, others earlier ∨ earlier ∈ attempts →
      ArtifactsSound site (projectDirectory site.store queued) disk earlier)
    (turns : ∀ turn, ReachesTurn site options queued inputs command attempts variants disk turn →
      (∀ earlier, others earlier ∨ earlier ∈ turn.attempts → turn.Repeats site earlier) ∧
      turn.ComparesAlone site fun earlier => others earlier ∨ earlier ∈ turn.attempts)
    (ran : site.runVariants options queued inputs command attempts variants disk = (ending, after)) :
    (∀ earlier, others earlier ∨ earlier ∈ attempts → ArtifactsSound site (projectDirectory site.store queued) after earlier) ∧
      ∀ last, ending = .ok last → ∀ attempt ∈ last.attempts, ArtifactsSound site (projectDirectory site.store queued) after attempt := by
  induction variants generalizing attempts disk with
  | nil =>
    obtain ⟨rfl, rfl⟩ := Prod.mk.inj ran
    refine ⟨sound, fun last ended attempt member => ?_⟩
    cases ended
    exact sound attempt (Or.inr member)
  | cons variant rest ih =>
    rw [ToolSite.runVariants] at ran
    obtain ⟨result, next, turn⟩ : ∃ result next, site.runVariant options queued inputs command attempts variant disk = (result, next) :=
      ⟨_, _, rfl⟩
    obtain ⟨kept, added⟩ := runVariant_sound sound (fun id identified called => turns _ (.here identified called)) turn
    rw [turn] at ran
    cases result with
    | error failure =>
      obtain ⟨rfl, rfl⟩ := Prod.mk.inj ran
      refine ⟨kept, fun last ended => ?_⟩
      cases ended
    | ok variantEnd =>
      cases variantEnd with
      | skipped => exact ih kept (fun later reached => turns later (.skipped turn reached)) ran
      | missing =>
        obtain ⟨rfl, rfl⟩ := Prod.mk.inj ran
        refine ⟨kept, fun last ended attempt member => ?_⟩
        cases ended
        exact kept attempt (Or.inr member)
      | added made =>
        have grown : ∀ earlier, others earlier ∨ earlier ∈ attempts ++ [made] →
            ArtifactsSound site (projectDirectory site.store queued) next earlier := by
          rintro earlier (other | member)
          · exact kept earlier (Or.inl other)
          · rcases List.mem_append.mp member with old | new
            · exact kept earlier (Or.inr old)
            · rw [List.mem_singleton.mp new]
              exact added made rfl
        by_cases exact : made.matchExact = some true
        · simp only [if_pos exact] at ran
          obtain ⟨rfl, rfl⟩ := Prod.mk.inj ran
          refine ⟨kept, fun last ended attempt member => ?_⟩
          cases ended
          exact grown attempt (Or.inr member)
        · simp only [if_neg exact] at ran
          obtain ⟨later, own⟩ := ih grown (fun turned reached => turns turned (.inexact turn exact reached)) ran
          exact ⟨fun earlier known => later earlier (known.imp_right (List.mem_append_left _)), own⟩

theorem ReachesTurn.queued_eq {turn : ToolTurn} (reached : ReachesTurn site options queued inputs command attempts variants disk turn) :
    turn.queued = queued := by
  induction reached with
  | here _ _ => rfl
  | skipped _ _ ih => exact ih
  | inexact _ _ _ ih => exact ih

end Loop

theorem loopEnd_history (loopEnd : LoopEnd) (queued : QueuedFunction) :
    (loopEnd.state queued).attemptHistory = loopEnd.attempts := by
  cases loopEnd <;> rfl

section Runs
variable (site : ToolSite)

def ToolSite.projectPath (projectDir : String) : String := s!"{site.store.workspaceDir}/analysis/game_project/{projectDir}"

/-- The attempts that are recorded in a turn: those of its function, and those of the others. -/
def knownAttempts (histories : String → List DecompilationAttempt) (turn : ToolTurn) (earlier : DecompilationAttempt) : Prop :=
  (∃ function ≠ turn.queued.function, earlier ∈ histories function) ∨ earlier ∈ turn.attempts

/-- The histories after a call. A call that raises records nothing. -/
def recordCall (histories : String → List DecompilationAttempt) (function : String) :
    Except RunFailure FunctionDecompilationState → String → List DecompilationAttempt
  | .ok state => Function.update histories function state.attemptHistory
  | .error _ => histories

/-- The turns of a call in which the tools are called. -/
def CallTurn (options : CallOptions) (queued : QueuedFunction) (disk : ProjectDisk) (turn : ToolTurn) : Prop :=
  ∃ inputs command, (site.setting options queued).inputs site.digests site.readers site.store queued = .ok inputs ∧
    inputs.m2cCommand = .ok command ∧
    ReachesTurn site options queued inputs command queued.state.attemptHistory inputs.variants disk turn

/-- The runs of calls on the functions of one project, from empty histories on, with tools that repeat what they do:
the disk, and the history of each function. -/
inductive ProjectRun (projectDir : String) (allowed : (DecompilationAttempt → Prop) → ToolTurn → Prop) :
    ProjectDisk → (String → List DecompilationAttempt) → Prop
  | start (disk : ProjectDisk) : ProjectRun projectDir allowed disk fun _ => []
  | call {disk histories options queued result after} : ProjectRun projectDir allowed disk histories →
      queued.projectDir = projectDir → queued.state.attemptHistory = histories queued.function →
      (∀ turn, CallTurn site options queued disk turn → ∀ earlier, knownAttempts histories turn earlier → turn.Repeats site earlier) →
      (∀ turn, CallTurn site options queued disk turn → allowed (knownAttempts histories turn) turn) →
      site.runFunction options queued disk = (result, after) →
      ProjectRun projectDir allowed after (recordCall histories queued.function result)

variable {site} {options : CallOptions} {queued : QueuedFunction} {disk after : ProjectDisk}

/-- A call whose turns compare alone keeps the files of all attempts. -/
theorem runFunction_sound {histories : String → List DecompilationAttempt} {result : Except RunFailure FunctionDecompilationState}
    (sound : ∀ function, ∀ attempt ∈ histories function, ArtifactsSound site (projectDirectory site.store queued) disk attempt)
    (current : queued.state.attemptHistory = histories queued.function)
    (repeats : ∀ turn, CallTurn site options queued disk turn →
      ∀ earlier, knownAttempts histories turn earlier → turn.Repeats site earlier)
    (alone : ∀ turn, CallTurn site options queued disk turn → turn.ComparesAlone site (knownAttempts histories turn))
    (ran : site.runFunction options queued disk = (result, after)) :
    ∀ function, ∀ attempt ∈ recordCall histories queued.function result function,
      ArtifactsSound site (projectDirectory site.store queued) after attempt := by
  have unchanged : ∀ state : FunctionDecompilationState, state.attemptHistory = queued.state.attemptHistory →
      ∀ function, ∀ attempt ∈ recordCall histories queued.function (.ok state) function,
        ArtifactsSound site (projectDirectory site.store queued) disk attempt := by
    intro state same function attempt member
    rw [recordCall, same, current, Function.update_eq_self] at member
    exact sound function attempt member
  unfold ToolSite.runFunction at ran
  dsimp only at ran
  split at ran
  · obtain ⟨rfl, rfl⟩ := Prod.mk.inj ran
    exact sound
  · obtain ⟨rfl, rfl⟩ := Prod.mk.inj ran
    exact sound
  · split at ran
    · obtain ⟨rfl, rfl⟩ := Prod.mk.inj ran
      exact sound
    · rename_i inputs met
      split at ran
      · obtain ⟨rfl, rfl⟩ := Prod.mk.inj ran
        exact unchanged _ rfl
      · rename_i command found
        obtain ⟨ending, last, loop⟩ : ∃ ending last, site.runVariants options queued inputs command queued.state.attemptHistory
            inputs.variants disk = (ending, last) := ⟨_, _, rfl⟩
        have known : ∀ earlier, (∃ function ≠ queued.function, earlier ∈ histories function) ∨ earlier ∈ queued.state.attemptHistory →
            ArtifactsSound site (projectDirectory site.store queued) disk earlier := by
          rintro earlier (⟨function, _, member⟩ | member)
          · exact sound function earlier member
          · exact sound queued.function earlier (current ▸ member)
        obtain ⟨kept, own⟩ := runVariants_sound known (fun turn reached => by
          have turned : CallTurn site options queued disk turn := ⟨inputs, command, met, found, reached⟩
          have repeatsAll := repeats turn turned
          have aloneAll := alone turn turned
          unfold knownAttempts at repeatsAll aloneAll
          rw [reached.queued_eq] at repeatsAll aloneAll
          exact ⟨repeatsAll, aloneAll⟩) loop
        rw [loop] at ran
        have before : ∀ function, ∀ attempt ∈ histories function, ArtifactsSound site (projectDirectory site.store queued) last attempt := by
          intro function attempt member
          by_cases same : function = queued.function
          · subst same
            exact kept attempt (Or.inr (current ▸ member))
          · exact kept attempt (Or.inl ⟨function, same, member⟩)
        cases ending with
        | error failure =>
          obtain ⟨rfl, rfl⟩ := Prod.mk.inj ran
          exact before
        | ok loopEnd =>
          obtain ⟨rfl, rfl⟩ := Prod.mk.inj ran
          intro function attempt member
          rw [recordCall, loopEnd_history] at member
          by_cases same : function = queued.function
          · rw [same, Function.update_self] at member
            exact own loopEnd rfl attempt member
          · rw [Function.update_of_ne same] at member
            exact before function attempt member

end Runs

section Sample

/-- Digests of attempts with and without contexts. -/
def artifactDigests : OrchestratorTools :=
  { identityDigests with attemptId := fun payload => if payload.contextSha256 = [] then "5692cc96f4b90466" else "97a1e69b2ecbc9f0" }

def artifactNode (path : String) : Option HostNode :=
  if path ∈ ["/usr/local/bin/m2c", "/usr/bin/psp-gcc", "/usr/bin/asm-differ", "/usr/bin/objdump", "types.h"] then
    some (.file (.ok [0x01]))
  else none

/-- A machine with m2c, a compiler, asm-differ, objdump and a header, whose comparisons all find five differences. -/
def artifactSite : ToolSite where
  digests := artifactDigests
  readers := asciiReaders
  store := asciiTools
  host := { sampleHost [0x01] with node := artifactNode }
  projects := sampleProjects [sampleEntry "func_08804000" 0x08804000]
  references := none
  m2c := fun _ _ => .ok ⟨0, "void func_08804000(void) { }", ""⟩
  compiler := fun _ _ => (.ok ⟨0, "", ""⟩, .written [0x7F, 0x45, 0x4C, 0x46])
  asmDiffer := fun _ _ _ _ => .ok ⟨0, "comparison", ""⟩
  unknownInstructions := fun _ => []
  strip := id
  split := fun text => [text]
  formatGeneral := fun _ => "120"
  similarity := fun _ _ => 50
  loads := fun _ => .ok (.obj [("current_score", .int 5), ("max_score", .int 10), ("rows", .arr [])])
  parentSibling := fun _ name => name
  dumps := fun _ => []

def artifactOptions (maxAttempts : Int) : CallOptions where
  m2cPath := some "/usr/local/bin/m2c"
  contexts := ["types.h"]
  target := "mipsel-gcc-c"
  compiler := "/usr/bin/psp-gcc"
  flags := ["-O2"]
  asmDifferPath := some "/usr/bin/asm-differ"
  objdumpPath := some "/usr/bin/objdump"
  maxAttempts := maxAttempts
  force := false
  timeout := 120

def artifactCall (maxAttempts : Int) : Except RunFailure FunctionDecompilationState × ProjectDisk :=
  artifactSite.runFunction (artifactOptions maxAttempts) (sampleQueued samplePending) fun _ => none

def sampleHistory (maxAttempts : Int) : String → List DecompilationAttempt :=
  recordCall (fun _ => []) "func_08804000" (artifactCall maxAttempts).1

def addedArtifact (key : String) : Except DecompileFailure VariantEnd × ProjectDisk → Option String
  | (.ok (.added attempt), _) => attempt.artifact key
  | _ => none

def artifactCommand : List String := ["/usr/local/bin/m2c"]

def artifactInputs (maxAttempts : Int) : RunInputs :=
  { (artifactSite.setting (artifactOptions maxAttempts) (sampleQueued samplePending)).known artifactDigests asciiReaders asciiTools
      (sampleQueued samplePending) with
    m2cVersion := none
    toolchainIdentity := (BuildToolchain.externalCompiler "/usr/bin/psp-gcc" ["-O2"]).describe
      (some "3bdbb4fe8397cd2b842430b39ccff01a8663c751945ef5e9a09e267fb8b1d359") }

theorem artifactInputs_met (maxAttempts : Int) :
    (artifactSite.setting (artifactOptions maxAttempts) (sampleQueued samplePending)).inputs artifactDigests asciiReaders asciiTools
      (sampleQueued samplePending) = .ok (artifactInputs maxAttempts) := by
  have found : resolveM2cCommand artifactSite.host (some "/usr/local/bin/m2c") = .ok artifactCommand := rfl
  have probed : probeM2cVersion artifactSite.host artifactCommand = .ok none := rfl
  exact RunSetting.inputs_ok found probed rfl

theorem sampleTurn {maxAttempts : Int} {disk : ProjectDisk} {turn : ToolTurn}
    (turned : CallTurn artifactSite (artifactOptions maxAttempts) (sampleQueued samplePending) disk turn) :
    ReachesTurn artifactSite (artifactOptions maxAttempts) (sampleQueued samplePending) (artifactInputs maxAttempts) artifactCommand []
      (artifactInputs maxAttempts).variants disk turn := by
  obtain ⟨inputs, command, met, found, reached⟩ := turned
  cases met.symm.trans (artifactInputs_met maxAttempts)
  have known : (artifactInputs maxAttempts).m2cCommand = .ok artifactCommand := rfl
  cases found.symm.trans known
  exact reached

theorem knownAttempts_nil {turn : ToolTurn} {earlier : DecompilationAttempt} (known : knownAttempts (fun _ => []) turn earlier) :
    earlier ∈ turn.attempts := by
  rcases known with ⟨_, _, member⟩ | member
  · cases member
  · exact member

/-- A call with one attempt compares alone. -/
theorem sampleRun_alone : ProjectRun artifactSite "modules/eboot" (fun known turn => turn.ComparesAlone artifactSite known)
    (artifactCall 1).2 (sampleHistory 1) := by
  have first : ∀ turn, CallTurn artifactSite (artifactOptions 1) (sampleQueued samplePending) (fun _ => none) turn →
      ∀ earlier, ¬knownAttempts (fun _ => []) turn earlier := by
    intro turn turned earlier known
    have reached := sampleTurn turned
    have single : (artifactInputs 1).variants = [⟨"default", [], "mipsel-gcc-c"⟩] := rfl
    rw [single] at reached
    have member := knownAttempts_nil known
    cases reached with
    | here _ _ => cases member
    | skipped _ later => cases later
    | inexact _ _ later => cases later
  exact .call (.start _) rfl rfl (fun turn turned earlier known => absurd known (first turn turned earlier))
    (fun turn turned result _ earlier known => absurd known (first turn turned earlier)) rfl

/-- The second of two attempts has other places for its candidate and its object. -/
theorem sampleRepeats : ∀ turn, CallTurn artifactSite (artifactOptions 2) (sampleQueued samplePending) (fun _ => none) turn →
    ∀ earlier, knownAttempts (fun _ => []) turn earlier → turn.Repeats artifactSite earlier := by
  intro turn turned earlier known
  have reached := sampleTurn turned
  have two : (artifactInputs 2).variants = [⟨"default", [], "mipsel-gcc-c"⟩, ⟨"with_context", ["types.h"], "mipsel-gcc-c"⟩] := rfl
  rw [two] at reached
  have member := knownAttempts_nil known
  cases reached with
  | here _ _ => cases member
  | skipped ran later =>
    have added : addedArtifact "candidate_c" (artifactSite.runVariant (artifactOptions 2) (sampleQueued samplePending)
        (artifactInputs 2) artifactCommand [] ⟨"default", [], "mipsel-gcc-c"⟩ fun _ => none) ≠ none := by
      decide +kernel
    rw [ran] at added
    exact absurd rfl added
  | inexact ran _ later =>
    have candidate : addedArtifact "candidate_c" (artifactSite.runVariant (artifactOptions 2) (sampleQueued samplePending)
        (artifactInputs 2) artifactCommand [] ⟨"default", [], "mipsel-gcc-c"⟩ fun _ => none) ≠
        some (artifactSite.attemptPath (sampleQueued samplePending) .candidates "97a1e69b2ecbc9f0" ".c") := by
      decide +kernel
    have object : addedArtifact "object" (artifactSite.runVariant (artifactOptions 2) (sampleQueued samplePending)
        (artifactInputs 2) artifactCommand [] ⟨"default", [], "mipsel-gcc-c"⟩ fun _ => none) ≠
        some (artifactSite.attemptPath (sampleQueued samplePending) .objects "97a1e69b2ecbc9f0" ".o") := by
      decide
    rw [ran] at candidate object
    cases later with
    | here identified _ =>
      have second : (variantId artifactDigests (artifactInputs 2) (sampleQueued samplePending) artifactCommand
          ⟨"with_context", ["types.h"], "mipsel-gcc-c"⟩).toOption = some "97a1e69b2ecbc9f0" := by
        decide
      have sameId := congrArg Except.toOption identified
      cases sameId.symm.trans second
      cases List.mem_singleton.mp member
      exact ⟨fun same => absurd same candidate, fun same => absurd same object, fun same => absurd same object⟩
    | skipped _ last => cases last
    | inexact _ _ last => cases last

end Sample

end PspDisasm
