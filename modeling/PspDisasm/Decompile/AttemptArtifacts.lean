import PspDisasm.Decompile.ToolCalls

namespace PspDisasm
open Foundations

section Places
variable {project : String} {directory other : ArtifactDirectory} {name otherName : String}

theorem directory_texts : ∀ directory other : ArtifactDirectory, directory.text.toList <+: other.text.toList → directory = other := by
  intro directory other
  cases directory <;> cases other <;> decide

/-- Files of different directories have different paths. -/
theorem artifactPath_apart (apart : directory ≠ other) : artifactPath project directory name ≠ artifactPath project other otherName := by
  intro same
  have texts := congrArg String.toList same
  unfold artifactPath at texts
  simp only [String.toList_append, List.append_cancel_left_eq] at texts
  rcases List.prefix_or_prefix_of_prefix ⟨name.toList, texts⟩ ⟨otherName.toList, rfl⟩ with first | second
  · exact apart (directory_texts _ _ first)
  · exact apart (directory_texts _ _ second).symm

theorem artifactPath_relative :
    project ++ ("/" ++ relativeOrString project (artifactPath project directory name)) = artifactPath project directory name := by
  have slash : ∃ rest, directory.text.toList = '/' :: rest := by
    cases directory <;> exact ⟨_, rfl⟩
  obtain ⟨rest, text⟩ := slash
  have path : (artifactPath project directory name).toList = (project ++ "/").toList ++ (rest ++ name.toList) := by
    unfold artifactPath
    rw [String.toList_append, String.toList_append, String.toList_append, text, List.append_assoc]
    rfl
  unfold relativeOrString
  dsimp only
  rw [if_pos (path ▸ List.prefix_append _ _)]
  apply String.toList_inj.mp
  rw [String.toList_append, String.toList_append, path, List.drop_left, String.toList_append, List.append_assoc]
  simp only [String.toList_ofList]

end Places

/-- The score in the metadata of a comparison. -/
def recordedScore : ProjectFile → Option Int
  | .json (.obj fields) =>
    match Json.getField fields "score" with
    | .obj score =>
      match Json.getField score "raw" with
      | .int raw => some raw
      | _ => none
    | _ => none
  | _ => none

/-- The object in the metadata of a comparison. -/
def recordedObject : ProjectFile → Option String
  | .json (.obj fields) =>
    match Json.getField fields "artifacts" with
    | .obj artifacts =>
      match Json.getField artifacts "candidate_object" with
      | .str path => some path
      | _ => none
    | _ => none
  | _ => none

def DecompilationAttempt.artifact (attempt : DecompilationAttempt) (key : String) : Option String := attempt.artifactPaths.get? key

section Attempts
variable (site : ToolSite) (project : String)

/-- The files that an attempt names are its own. -/
structure ArtifactsKept (disk : ProjectDisk) (attempt : DecompilationAttempt) : Prop where
  candidate : ∀ path, attempt.artifact "candidate_c" = some path →
    ∃ file, disk path = some file ∧ attempt.candidateSha256 = some (site.digests.sha256Bytes (file.data site.dumps))
  object : ∀ path, attempt.artifact "object" = some path →
    ∃ file, disk path = some file ∧ attempt.objectSha256 = some (site.digests.sha256Bytes (file.data site.dumps))
  metadata : ∀ path, attempt.artifact "match_metadata" = some path →
    ∃ file relative, disk path = some file ∧ recordedScore file = attempt.matchRawScore ∧
      recordedObject file = some relative ∧ attempt.artifact "object" = some (project ++ ("/" ++ relative))

/-- An attempt names files of the directories that the tools write to. -/
structure ArtifactsPlaced (attempt : DecompilationAttempt) : Prop where
  candidate : ∀ path, attempt.artifact "candidate_c" = some path → ∃ name, path = artifactPath project .candidates name
  object : ∀ path, attempt.artifact "object" = some path → ∃ name, path = artifactPath project .objects name
  metadata : ∀ path, attempt.artifact "match_metadata" = some path → ∃ name, path = artifactPath project .matching name

end Attempts

namespace ToolSite
variable {site : ToolSite} {options : CallOptions} {project selector source output : String} {projectFile : FunctionsFile}
  {variant : RetryVariant} {disk : ProjectDisk}

theorem matchMetadata_score {candidate : String} {comparison : Comparison} :
    recordedScore (.json (site.matchMetadata project candidate comparison)) = some comparison.rawScore := rfl

theorem matchMetadata_object {candidate : String} {comparison : Comparison} :
    recordedObject (.json (site.matchMetadata project candidate comparison)) = some (relativeOrString project candidate) := rfl

/-- What a decompilation leaves: the candidate, and files of two other directories. -/
theorem decompileProjectFunction_cases :
    (∃ failure, site.decompileProjectFunction options project selector projectFile variant output disk = (.error failure, disk)) ∨
      ∃ decompilation assembly metadata text json,
        site.decompileProjectFunction options project selector projectFile variant output disk = (.ok decompilation,
          Function.update (Function.update (Function.update disk (artifactPath project .assembly assembly) text)
            output (some (.bytes decompilation.output))) (artifactPath project .decompilations metadata) json) ∧
        decompilation.outputPath = output := by
  unfold decompileProjectFunction
  split
  · exact Or.inl ⟨_, rfl⟩
  · split
    · exact Or.inl ⟨_, rfl⟩
    · exact Or.inr ⟨_, _, _, _, _, rfl, rfl⟩

/-- What a compiler leaves: the object that it names when it succeeds, and nothing elsewhere. -/
theorem compileFunction_spec {result : Except ToolFailure BuildResult} {after : ProjectDisk}
    (ran : site.compileFunction options source output disk = (result, after)) :
    (∀ path ≠ output, after path = disk path) ∧ ∀ built, result = .ok built → built.outputPath = output ∧
      ∃ file, after output = some file ∧ built.objectSha256 = site.digests.sha256Bytes (file.data site.dumps) := by
  obtain ⟨ending, left, answer⟩ : ∃ ending left, site.compiler (options.compiler :: options.flags ++ ["-c", source, "-o", output])
      (((disk source).map (·.data site.dumps)).getD []) = (ending, left) := ⟨_, _, rfl⟩
  unfold compileFunction at ran
  simp only [answer] at ran
  have elsewhere : ∀ path ≠ output, ObjectLeft.apply left output disk path = disk path := by
    intro path apart
    cases left with
    | untouched => rfl
    | removed => exact Function.update_of_ne apart _ _
    | written data => exact Function.update_of_ne apart _ _
  split at ran
  · cases ran
    exact ⟨elsewhere, nofun⟩
  · cases ran
    exact ⟨elsewhere, nofun⟩
  · split at ran
    · cases ran
      exact ⟨elsewhere, nofun⟩
    · split at ran
      · cases ran
        exact ⟨elsewhere, nofun⟩
      · rename_i object found
        cases ran
        refine ⟨elsewhere, fun built same => ?_⟩
        cases same
        exact ⟨rfl, object, found, rfl⟩

/-- What a comparison leaves: its metadata, and files of two other directories. -/
theorem matchProjectFunction_cases {candidate : String} :
    (∃ failure, site.matchProjectFunction options project selector projectFile candidate disk = (.error failure, disk)) ∨
      ∃ result comparison reference report object text,
        site.matchProjectFunction options project selector projectFile candidate disk = (.ok result,
          Function.update (Function.update (Function.update disk (artifactPath project .references reference) object)
            (artifactPath project .reports report) text) (matchMetadataPath project comparison.function)
            (some (.json (site.matchMetadata project candidate comparison)))) ∧
        result.metadataPath = matchMetadataPath project comparison.function ∧ result.rawScore = comparison.rawScore := by
  unfold matchProjectFunction
  split
  · exact Or.inl ⟨_, rfl⟩
  · exact Or.inr ⟨_, _, _, _, _, _, rfl, rfl, rfl⟩

section Calls
variable {queued : QueuedFunction} {id : String}

/-- What the tools leave on the disk, by what they answer. -/
structure CallEffect (site : ToolSite) (queued : QueuedFunction) (id : String) (before : ProjectDisk) (answers : ToolAnswers) : Prop where
  candidate : ∀ decompilation, answers.decompiled = .ok decompilation →
    decompilation.outputPath = site.attemptPath queued .candidates id ".c" ∧
      answers.disk (site.attemptPath queued .candidates id ".c") = some (.bytes decompilation.output)
  candidates : ∀ name, (∀ decompilation, answers.decompiled = .ok decompilation →
      artifactPath (projectDirectory site.store queued) .candidates name ≠ site.attemptPath queued .candidates id ".c") →
    answers.disk (artifactPath (projectDirectory site.store queued) .candidates name) =
      before (artifactPath (projectDirectory site.store queued) .candidates name)
  object : ∀ built, answers.compiled = .ok built → (∃ decompilation, answers.decompiled = .ok decompilation) ∧
    built.outputPath = site.attemptPath queued .objects id ".o" ∧
      ∃ file, answers.disk (site.attemptPath queued .objects id ".o") = some file ∧
        built.objectSha256 = site.digests.sha256Bytes (file.data site.dumps)
  objects : ∀ name, (∀ decompilation, answers.decompiled = .ok decompilation →
      artifactPath (projectDirectory site.store queued) .objects name ≠ site.attemptPath queued .objects id ".o") →
    answers.disk (artifactPath (projectDirectory site.store queued) .objects name) =
      before (artifactPath (projectDirectory site.store queued) .objects name)
  metadata : ∀ result, answers.matched = .ok result → (∃ built, answers.compiled = .ok built) ∧
    ∃ comparison, result.metadataPath = matchMetadataPath (projectDirectory site.store queued) comparison.function ∧
      result.rawScore = comparison.rawScore ∧ answers.disk result.metadataPath =
        some (.json (site.matchMetadata (projectDirectory site.store queued) (site.attemptPath queued .objects id ".o") comparison))
  matching : ∀ name, (∀ result, answers.matched = .ok result →
      result.metadataPath ≠ artifactPath (projectDirectory site.store queued) .matching name) →
    answers.disk (artifactPath (projectDirectory site.store queued) .matching name) =
      before (artifactPath (projectDirectory site.store queued) .matching name)

theorem attemptPath_apart {directory other : ArtifactDirectory} {suffix name : String} (apart : directory ≠ other) :
    artifactPath (projectDirectory site.store queued) directory name ≠ site.attemptPath queued other id suffix :=
  artifactPath_apart apart

/-- What the decompiler leaves before the compiler is called. -/
structure DecompileEffect (site : ToolSite) (queued : QueuedFunction) (id : String) (output : Bytes) (before after : ProjectDisk) :
    Prop where
  own : after (site.attemptPath queued .candidates id ".c") = some (.bytes output)
  candidates : ∀ name, artifactPath (projectDirectory site.store queued) .candidates name ≠ site.attemptPath queued .candidates id ".c" →
    after (artifactPath (projectDirectory site.store queued) .candidates name) =
      before (artifactPath (projectDirectory site.store queued) .candidates name)
  others : ∀ directory name, directory ∉ [ArtifactDirectory.assembly, .candidates, .decompilations] →
    after (artifactPath (projectDirectory site.store queued) directory name) =
      before (artifactPath (projectDirectory site.store queued) directory name)

theorem decompileEffect (site : ToolSite) (queued : QueuedFunction) (id : String) (disk : ProjectDisk) (output : Bytes)
    (assembly metadata : String) (text json : Option ProjectFile) :
    DecompileEffect site queued id output disk (Function.update (Function.update (Function.update disk
      (artifactPath (projectDirectory site.store queued) .assembly assembly) text) (site.attemptPath queued .candidates id ".c")
      (some (.bytes output))) (artifactPath (projectDirectory site.store queued) .decompilations metadata) json) := by
  refine ⟨?_, fun name apart => ?_, fun directory name outside => ?_⟩
  · rw [Function.update_of_ne (attemptPath_apart (by decide)).symm, Function.update_self]
  · rw [Function.update_of_ne (artifactPath_apart (by decide)), Function.update_of_ne apart,
      Function.update_of_ne (artifactPath_apart (by decide))]
  · simp only [List.mem_cons, List.not_mem_nil, or_false, not_or] at outside
    rw [Function.update_of_ne (artifactPath_apart outside.2.2), Function.update_of_ne (attemptPath_apart outside.2.1),
      Function.update_of_ne (artifactPath_apart outside.1)]

/-- Which directories the tools write to, and what they leave in them. -/
theorem callEffect (site : ToolSite) (options : CallOptions) (queued : QueuedFunction) (variant : RetryVariant) (id : String)
    (disk : ProjectDisk) : CallEffect site queued id disk (site.callTools options queued variant id disk) := by
  unfold callTools
  dsimp only
  rcases @decompileProjectFunction_cases site options (projectDirectory site.store queued) queued.function
    (site.attemptPath queued .candidates id ".c") (site.projects queued.projectDir) variant disk with
    ⟨failure, decompiled⟩ | ⟨decompilation, assembly, metadata, text, json, decompiled, place⟩
  · rw [decompiled]
    exact ⟨nofun, fun _ _ => rfl, nofun, fun _ _ => rfl, nofun, fun _ _ => rfl⟩
  · rw [decompiled]
    dsimp only
    have effect := decompileEffect site queued id disk decompilation.output assembly metadata text json
    generalize Function.update (Function.update (Function.update disk _ text) _ (some (.bytes decompilation.output))) _ json = first
      at effect ⊢
    generalize compiled : site.compileFunction options decompilation.outputPath (site.attemptPath queued .objects id ".o") first = built
    obtain ⟨result, second⟩ := built
    obtain ⟨elsewhere, object⟩ := compileFunction_spec compiled
    have own : second (site.attemptPath queued .candidates id ".c") = some (.bytes decompilation.output) :=
      (elsewhere _ (attemptPath_apart (by decide))).trans effect.own
    have candidates : ∀ name, artifactPath (projectDirectory site.store queued) .candidates name ≠
        site.attemptPath queued .candidates id ".c" → second (artifactPath (projectDirectory site.store queued) .candidates name) =
          disk (artifactPath (projectDirectory site.store queued) .candidates name) := fun name apart =>
      (elsewhere _ (attemptPath_apart (by decide))).trans (effect.candidates name apart)
    have objects : ∀ name, artifactPath (projectDirectory site.store queued) .objects name ≠ site.attemptPath queued .objects id ".o" →
        second (artifactPath (projectDirectory site.store queued) .objects name) =
          disk (artifactPath (projectDirectory site.store queued) .objects name) := fun name apart =>
      (elsewhere _ apart).trans (effect.others _ name (by decide))
    have matching : ∀ name, second (artifactPath (projectDirectory site.store queued) .matching name) =
        disk (artifactPath (projectDirectory site.store queued) .matching name) := fun name =>
      (elsewhere _ (attemptPath_apart (by decide))).trans (effect.others _ name (by decide))
    cases result with
    | error failure =>
      refine ⟨?_, fun name apart => candidates name (apart _ rfl), nofun, fun name apart => objects name (apart _ rfl), nofun,
        fun name _ => matching name⟩
      rintro _ ⟨⟩
      exact ⟨place, own⟩
    | ok built =>
      obtain ⟨objectPlace, objectFile⟩ := object built rfl
      dsimp only
      rw [objectPlace]
      rcases @matchProjectFunction_cases site options (projectDirectory site.store queued) queued.function
        (site.projects queued.projectDir) second (site.attemptPath queued .objects id ".o") with
        ⟨failure, matched⟩ | ⟨result, comparison, reference, report, object, text, matched, metadataPlace, score⟩
      · rw [matched]
        refine ⟨?_, fun name apart => candidates name (apart _ rfl), ?_, fun name apart => objects name (apart _ rfl), nofun,
          fun name _ => matching name⟩
        · rintro _ ⟨⟩
          exact ⟨place, own⟩
        · rintro _ ⟨⟩
          exact ⟨⟨_, rfl⟩, objectPlace, objectFile⟩
      · rw [matched]
        have last : ∀ directory name, directory ∉ [ArtifactDirectory.references, .reports, .matching] →
            (Function.update (Function.update (Function.update second (artifactPath (projectDirectory site.store queued) .references
              reference) object) (artifactPath (projectDirectory site.store queued) .reports report) text)
              (matchMetadataPath (projectDirectory site.store queued) comparison.function)
              (some (.json (site.matchMetadata (projectDirectory site.store queued) (site.attemptPath queued .objects id ".o")
                comparison)))) (artifactPath (projectDirectory site.store queued) directory name) =
            second (artifactPath (projectDirectory site.store queued) directory name) := by
          intro directory name outside
          simp only [List.mem_cons, List.not_mem_nil, or_false, not_or] at outside
          unfold matchMetadataPath
          rw [Function.update_of_ne (artifactPath_apart outside.2.2), Function.update_of_ne (artifactPath_apart outside.2.1),
            Function.update_of_ne (artifactPath_apart outside.1)]
        refine ⟨?_, fun name apart => (last _ name (by decide)).trans (candidates name (apart _ rfl)), ?_,
          fun name apart => (last _ name (by decide)).trans (objects name (apart _ rfl)), ?_, fun name apart => ?_⟩
        · rintro _ ⟨⟩
          exact ⟨place, (last _ _ (by decide)).trans own⟩
        · rintro _ ⟨⟩
          obtain ⟨file, found, digest⟩ := objectFile
          exact ⟨⟨_, rfl⟩, objectPlace, file, (last _ _ (by decide)).trans found, digest⟩
        · rintro _ ⟨⟩
          refine ⟨⟨_, rfl⟩, comparison, metadataPlace, score, ?_⟩
          rw [metadataPlace]
          exact Function.update_self _ _ _
        · have other := apart _ rfl
          rw [metadataPlace] at other
          dsimp only
          rw [Function.update_of_ne other.symm, Function.update_of_ne (artifactPath_apart (by decide)),
            Function.update_of_ne (artifactPath_apart (by decide)), matching]

end Calls

end ToolSite

end PspDisasm
