import PspDisasm.GameIsolation
import PspDisasm.GameTree
import PspDisasm.PosixPaths

namespace PspDisasm
open Foundations

section Trees
variable {tree : ProjectTree} {files : List (WorkspacePath × ProjectFile)} {path : WorkspacePath} {file : ProjectFile}

theorem putAll_cons (first : WorkspacePath × ProjectFile) :
    tree.putAll (first :: files) = ProjectTree.putAll (tree.set first.1 first.2) files := rfl

theorem putAll_elsewhere (elsewhere : ∀ file ∈ files, file.1 ≠ path) : (tree.putAll files).get? path = tree.get? path := by
  induction files generalizing tree with
  | nil => rfl
  | cons first files ih =>
    obtain ⟨different, rest⟩ := List.forall_mem_cons.mp elsewhere
    rw [putAll_cons, ih rest, Dict.get?_set, if_neg different]

theorem putAll_origin (found : (tree.putAll files).get? path = some file) : (path, file) ∈ files ∨ tree.get? path = some file := by
  induction files generalizing tree with
  | nil => exact Or.inr found
  | cons first files ih =>
    rw [putAll_cons] at found
    rcases ih found with listed | here
    · exact Or.inl (List.mem_cons_of_mem _ listed)
    · rw [Dict.get?_set] at here
      by_cases same : first.1 = path
      · rw [if_pos same] at here
        have written : first = (path, file) := Prod.ext same (Option.some.inj here)
        exact Or.inl (written ▸ List.mem_cons_self)
      · rw [if_neg same] at here
        exact Or.inr here

/-- No file is lost. -/
theorem putAll_present (present : (tree.get? path).isSome) : ((tree.putAll files).get? path).isSome := by
  induction files generalizing tree with
  | nil => exact present
  | cons first files ih =>
    rw [putAll_cons]
    apply ih
    rw [Dict.get?_set]
    by_cases same : first.1 = path
    · rw [if_pos same]
      rfl
    · rw [if_neg same]
      exact present

theorem putAll_written (listed : (path, file) ∈ files) : ((tree.putAll files).get? path).isSome := by
  induction files generalizing tree with
  | nil => cases listed
  | cons first files ih =>
    rw [putAll_cons]
    rcases List.mem_cons.mp listed with rfl | later
    · apply putAll_present
      rw [Dict.get?_set, if_pos rfl]
      rfl
    · exact ih later

/-- A place to which one and the same file is written has it. -/
theorem putAll_same (listed : (path, file) ∈ files) (same : ∀ other ∈ files, other.1 = path → other.2 = file) :
    (tree.putAll files).get? path = some file := by
  induction files generalizing tree with
  | nil => cases listed
  | cons first files ih =>
    obtain ⟨firstSame, rest⟩ := List.forall_mem_cons.mp same
    by_cases again : (path, file) ∈ files
    · exact ih again rest
    · rcases List.mem_cons.mp listed with rfl | later
      · rw [putAll_cons, putAll_elsewhere, Dict.get?_set, if_pos rfl]
        intro other member equal
        have written : other = (path, file) := Prod.ext equal (rest other member equal)
        exact again (written ▸ member)
      · exact absurd later again

end Trees

/-- The place below the output of what a directory of it holds for a module. -/
def placeIn (directory path : String) : String := "/".intercalate (directory :: posixParts path)

section Places
variable {path directory : String}

theorem posixParts_placeIn (proper : ProperPart directory) : posixParts (placeIn directory path) = directory :: posixParts path :=
  posixParts_join (List.forall_mem_cons.mpr ⟨proper, fun _ member => posixParts_proper member⟩)

theorem safeRelativeTarget_ok {target : String} (proper : ProperPart directory)
    (found : safeRelativeTarget directory path = .ok target) : target = placeIn directory path := by
  obtain ⟨_, _, made⟩ := bind_ok.mp found
  have alone : posixParts directory = [directory] := by
    have joined := posixParts_join (List.forall_mem_singleton.mpr proper)
    rwa [show "/".intercalate [directory] = directory from rfl] at joined
  rw [alone] at made
  exact (Except.ok.inj made).symm

/-- A place in the output is found under its own name. -/
theorem safeRelativeTarget_placeIn {target : String} (proper : ProperPart directory)
    (found : safeRelativeTarget "" (placeIn directory path) = .ok target) : target = placeIn directory path := by
  obtain ⟨_, _, made⟩ := bind_ok.mp found
  rw [posixParts_placeIn proper, show posixParts "" = [] from rfl, List.nil_append] at made
  exact (Except.ok.inj made).symm

theorem modules_proper : ProperPart "modules" := ⟨by decide, by decide, by decide⟩

theorem recovered_proper : ProperPart "recovered" := ⟨by decide, by decide, by decide⟩

theorem projects_proper : ProperPart "projects" := ⟨by decide, by decide, by decide⟩

end Places

section FirstPass
variable {tools : ProjectTools} {recovery : Option (Bytes → Except GameFailure RecoveryResult)} {tree : ProjectTree}
  {candidate : GameModuleRecord} {extracted projectRoot : String} {prepared : PreparedModule}

/-- What the recovery of encrypted bytes comes to. -/
structure RecoversAs (recovery : Option (Bytes → Except GameFailure RecoveryResult)) (data : Bytes)
    (result : RecoveryResult) : Prop where
  encrypted : ∃ name model, analyzeBytes data name = .ok model ∧ model.needsDecryption = true
  recovered : ∃ recover ∈ recovery, recover data = .ok result

theorem toOption_some {ε α : Type} {x : Except ε α} {a : α} : x.toOption = some a ↔ x = .ok a := by
  cases x <;> simp [Except.toOption]

theorem validateModule_ready {tools : GameTools} {module : PreparedModule}
    (ready : validateModule tools module = .ok (.ready prepared)) : prepared = module := by
  obtain ⟨_, _, same⟩ := bind_ok.mp ready
  cases same
  rfl

/-- What makes a recovered module: its bytes are encrypted, and their recovery and its place are there. -/
theorem recoveredModule_some {target : WorkspacePath} {result : RecoveryResult} :
    recoveredModule tools recovery tree candidate extracted = some (target, result) ↔
      ∃ data, readProjectFile tools tree extracted = .ok data ∧ ∃ model, analyzeBytes data extracted = .ok model ∧
        model.needsDecryption = true ∧ ∃ recover, recovery = some recover ∧ recover data = .ok result ∧
          ∃ place, safeRelativeTarget "recovered" candidate.path = .ok place ∧
            tools.writable tree (posixParts place) = .ok () ∧ posixParts place = target := by
  unfold recoveredModule
  simp only [Option.bind_eq_bind, Option.bind_eq_some_iff, toOption_some, Option.guard_eq_some', Option.pure_def, Option.some.injEq,
    Prod.mk.injEq]
  constructor
  · rintro ⟨data, read, model, analyzed, _, encrypted, recover, given, recovered, ran, place, named, _, written, made, rfl⟩
    exact ⟨data, read, model, analyzed, encrypted, recover, given, ran, place, named, written, made⟩
  · rintro ⟨data, read, model, analyzed, encrypted, recover, given, ran, place, named, written, made⟩
    exact ⟨data, read, model, analyzed, (), encrypted, recover, given, result, ran, place, named, (), written, made, rfl⟩

/-- A module that is ready is to be read from its copy, or from the place of its recovery. -/
theorem examineModule_ready
    (ready : examineModule (treeTools tools recovery tree) candidate extracted projectRoot = .ok (.ready prepared)) :
    prepared.candidate = candidate ∧ prepared.projectRoot = projectRoot ∧
      ∃ data, readProjectFile tools tree extracted = .ok data ∧
        (prepared.recovery = none ∧ prepared.extracted = extracted ∨
          prepared.extracted = placeIn "recovered" candidate.path ∧ ∃ result, prepared.recovery = some result.provenance ∧
            RecoversAs recovery data result ∧ recoveredModule tools recovery tree candidate extracted =
              some ("recovered" :: posixParts candidate.path, result)) := by
  obtain ⟨data, reading, parsed⟩ := bind_ok.mp ready
  obtain ⟨model, parsing, branch⟩ := bind_ok.mp parsed
  have read : readProjectFile tools tree extracted = .ok data := during_ok.mp reading
  have analyzed := front_ok.mp (during_ok.mp parsing)
  clear ready parsed
  by_cases encrypted : model.needsDecryption = true
  · simp only [encrypted, Bool.not_true, Bool.false_eq_true, if_false] at branch
    dsimp only [treeTools] at branch
    cases recovery with
    | none => cases branch
    | some recover =>
      obtain ⟨bytes, rereading, attempt⟩ := bind_ok.mp branch
      have same : bytes = data := Except.ok.inj ((during_ok.mp rereading).symm.trans read)
      subst same
      clear branch
      cases result : recover bytes with
      | error failure =>
        rw [result] at attempt
        cases failure <;> cases attempt
      | ok recovered =>
        rw [result] at attempt
        obtain ⟨target, naming, placed⟩ := bind_ok.mp attempt
        obtain ⟨_, writing, validated⟩ := bind_ok.mp placed
        have named : safeRelativeTarget "recovered" candidate.path = .ok target := during_ok.mp naming
        have written : tools.writable tree (posixParts target) = .ok () := during_ok.mp writing
        have place := safeRelativeTarget_ok recovered_proper named
        subst place
        rw [validateModule_ready validated]
        refine ⟨rfl, rfl, bytes, read,
          Or.inr ⟨rfl, recovered, rfl, ⟨⟨extracted, model, analyzed, encrypted⟩, recover, rfl, result⟩, ?_⟩⟩
        exact recoveredModule_some.mpr ⟨bytes, read, model, analyzed, encrypted, recover, rfl, result, _, named, written,
          posixParts_placeIn recovered_proper⟩
  · simp only [encrypted, Bool.not_false, if_true] at branch
    rw [validateModule_ready branch]
    exact ⟨rfl, rfl, data, read, Or.inl ⟨rfl, rfl⟩⟩

/-- Whatever is written for a module comes from the recovery of its bytes. -/
theorem recoveredModule_recovers {target : WorkspacePath} {result : RecoveryResult}
    (found : recoveredModule tools recovery tree candidate extracted = some (target, result)) :
    target = "recovered" :: posixParts candidate.path ∧
      ∃ data, readProjectFile tools tree extracted = .ok data ∧ RecoversAs recovery data result := by
  obtain ⟨data, read, model, analyzed, encrypted, recover, given, ran, place, named, _, rfl⟩ := recoveredModule_some.mp found
  rw [safeRelativeTarget_ok recovered_proper named]
  exact ⟨posixParts_placeIn recovered_proper, data, read, ⟨_, model, analyzed, encrypted⟩, recover, given, ran⟩

/-- A candidate whose file is copied to its place below `modules`. -/
structure CopiedCandidate (candidate : GameModuleRecord) : Prop where
  output : candidate.outputPath = some (placeIn "modules" candidate.path)

/-- The files that the first pass adds lie below `recovered`, and are recovered bytes or the notes beside them. -/
structure RecoveredFrom (recovery : Option (Bytes → Except GameFailure RecoveryResult)) (dumps : Json → Bytes)
    (copied : ProjectTree) (candidates : List GameModuleRecord) (path : WorkspacePath) (file : ProjectFile) : Prop where
  origin : ∃ candidate ∈ candidates, ∃ copy result, copied.get? ("modules" :: posixParts candidate.path) = some copy ∧
    RecoversAs recovery (copy.data dumps) result ∧
    (path = "recovered" :: posixParts candidate.path ∧ file = .bytes result.data ∨
      path = sidecarPath ("recovered" :: posixParts candidate.path) ∧ file = .json (recoveryJson result.provenance))

/-- What the first pass hands on of a module. -/
structure ExaminedFrom (recovery : Option (Bytes → Except GameFailure RecoveryResult)) (dumps : Json → Bytes)
    (copied tree : ProjectTree) (candidates : List GameModuleRecord) (prepared : PreparedModule) : Prop where
  listed : prepared.candidate ∈ candidates
  root : prepared.projectRoot = placeIn "projects" prepared.candidate.path
  copy : ∃ file, copied.get? ("modules" :: posixParts prepared.candidate.path) = some file ∧
    (prepared.recovery = none ∧ prepared.extracted = placeIn "modules" prepared.candidate.path ∨
      prepared.extracted = placeIn "recovered" prepared.candidate.path ∧
        (tree.get? ("recovered" :: posixParts prepared.candidate.path)).isSome ∧
        ∃ result, prepared.recovery = some result.provenance ∧ RecoversAs recovery (file.data dumps) result)

/-- The record of a module without a project. -/
structure Unfinished (record : GameModuleAnalysisRecord) : Prop where
  status : record.status = .failed ∨ record.status = .needsDecryption
  noProject : record.projectPath = none

/-- How things stand between two turns of the first pass. -/
structure FirstPassed (tools : ProjectTools) (recovery : Option (Bytes → Except GameFailure RecoveryResult))
    (copied : ProjectTree) (candidates : List GameModuleRecord) (run : ExamineRun) : Prop where
  copies : ∀ path, run.tree.get? ("modules" :: path) = copied.get? ("modules" :: path)
  added : ∀ path file, run.tree.get? path = some file → copied.get? path = some file ∨
    path.head? ≠ some "projects" ∧ RecoveredFrom recovery tools.dumps copied candidates path file
  prepared : ∀ module ∈ run.pass.prepared, ExaminedFrom recovery tools.dumps copied run.tree candidates module
  records : ∀ item ∈ run.pass.records, item.2.path = item.1 ∧ Unfinished item.2

theorem examineModule_recorded {record : GameModuleAnalysisRecord}
    (recorded : examineModule (treeTools tools recovery tree) candidate extracted projectRoot = .ok (.recorded record)) :
    record.path = candidate.path ∧ Unfinished record := by
  obtain ⟨_, _, parsed⟩ := bind_ok.mp recorded
  obtain ⟨model, _, branch⟩ := bind_ok.mp parsed
  clear recorded parsed
  by_cases encrypted : model.needsDecryption = true
  · simp only [encrypted, Bool.not_true, Bool.false_eq_true, if_false] at branch
    split at branch
    · cases branch
      exact ⟨rfl, Or.inr rfl, rfl⟩
    · obtain ⟨_, _, attempt⟩ := bind_ok.mp branch
      split at attempt
      · cases attempt
        exact ⟨rfl, Or.inr rfl, rfl⟩
      · cases attempt
      · obtain ⟨_, _, placed⟩ := bind_ok.mp attempt
        obtain ⟨_, _, validated⟩ := bind_ok.mp placed
        obtain ⟨_, _, ready⟩ := bind_ok.mp validated
        cases ready
  · simp only [encrypted, Bool.not_false, if_true] at branch
    obtain ⟨_, _, ready⟩ := bind_ok.mp branch
    cases ready

theorem mem_dict_set {α : Type} {dict : Dict String α} {key : String} {value : α} {item : String × α}
    (member : item ∈ dict.set key value) : item = (key, value) ∨ item ∈ dict := by
  induction dict with
  | nil => exact Or.inl (List.mem_singleton.mp member)
  | cons first dict ih =>
    obtain ⟨k, old⟩ := first
    rw [Dict.set] at member
    by_cases same : k = key
    · rw [if_pos same] at member
      rcases List.mem_cons.mp member with rfl | later
      · exact Or.inl (by rw [same])
      · exact Or.inr (List.mem_cons_of_mem _ later)
    · rw [if_neg same] at member
      rcases List.mem_cons.mp member with rfl | later
      · exact Or.inr List.mem_cons_self
      · exact (ih later).imp id (List.mem_cons_of_mem _)

/-- The sidecar of a recovered module lies below the output, but not among the copies or the projects. -/
theorem sidecarPath_head (parts : List String) : ∃ rest, sidecarPath ("recovered" :: parts) = "recovered" :: rest ∨
    sidecarPath ("recovered" :: parts) = ["recovered.recovery.json"] := by
  cases parts with
  | nil => exact ⟨[], Or.inr rfl⟩
  | cons part parts => exact ⟨_, Or.inl rfl⟩

/-- The files that the first pass writes for a copied module. -/
theorem recoveredFiles_place {path : WorkspacePath} {file : ProjectFile} (copied : CopiedCandidate candidate)
    (listed : (path, file) ∈ recoveredFiles tools recovery tree candidate) :
    ∃ data result, readProjectFile tools tree (placeIn "modules" candidate.path) = .ok data ∧ RecoversAs recovery data result ∧
      (path = "recovered" :: posixParts candidate.path ∧ file = .bytes result.data ∨
        path = sidecarPath ("recovered" :: posixParts candidate.path) ∧ file = .json (recoveryJson result.provenance)) := by
  unfold recoveredFiles at listed
  rw [copied.output] at listed
  dsimp only [Option.bind_some] at listed
  split at listed
  · cases listed
  · rename_i target recovered found
    obtain ⟨extracted, safe, found⟩ := Option.bind_eq_some_iff.mp found
    have place := safeRelativeTarget_placeIn modules_proper (toOption_some.mp safe)
    subst place
    obtain ⟨rfl, data, read, recovers⟩ := recoveredModule_recovers found
    refine ⟨data, recovered, read, recovers, ?_⟩
    rcases List.mem_cons.mp listed with written | sidecar
    · obtain ⟨rfl, rfl⟩ := Prod.mk.inj written
      exact Or.inl ⟨rfl, rfl⟩
    · obtain ⟨rfl, rfl⟩ := Prod.mk.inj (List.mem_singleton.mp sidecar)
      exact Or.inr ⟨rfl, rfl⟩

/-- Neither of these files lies among the copies or the projects. -/
theorem recoveredFiles_head {path : WorkspacePath} {file : ProjectFile} (copied : CopiedCandidate candidate)
    (listed : (path, file) ∈ recoveredFiles tools recovery tree candidate) :
    path.head? = some "recovered" ∨ path.head? = some "recovered.recovery.json" := by
  obtain ⟨_, _, _, _, ⟨rfl, _⟩ | ⟨rfl, _⟩⟩ := recoveredFiles_place copied listed
  · exact Or.inl rfl
  · obtain ⟨rest, place | place⟩ := sidecarPath_head (posixParts candidate.path) <;> simp [place]

theorem readProjectFile_placeIn {directory path : String} {data : Bytes} (proper : ProperPart directory)
    (read : readProjectFile tools tree (placeIn directory path) = .ok data) :
    ∃ file, tree.get? (directory :: posixParts path) = some file ∧ file.data tools.dumps = data := by
  unfold readProjectFile at read
  rw [posixParts_placeIn proper] at read
  split at read
  · rename_i file found
    exact ⟨file, found, Except.ok.inj read⟩
  · cases read

theorem ExaminedFrom.later {dumps : Json → Bytes} {copied before after : ProjectTree} {candidates : List GameModuleRecord}
    (examined : ExaminedFrom recovery dumps copied before candidates prepared)
    (kept : ∀ path, (before.get? path).isSome → (after.get? path).isSome) :
    ExaminedFrom recovery dumps copied after candidates prepared := by
  obtain ⟨listed, root, file, copy, place⟩ := examined
  refine ⟨listed, root, file, copy, place.imp_right ?_⟩
  rintro ⟨extracted, present, recovers⟩
  exact ⟨extracted, kept _ present, recovers⟩

theorem FirstPassed.turn {copied : ProjectTree} {candidates : List GameModuleRecord} {run next : ExamineRun}
    (passed : FirstPassed tools recovery copied candidates run) (listed : candidate ∈ candidates)
    (copy : CopiedCandidate candidate) (turn : examineTurn tools recovery run candidate = .ok next) :
    FirstPassed tools recovery copied candidates next := by
  obtain ⟨pass, ran, made⟩ := bind_ok.mp turn
  cases made
  have kept : ∀ path, (run.tree.get? path).isSome →
      ((run.tree.putAll (recoveredFiles tools recovery run.tree candidate)).get? path).isSome := fun _ => putAll_present
  have copyOf : ∀ data, readProjectFile tools run.tree (placeIn "modules" candidate.path) = .ok data →
      ∃ file, copied.get? ("modules" :: posixParts candidate.path) = some file ∧ file.data tools.dumps = data := by
    intro data read
    obtain ⟨file, found, same⟩ := readProjectFile_placeIn modules_proper read
    exact ⟨file, (passed.copies _).symm.trans found, same⟩
  have known : ∀ module ∈ run.pass.prepared, ExaminedFrom recovery tools.dumps copied
      (run.tree.putAll (recoveredFiles tools recovery run.tree candidate)) candidates module :=
    fun module member => (passed.prepared module member).later kept
  have unfinished : ∀ record : GameModuleAnalysisRecord, record.path = candidate.path ∧ Unfinished record →
      ∀ item ∈ run.pass.records.set candidate.path record, item.2.path = item.1 ∧ Unfinished item.2 := by
    intro record outcome item member
    rcases mem_dict_set member with rfl | old
    · exact outcome
    · exact passed.records item old
  refine ⟨fun path => ?_, fun path file found => ?_, ?_, ?_⟩
  · rw [← passed.copies]
    refine putAll_elsewhere fun file member same => ?_
    have place := recoveredFiles_head copy member
    rw [same] at place
    simp at place
  · rcases putAll_origin found with written | old
    · obtain ⟨data, result, read, recovers, place⟩ := recoveredFiles_place copy written
      obtain ⟨source, there, rfl⟩ := copyOf data read
      refine Or.inr ⟨?_, ⟨candidate, listed, source, result, there, recovers, place⟩⟩
      rcases recoveredFiles_head copy written with top | top <;> simp [top]
    · exact passed.added path file old
  · unfold firstPassTurn at ran
    rw [copy.output] at ran
    obtain ⟨extracted, safe, ran⟩ := bind_ok.mp ran
    obtain ⟨projectRoot, rooted, ran⟩ := bind_ok.mp ran
    have place := safeRelativeTarget_placeIn modules_proper safe
    have root := safeRelativeTarget_ok projects_proper rooted
    subst place root
    split at ran
    · cases ran
      exact known
    · rename_i module ready
      cases ran
      intro other member
      rcases List.mem_append.mp member with earlier | new
      · exact known other earlier
      · rw [List.mem_singleton.mp new]
        obtain ⟨same, root, data, read, outcome⟩ := examineModule_ready ready
        obtain ⟨file, there, rfl⟩ := copyOf data read
        refine ⟨same ▸ listed, by rw [root, same], file, by rw [same]; exact there, ?_⟩
        rw [same]
        refine outcome.imp_right ?_
        rintro ⟨located, result, recovered, recovers, made⟩
        have safe' : safeRelativeTarget "" (placeIn "modules" candidate.path) = .ok (placeIn "modules" candidate.path) :=
          safe
        have written : ("recovered" :: posixParts candidate.path, ProjectFile.bytes result.data)
            ∈ recoveredFiles tools recovery run.tree candidate := by
          unfold recoveredFiles
          rw [copy.output]
          dsimp only [Option.bind_some]
          rw [toOption_some.mpr safe', Option.bind_some, made]
          exact List.mem_cons_self
        exact ⟨located, putAll_written written, result, recovered, recovers⟩
    · split at ran
      · cases ran
        exact known
      · cases ran
  · unfold firstPassTurn at ran
    rw [copy.output] at ran
    obtain ⟨extracted, _, ran⟩ := bind_ok.mp ran
    obtain ⟨projectRoot, _, ran⟩ := bind_ok.mp ran
    split at ran
    · rename_i record recorded
      cases ran
      exact unfinished record (examineModule_recorded recorded)
    · cases ran
      exact passed.records
    · split at ran
      · cases ran
        exact unfinished _ ⟨rfl, Or.inl rfl, rfl⟩
      · cases ran

/-- The first pass over copied candidates. -/
theorem firstPassed {copied : ProjectTree} {candidates : List GameModuleRecord} {examined : ExamineRun}
    (copies : ∀ candidate ∈ candidates, CopiedCandidate candidate)
    (ran : candidates.foldlM (examineTurn tools recovery) ⟨copied, ⟨[], []⟩⟩ = .ok examined) :
    FirstPassed tools recovery copied candidates examined := by
  have runs : ∀ (rest : List GameModuleRecord) (run : ExamineRun), (∀ candidate ∈ rest, candidate ∈ candidates) →
      FirstPassed tools recovery copied candidates run → rest.foldlM (examineTurn tools recovery) run = .ok examined →
      FirstPassed tools recovery copied candidates examined := by
    intro rest
    induction rest with
    | nil =>
      intro run _ passed ran
      cases ran
      exact passed
    | cons candidate rest ih =>
      intro run listed passed ran
      obtain ⟨first, later⟩ := List.forall_mem_cons.mp listed
      rw [List.foldlM_cons] at ran
      obtain ⟨next, turn, ran⟩ := bind_ok.mp ran
      exact ih next later (passed.turn first (copies candidate first) turn) ran
  refine runs candidates _ (fun _ member => member) ⟨fun _ => rfl, fun _ _ found => Or.inl found, ?_, ?_⟩ ran
  · exact List.forall_mem_nil _
  · exact List.forall_mem_nil _

end FirstPass

end PspDisasm
