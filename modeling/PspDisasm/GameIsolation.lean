import PspDisasm.GameProject

namespace PspDisasm
open Foundations

section Game
variable {tools : GameTools} {pass : ModulePass} {prepared : PreparedModule}

theorem front_ok {α : Type} {x : Except Failure α} {a : α} : front x = .ok a ↔ x = .ok a := by
  cases x <;> simp [front, Except.mapError]

theorem during_ok {α : Type} {progress : Progress} {x : Except GameFailure α} {a : α} :
    during progress x = .ok a ↔ x = .ok a := by
  cases x <;> simp [during, Except.mapError]

/-- A module that takes part in the plan can be placed alone. -/
def PlannedAlone (casefold : String → String) (prepared : PreparedModule) : Prop :=
  ∃ placements, planModulePlacements casefold [prepared.input] = .ok placements

theorem validateModule_alone {module : PreparedModule}
    (ready : validateModule tools module = .ok (.ready prepared)) : PlannedAlone tools.casefold prepared := by
  obtain ⟨placements, planned, same⟩ := bind_ok.mp ready
  cases same
  exact ⟨placements, front_ok.mp (during_ok.mp planned)⟩

theorem examineModule_alone {candidate : GameModuleRecord} {extracted projectRoot : String}
    (ready : examineModule tools candidate extracted projectRoot = .ok (.ready prepared)) :
    PlannedAlone tools.casefold prepared := by
  simp only [examineModule, bind_ok] at ready
  obtain ⟨_, _, model, _, rest⟩ := ready
  by_cases encrypted : model.needsDecryption = true
  · simp only [encrypted, Bool.not_true, Bool.false_eq_true, if_false] at rest
    split at rest
    · cases rest
    · obtain ⟨_, _, recovered⟩ := bind_ok.mp rest
      split at recovered
      · cases recovered
      · cases recovered
      · obtain ⟨_, _, tail⟩ := bind_ok.mp recovered
        obtain ⟨_, _, valid⟩ := bind_ok.mp tail
        exact validateModule_alone valid
  · simp only [encrypted, Bool.not_false, if_true] at rest
    exact validateModule_alone rest

theorem firstPassTurn_alone {next : ModulePass} {candidate : GameModuleRecord}
    (turn : firstPassTurn tools pass candidate = .ok next)
    (alone : ∀ prepared ∈ pass.prepared, PlannedAlone tools.casefold prepared) :
    ∀ prepared ∈ next.prepared, PlannedAlone tools.casefold prepared := by
  unfold firstPassTurn at turn
  split at turn
  · cases turn
    exact alone
  · obtain ⟨extracted, _, rest⟩ := bind_ok.mp turn
    obtain ⟨projectRoot, _, examined⟩ := bind_ok.mp rest
    split at examined
    · cases examined
      exact alone
    · rename_i module ready
      cases examined
      intro prepared member
      rcases List.mem_append.mp member with earlier | new
      · exact alone prepared earlier
      · rw [List.mem_singleton.mp new]
        exact examineModule_alone ready
    · split at examined
      · cases examined
        exact alone
      · cases examined

/-- The first pass hands over only modules that can be placed alone. -/
theorem firstPass_alone {candidates : List GameModuleRecord} (ran : firstPass tools candidates = .ok pass) :
    ∀ prepared ∈ pass.prepared, PlannedAlone tools.casefold prepared := by
  have runs : ∀ (candidates : List GameModuleRecord) (start : ModulePass),
      (∀ prepared ∈ start.prepared, PlannedAlone tools.casefold prepared) →
      candidates.foldlM (firstPassTurn tools) start = .ok pass →
      ∀ prepared ∈ pass.prepared, PlannedAlone tools.casefold prepared := by
    intro candidates
    induction candidates with
    | nil =>
      intro start alone ran
      cases ran
      exact alone
    | cons candidate candidates ih =>
      intro start alone ran
      rw [List.foldlM_cons] at ran
      obtain ⟨next, turn, rest⟩ := bind_ok.mp ran
      exact ih next (firstPassTurn_alone turn alone) rest
  exact runs candidates ⟨[], []⟩ (List.forall_mem_nil _) ran

/-- The record of a module carries its placement. -/
def Placed (records : Dict String GameModuleAnalysisRecord) (prepared : PreparedModule) : Prop :=
  ∃ record, records.get? prepared.candidate.path = some record ∧ record.placement.isSome

theorem secondPassTurn_placed {byPath : Dict String ModulePlacement} {s t : GameLinking}
    (turn : secondPassTurn tools byPath s prepared = .ok t) :
    Placed t.records prepared ∧ ∀ other, Placed s.records other → Placed t.records other := by
  obtain ⟨placement, _, rest⟩ := bind_ok.mp turn
  have stored : ∃ record : GameModuleAnalysisRecord, record.placement.isSome ∧
      t.records = s.records.set prepared.candidate.path record := by
    split at rest
    · cases rest
      exact ⟨_, rfl, rfl⟩
    · split at rest
      · cases rest
        exact ⟨_, rfl, rfl⟩
      · cases rest
  obtain ⟨record, placed, same⟩ := stored
  unfold Placed
  rw [same]
  refine ⟨⟨record, by rw [Dict.get?_set, if_pos rfl], placed⟩, ?_⟩
  rintro other ⟨old, found, before⟩
  rw [Dict.get?_set]
  by_cases overwritten : prepared.candidate.path = other.candidate.path
  · exact ⟨record, if_pos overwritten, placed⟩
  · exact ⟨old, (if_neg overwritten).trans found, before⟩

theorem secondPass_placed {byPath : Dict String ModulePlacement} {modules : List PreparedModule} {s t : GameLinking}
    (ran : modules.foldlM (secondPassTurn tools byPath) s = .ok t) :
    (∀ prepared ∈ modules, Placed t.records prepared) ∧ ∀ other, Placed s.records other → Placed t.records other := by
  induction modules generalizing s with
  | nil =>
    cases ran
    exact ⟨List.forall_mem_nil _, fun _ placed => placed⟩
  | cons module modules ih =>
    rw [List.foldlM_cons] at ran
    obtain ⟨next, turn, rest⟩ := bind_ok.mp ran
    obtain ⟨placed, kept⟩ := secondPassTurn_placed turn
    obtain ⟨later, keptLater⟩ := ih rest
    exact ⟨List.forall_mem_cons.mpr ⟨keptLater module placed, later⟩, fun other old => keptLater other (kept other old)⟩

/-- One module cannot abort the planning of the others: the joint call returns, and every module
ends up placed or is reported as failed. -/
structure PlanningIsolated (tools : GameTools) (pass : ModulePass) : Prop where
  returns : ∃ placements, planPrepared tools pass.prepared = .ok placements
  reported : ∀ result, finishModules tools pass = .ok result → ∀ prepared ∈ pass.prepared,
    ∃ record, result.records.get? prepared.candidate.path = some record ∧
      (record.placement.isSome ∨ record.status = .failed)

theorem fits_nil (casefold : String → String) : Fits casefold [] := ⟨trivial, trivial⟩

/-- The joint plan of modules that can each be placed alone exists exactly when their images fit together. -/
theorem planPrepared_returns_iff (distinct : (pass.prepared.map fun prepared => prepared.candidate.path).Nodup)
    (alone : ∀ prepared ∈ pass.prepared, PlannedAlone tools.casefold prepared) :
    (∃ placements, planPrepared tools pass.prepared = .ok placements) ↔
      Fits tools.casefold (pass.prepared.map PreparedModule.input) := by
  by_cases empty : pass.prepared = []
  · rw [planPrepared, if_pos empty, empty]
    exact iff_of_true ⟨[], rfl⟩ (fits_nil _)
  · have paths : ((pass.prepared.map PreparedModule.input).map (·.path)).Nodup := by
      rw [List.map_map]
      exact distinct
    rw [planPrepared, if_neg empty, plan_completes_iff paths]
    constructor
    · rintro ⟨_, _, fits⟩
      exact fits
    · intro fits
      have each : ∀ prepared ∈ pass.prepared, Plannable tools.casefold [prepared.input] := by
        intro prepared member
        have single : ([prepared.input].map (·.path)).Nodup := List.nodup_singleton _
        exact (plan_completes_iff single).mp (alone prepared member)
      refine ⟨?_, ?_, fits⟩
      · intro item member
        obtain ⟨prepared, inPass, rfl⟩ := List.mem_map.mp member
        exact (each prepared inPass).headers _ (List.mem_singleton_self _)
      · intro item member
        obtain ⟨prepared, inPass, rfl⟩ := List.mem_map.mp member
        exact (each prepared inPass).images _ (List.mem_singleton_self _)

/-- Modules that can each be placed alone are kept apart by the joint plan exactly when their images fit together. -/
theorem planningIsolated_iff (distinct : (pass.prepared.map fun prepared => prepared.candidate.path).Nodup)
    (alone : ∀ prepared ∈ pass.prepared, PlannedAlone tools.casefold prepared) :
    PlanningIsolated tools pass ↔ Fits tools.casefold (pass.prepared.map PreparedModule.input) := by
  rw [← planPrepared_returns_iff distinct alone]
  constructor
  · rintro ⟨returns, _⟩
    exact returns
  · intro returns
    refine ⟨returns, fun result finished prepared member => ?_⟩
    obtain ⟨_, _, ran⟩ := bind_ok.mp finished
    have sorted : prepared ∈ sortPrepared tools pass.prepared := (List.mem_insertionSort _).mpr member
    obtain ⟨record, found, placed⟩ := (secondPass_placed ran).1 prepared sorted
    exact ⟨record, found, Or.inl placed⟩

end Game

/-- A pipeline in which every tool succeeds. -/
def plainTools : GameTools where
  casefold := id
  safeTarget _ path := .ok path
  relativeDisplay := id
  readBytes _ := .ok []
  recoverBytes := none
  writeRecovered _ _ := .ok ()
  disassembleFile _ _ := .ok ⟨0, 0, 0, 0, []⟩
  generateProject _ _ _ := .ok ()

/-- A secondary module with 0x1000 bytes in its file and the given size in memory. -/
def sizedModule (path : String) (memsz : Nat) : PreparedModule where
  candidate := ⟨path, "prx", some path, false⟩
  extracted := path
  projectRoot := path
  model := { sampleModel with
    elfHeader := some ⟨0xFFA0, 8, 1, 0, 0x34, 0, 0, 0x34, 0x20, 1, 0x28, 0, 0⟩
    programHeaders := [⟨0, ptLoad, 0, 0, 0, 0x1000, memsz, 5, 16⟩] }
  moduleName := none
  recovery := none

def sizedPass (memsz : Nat) : ModulePass := ⟨[], [sizedModule "a.prx" memsz, sizedModule "b.prx" memsz]⟩

theorem sizedPass_alone {memsz : Nat} (each : ∀ path ∈ ["a.prx", "b.prx"],
    (planModulePlacements id [(sizedModule path memsz).input]).isOk = true) :
    ∀ prepared ∈ (sizedPass memsz).prepared, PlannedAlone plainTools.casefold prepared := by
  have first := each "a.prx" (by simp)
  have second := each "b.prx" (by simp)
  exact List.forall_mem_cons.mpr ⟨exists_ok first, List.forall_mem_singleton.mpr (exists_ok second)⟩

theorem sizedPass_isolated : PlanningIsolated plainTools (sizedPass 0x1000) := by
  have distinct : ((sizedPass 0x1000).prepared.map fun prepared => prepared.candidate.path).Nodup := by decide
  have plan : (planModulePlacements id ((sizedPass 0x1000).prepared.map PreparedModule.input)).isOk = true := by
    decide +kernel
  exact (planningIsolated_iff distinct (sizedPass_alone (by decide +kernel))).mpr
    ((plan_completes_iff (by decide)).mp (exists_ok plan)).fits

/-- Two modules of 2 GiB each, valid alone, abort the whole run. -/
theorem sizedPass_aborts : ¬∀ (tools : GameTools) (pass : ModulePass),
    (pass.prepared.map fun prepared => prepared.candidate.path).Nodup →
    (∀ prepared ∈ pass.prepared, PlannedAlone tools.casefold prepared) → PlanningIsolated tools pass := by
  intro isolated
  obtain ⟨placements, planned⟩ :=
    (isolated plainTools (sizedPass 0x80000000) (by decide) (sizedPass_alone (by decide +kernel))).returns
  have full : (planPrepared plainTools (sizedPass 0x80000000).prepared).isOk = false := by decide +kernel
  rw [planned] at full
  cases full

end PspDisasm
