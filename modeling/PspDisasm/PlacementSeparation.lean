import PspDisasm.LoadViewFrame
import PspDisasm.PlacementPlan

namespace PspDisasm
open Foundations

/-- Two placements, one of them for analysis only, do not share an address. -/
def AnalysisClear (placement other : ModulePlacement) : Prop :=
  placement.placementKind = .analysis ∨ other.placementKind = .analysis → placement.span.Apart other.span

/-- Every analysis placement is aligned, lies in the 32-bit space, and is apart from all others. -/
structure AnalysisApart (placements : List ModulePlacement) : Prop where
  sound : ∀ placement ∈ placements, placement.placementKind = .analysis → AnalysisSound placement
  apart : placements.Pairwise AnalysisClear

theorem AnalysisClear.symm {placement other : ModulePlacement} (clear : AnalysisClear placement other) :
    AnalysisClear other placement :=
  fun kind => (clear kind.symm).symm

theorem analysisApart_perm {placements other : List ModulePlacement} (perm : placements.Perm other) :
    AnalysisApart placements ↔ AnalysisApart other := by
  constructor
  · rintro ⟨sound, apart⟩
    exact ⟨fun placement member => sound placement (perm.mem_iff.mpr member),
      (perm.pairwise_iff AnalysisClear.symm).mp apart⟩
  · rintro ⟨sound, apart⟩
    exact ⟨fun placement member => sound placement (perm.mem_iff.mp member),
      (perm.pairwise_iff AnalysisClear.symm).mpr apart⟩

/-- The final lookup returns the planned placements in the order of the modules. -/
theorem lookup_perm {ordered : List ModulePlacementInput} {planned placements : List ModulePlacement}
    (keys : (planned.map (·.path)).Perm (ordered.map (·.path))) (distinct : (ordered.map (·.path)).Nodup)
    (ran : ordered.mapM (lookupPlacement (entries planned)) = .ok placements) : placements.Perm planned := by
  have found : ∀ {item placement}, lookupPlacement (entries planned) item = .ok placement →
      (entries planned).get? item.path = some placement := by
    intro item placement lookup
    unfold lookupPlacement at lookup
    split at lookup
    · rename_i present
      cases lookup
      exact present
    · cases lookup
  have results : placements.map some = (ordered.map (·.path)).map (entries planned).get? := by
    have pairs := mapM_ok.mp ran
    clear ran keys distinct
    induction pairs with
    | nil => rfl
    | cons head _ ih => rw [List.map_cons, List.map_cons, List.map_cons, found head, ih]
  have unique : (entries planned).keys.Nodup := by
    rw [entries_keys]
    exact keys.nodup_iff.mpr distinct
  have all := (keys.map (entries planned).get?).symm
  rw [← results, ← entries_keys, Dict.map_get?_keys unique, entries_values] at all
  simpa [List.filterMap_map] using all.filterMap id

section Plan
variable (casefold : String → String)

/-- The boot-marked relocatable modules, in the order in which they are placed. -/
def bootItems (inputs : List ModulePlacementInput) : List ModulePlacementInput :=
  sortByPath casefold (((sortByPath casefold inputs).filter fun item => !isFixed item).filter (·.isBoot))

/-- The relocatable modules without a boot mark, in the order in which they are placed. -/
def secondaryItems (inputs : List ModulePlacementInput) : List ModulePlacementInput :=
  sortByPath casefold (((sortByPath casefold inputs).filter fun item => !isFixed item).filter fun item => !item.isBoot)

/-- The address ranges of the modules with fixed addresses. -/
def fixedSpans (inputs : List ModulePlacementInput) : List Span :=
  (layouts (inputs.filter isFixed)).map (·.span)

/-- The boot-marked modules after the first, stacked from the first user
allocation on, stay clear of every fixed image. -/
def ExtraBootsClear (inputs : List ModulePlacementInput) : Prop :=
  ∀ span ∈ (stackedSpans pspFirstUserAllocation (layouts (bootItems casefold inputs))).tail,
    ∀ fixed ∈ fixedSpans inputs, span.Apart fixed

variable {casefold} {inputs : List ModulePlacementInput} {placements : List ModulePlacement}

/-- The parts of a plan: fixed images, boot modules, secondary modules. -/
structure PlanParts (casefold : String → String) (inputs : List ModulePlacementInput)
    (placements fixed boots secondaries : List ModulePlacement) : Prop where
  perm : placements.Perm (fixed ++ (boots ++ secondaries))
  paths : (placements.map (·.path)).Perm (inputs.map (·.path))
  fixedKind : ∀ placement ∈ fixed, placement.placementKind = .fixed
  fixedSpans : ∀ span, span ∈ fixed.map (·.span) ↔ span ∈ fixedSpans inputs
  bootPaths : boots.map (·.path) = (bootItems casefold inputs).map (·.path)
  bootSpans : boots.map (·.span) = stackedSpans pspFirstUserAllocation (layouts (bootItems casefold inputs))
  bootFirst : ∀ placement ∈ boots.head?, placement.placementKind ≠ .analysis
  bootKind : ∀ placement ∈ boots.tail, placement.placementKind = .analysis
  bootSound : ∀ placement ∈ boots.tail, AnalysisSound placement
  bootApart : boots.Pairwise fun placement other => placement.span.Apart other.span
  bootAscending : boots.Pairwise fun placement other => placement.loadAddress < other.loadAddress
  secondaryPaths : secondaries.map (·.path) = (secondaryItems casefold inputs).map (·.path)
  secondarySound : ∀ placement ∈ secondaries, AnalysisSound placement
  secondaryApart : secondaries.Pairwise fun placement other => placement.span.Apart other.span
  secondaryAscending : secondaries.Pairwise fun placement other => placement.loadAddress < other.loadAddress
  secondaryClear : ∀ placement ∈ secondaries, ∀ other ∈ fixed ++ boots, placement.span.Apart other.span

theorem sortByPath_perm (casefold : String → String) (items : List ModulePlacementInput) : (sortByPath casefold items).Perm items :=
  List.perm_insertionSort _ items

/-- With distinct paths, no path of one part of a split list occurs in the other part. -/
theorem path_not_mem {items front back : List ModulePlacementInput} (distinct : (items.map (·.path)).Nodup)
    (split : (front ++ back).Perm items) :
    (front.map (·.path)).Nodup ∧ (back.map (·.path)).Nodup ∧ ∀ item ∈ back, item.path ∉ front.map (·.path) := by
  have unique := (split.map (·.path)).nodup_iff.mpr distinct
  rw [List.map_append, List.nodup_append] at unique
  obtain ⟨first, second, across⟩ := unique
  exact ⟨first, second, fun item member listed => across _ listed _ (List.mem_map_of_mem member) rfl⟩

/-- The modules that the fixed pass has not planned are the relocatable ones. -/
theorem relocatable_eq {items : List ModulePlacementInput} {fixed : List ModulePlacement}
    (distinct : (items.map (·.path)).Nodup) (paths : fixed.map (·.path) = (items.filter isFixed).map (·.path)) :
    (items.filter fun item => decide (item.path ∉ (entries fixed).keys)) = items.filter fun item => !isFixed item := by
  obtain ⟨_, _, apart⟩ := path_not_mem distinct (List.filter_append_perm isFixed items)
  apply List.filter_congr
  intro item member
  rw [entries_keys, paths]
  cases kind : isFixed item with
  | true =>
    have listed : item.path ∈ (items.filter isFixed).map (·.path) :=
      List.mem_map_of_mem (List.mem_filter.mpr ⟨member, kind⟩)
    simp [listed]
  | false =>
    have absent := apart item (List.mem_filter.mpr ⟨member, by rw [kind]; rfl⟩)
    simp [absent]

/-- A plan in its stages: fixed images, boot modules, secondary modules, final lookup. -/
theorem plan_stages (distinct : (inputs.map (·.path)).Nodup) :
    planModulePlacements casefold inputs = .ok placements ↔ ∃ fixed booted final,
      placeFixed (sortByPath casefold inputs) [] = .ok fixed ∧
      placeBoots fixed (bootItems casefold inputs) = .ok booted ∧
      (secondaryItems casefold inputs).foldlM placeSecondary
        { booted with occupied := fixed.values.map (·.span) ++ booted.occupied } = .ok final ∧
      (sortByPath casefold inputs).mapM (lookupPlacement final.planned) = .ok placements := by
  have ordered : ((sortByPath casefold inputs).map (·.path)).Nodup :=
    ((sortByPath_perm casefold inputs).map _).nodup_iff.mpr distinct
  have relocatable : ∀ {fixed}, placeFixed (sortByPath casefold inputs) [] = .ok fixed →
      ((sortByPath casefold inputs).filter fun item => decide (item.path ∉ fixed.keys)) =
        (sortByPath casefold inputs).filter fun item => !isFixed item := by
    intro fixed ran
    obtain ⟨images, same, paths, _⟩ := placeFixed_ok [] (by simp [Dict.keys]) ordered ran
    rw [same, List.nil_append]
    exact relocatable_eq ordered paths
  simp only [planModulePlacements, bind_ok, bootItems, secondaryItems]
  constructor
  · rintro ⟨fixed, fixedRan, booted, bootRan, final, secondaryRan, looked⟩
    rw [relocatable fixedRan] at bootRan secondaryRan
    exact ⟨fixed, booted, final, fixedRan, bootRan, secondaryRan, looked⟩
  · rintro ⟨fixed, booted, final, fixedRan, bootRan, secondaryRan, looked⟩
    rw [← relocatable fixedRan] at bootRan secondaryRan
    exact ⟨fixed, fixedRan, booted, bootRan, final, secondaryRan, looked⟩

/-- The three groups of modules make up the whole list. -/
theorem groups_perm (casefold : String → String) (inputs : List ModulePlacementInput) :
    ((sortByPath casefold inputs).filter isFixed ++ (bootItems casefold inputs ++ secondaryItems casefold inputs)).Perm
      (sortByPath casefold inputs) := by
  have relocatable := ((sortByPath_perm casefold _).append (sortByPath_perm casefold _)).trans
    (List.filter_append_perm ModulePlacementInput.isBoot ((sortByPath casefold inputs).filter fun item => !isFixed item))
  exact (relocatable.append_left _).trans (List.filter_append_perm isFixed _)

/-- What the first two passes plan. -/
structure BootStage (casefold : String → String) (inputs : List ModulePlacementInput) (planned : Dict String ModulePlacement)
    (booted : Planning) (fixed boots : List ModulePlacement) : Prop where
  entries : planned = entries fixed
  fixedPairs : List.Forall₂ (fun item placement => fixedPlacement item = .ok placement)
    ((sortByPath casefold inputs).filter isFixed) fixed
  fixedPaths : fixed.map (·.path) = ((sortByPath casefold inputs).filter isFixed).map (·.path)
  fixedKind : ∀ placement ∈ fixed, placement.placementKind = .fixed
  fixedSpans : ∀ span, span ∈ fixed.map (·.span) ↔ span ∈ fixedSpans inputs
  boots : BootAdds planned booted (bootItems casefold inputs) boots

theorem boot_stage {fixed : Dict String ModulePlacement} {booted : Planning} (distinct : (inputs.map (·.path)).Nodup)
    (fixedRan : placeFixed (sortByPath casefold inputs) [] = .ok fixed)
    (bootRan : placeBoots fixed (bootItems casefold inputs) = .ok booted) :
    ∃ images boots, BootStage casefold inputs fixed booted images boots := by
  have sorted := sortByPath_perm casefold inputs
  have ordered : ((sortByPath casefold inputs).map (·.path)).Nodup := (sorted.map _).nodup_iff.mpr distinct
  obtain ⟨images, same, fixedPaths, fixedKind, fixedSpan, pairs⟩ := placeFixed_ok [] (by simp [Dict.keys]) ordered fixedRan
  obtain ⟨_, restDistinct, afterFixed⟩ := path_not_mem ordered (groups_perm casefold inputs)
  rw [List.map_append, List.nodup_append] at restDistinct
  rw [List.nil_append] at same
  obtain ⟨boots, adds⟩ := placeBoots_ok fixed (by
    intro item member
    rw [same, entries_keys, fixedPaths]
    exact afterFixed item (List.mem_append_left _ member)) restDistinct.1 bootRan
  refine ⟨images, boots, same, pairs, fixedPaths, fixedKind, fun span => ?_, adds⟩
  have fixedPerm : (layouts ((sortByPath casefold inputs).filter isFixed)).Perm (layouts (inputs.filter isFixed)) :=
    (sorted.filter isFixed).filterMap _
  rw [fixedSpan, fixedSpans]
  exact (fixedPerm.map Layout.span).mem_iff

theorem secondary_stage {fixed : Dict String ModulePlacement} {booted final : Planning} {images boots : List ModulePlacement}
    (distinct : (inputs.map (·.path)).Nodup) (stage : BootStage casefold inputs fixed booted images boots)
    (ran : (secondaryItems casefold inputs).foldlM placeSecondary
      { booted with occupied := fixed.values.map (·.span) ++ booted.occupied } = .ok final) :
    ∃ secondaries,
      PassAdds { booted with occupied := fixed.values.map (·.span) ++ booted.occupied } final
        (secondaryItems casefold inputs) secondaries ∧
      final.planned = entries (images ++ (boots ++ secondaries)) ∧
      ((images ++ (boots ++ secondaries)).map (·.path)).Perm ((sortByPath casefold inputs).map (·.path)) := by
  have groups := groups_perm casefold inputs
  have ordered : ((sortByPath casefold inputs).map (·.path)).Nodup :=
    ((sortByPath_perm casefold inputs).map _).nodup_iff.mpr distinct
  have grouped := groups
  rw [← List.append_assoc] at grouped
  obtain ⟨_, secondaryDistinct, afterBoots⟩ := path_not_mem ordered grouped
  obtain ⟨secondaries, adds⟩ := pass_adds placeSecondary_places
      (s := { booted with occupied := fixed.values.map (·.span) ++ booted.occupied }) stage.boots.cursor (by
    intro item member
    dsimp only
    rw [stage.boots.planned, stage.entries, ← entries_append, entries_keys, List.map_append, stage.fixedPaths,
      stage.boots.paths, ← List.map_append]
    exact afterBoots item member) secondaryDistinct ran
  refine ⟨secondaries, adds, ?_, ?_⟩
  · rw [adds.planned, stage.boots.planned, stage.entries, List.append_assoc, entries_append, entries_append]
  · simp only [List.map_append, stage.fixedPaths, stage.boots.paths, adds.paths]
    simpa only [List.map_append] using groups.map (·.path)

theorem plan_parts (distinct : (inputs.map (·.path)).Nodup)
    (planned : planModulePlacements casefold inputs = .ok placements) :
    ∃ fixed boots secondaries, PlanParts casefold inputs placements fixed boots secondaries := by
  obtain ⟨_, booted, final, fixedRan, bootRan, secondaryRan, looked⟩ := (plan_stages distinct).mp planned
  obtain ⟨fixed, boots, stage⟩ := boot_stage distinct fixedRan bootRan
  obtain ⟨secondaries, adds, plan, paths⟩ := secondary_stage distinct stage secondaryRan
  have ordered : ((sortByPath casefold inputs).map (·.path)).Nodup :=
    ((sortByPath_perm casefold inputs).map _).nodup_iff.mpr distinct
  rw [plan] at looked
  refine ⟨fixed, boots, secondaries, ?_⟩
  exact {
    perm := lookup_perm paths ordered looked
    paths := (((lookup_perm paths ordered looked).map _).trans paths).trans ((sortByPath_perm casefold inputs).map _)
    fixedKind := stage.fixedKind
    fixedSpans := stage.fixedSpans
    bootPaths := stage.boots.paths
    bootSpans := stage.boots.stacked
    bootFirst := stage.boots.first
    bootKind := stage.boots.kind
    bootSound := stage.boots.sound
    bootApart := stage.boots.apart
    bootAscending := stage.boots.ascending
    secondaryPaths := adds.paths
    secondarySound := adds.sound
    secondaryApart := adds.apart
    secondaryAscending := adds.ascending
    secondaryClear := by
      intro placement member other listed
      refine adds.clear placement member other.span ?_
      dsimp only
      rw [stage.boots.occupied, stage.entries, entries_values, ← List.map_append]
      exact List.mem_map_of_mem listed }

theorem PlanParts.not_analysis {fixed boots secondaries : List ModulePlacement}
    (parts : PlanParts casefold inputs placements fixed boots secondaries) {placement : ModulePlacement}
    (member : placement ∈ fixed) : placement.placementKind ≠ .analysis := by
  rw [parts.fixedKind placement member]
  decide

/-- A boot module that the plan had to move is an additional one. -/
theorem PlanParts.boot_tail {fixed boots secondaries : List ModulePlacement}
    (parts : PlanParts casefold inputs placements fixed boots secondaries) {placement : ModulePlacement}
    (member : placement ∈ boots) (kind : placement.placementKind = .analysis) : placement ∈ boots.tail := by
  cases shape : boots with
  | nil =>
    rw [shape] at member
    cases member
  | cons first rest =>
    rw [shape] at member
    rcases List.mem_cons.mp member with rfl | inRest
    · exact absurd kind (parts.bootFirst placement (by rw [shape]; rfl))
    · exact inRest

/-- In the parts of a plan, everything is apart but perhaps an additional boot module from a fixed image. -/
theorem parts_apart_iff {fixed boots secondaries : List ModulePlacement}
    (parts : PlanParts casefold inputs placements fixed boots secondaries) :
    AnalysisApart (fixed ++ (boots ++ secondaries)) ↔
      ∀ placement ∈ boots.tail, ∀ other ∈ fixed, placement.span.Apart other.span := by
  constructor
  · rintro ⟨_, apart⟩ placement member other listed
    rw [List.pairwise_append] at apart
    have clear := apart.2.2 other listed placement (List.mem_append_left _ (List.mem_of_mem_tail member))
    exact (clear (Or.inr (parts.bootKind placement member))).symm
  · intro bootClear
    refine ⟨?_, ?_⟩
    · intro placement member kind
      rcases List.mem_append.mp member with inFixed | inRest
      · exact absurd kind (parts.not_analysis inFixed)
      · rcases List.mem_append.mp inRest with inBoots | inSecondaries
        · exact parts.bootSound placement (parts.boot_tail inBoots kind)
        · exact parts.secondarySound placement inSecondaries
    · rw [List.pairwise_append, List.pairwise_append]
      refine ⟨?_, ⟨?_, ?_, ?_⟩, ?_⟩
      · refine List.pairwise_iff_forall_sublist.mpr fun {first second} both kind => ?_
        have members := both.subset
        rcases kind with kind | kind
        · exact absurd kind (parts.not_analysis (members List.mem_cons_self))
        · exact absurd kind (parts.not_analysis (members (List.mem_cons_of_mem _ List.mem_cons_self)))
      · refine parts.bootApart.imp ?_
        intro placement other apart _
        exact apart
      · refine parts.secondaryApart.imp ?_
        intro placement other apart _
        exact apart
      · intro boot member secondary listed _
        exact (parts.secondaryClear secondary listed boot (List.mem_append_right _ member)).symm
      · intro other listed placement member kind
        rcases List.mem_append.mp member with inBoots | inSecondaries
        · rcases kind with kind | kind
          · exact absurd kind (parts.not_analysis listed)
          · exact (bootClear placement (parts.boot_tail inBoots kind) other listed).symm
        · exact (parts.secondaryClear placement inSecondaries other (List.mem_append_left _ listed)).symm

/-- Analysis placements never collide, except that the boot-marked modules
after the first are stacked without regard to the fixed images. -/
theorem planModulePlacements_apart_iff (distinct : (inputs.map (·.path)).Nodup)
    (planned : planModulePlacements casefold inputs = .ok placements) :
    AnalysisApart placements ↔ ExtraBootsClear casefold inputs := by
  obtain ⟨fixed, boots, secondaries, parts⟩ := plan_parts distinct planned
  rw [analysisApart_perm parts.perm, parts_apart_iff parts, ExtraBootsClear, ← parts.bootSpans, ← List.map_tail]
  constructor
  · intro clear span member existing listed
    obtain ⟨placement, inTail, rfl⟩ := List.mem_map.mp member
    obtain ⟨other, inFixed, rfl⟩ := List.mem_map.mp ((parts.fixedSpans existing).mpr listed)
    exact clear placement inTail other inFixed
  · intro clear placement member other listed
    exact clear _ (List.mem_map_of_mem member) _ ((parts.fixedSpans _).mp (List.mem_map_of_mem listed))

end Plan

/-- A module of 0x1000 bytes, with the given ELF type, whose segment starts at the given address. -/
def placedModule (path : String) (isBoot : Bool) (fileType : Nat) (address : Int) : ModulePlacementInput where
  path := path
  isBoot := isBoot
  model := { sampleModel with
    elfHeader := some ⟨fileType, 8, 1, 0, 0x34, 0, 0, 0x34, 0x20, 1, 0x28, 0, 0⟩
    programHeaders := [⟨0, ptLoad, 0, address, address, 0x1000, 0x1000, 5, 16⟩] }

/-- Two boot modules, one secondary module, and a fixed image at the given address. -/
def placedDisc (fixedAddress : Int) : List ModulePlacementInput :=
  [placedModule "a.prx" true 0xFFA0 0, placedModule "b.prx" true 0xFFA0 0, placedModule "c.prx" false 0xFFA0 0,
    placedModule "main.elf" false etExec fixedAddress]

theorem placedDisc_apart : ∃ placements, planModulePlacements id (placedDisc 0x08900000) = .ok placements ∧
    AnalysisApart placements := by
  obtain ⟨placements, planned⟩ := exists_ok (x := planModulePlacements id (placedDisc 0x08900000)) (by decide +kernel)
  refine ⟨placements, planned, (planModulePlacements_apart_iff (by decide) planned).mpr ?_⟩
  unfold ExtraBootsClear
  decide +kernel

/-- The second boot module is put on top of a fixed image that lies behind the first one. -/
theorem planModulePlacements_collides :
    ¬∀ (casefold : String → String) (inputs : List ModulePlacementInput) (placements : List ModulePlacement),
      (inputs.map (·.path)).Nodup → planModulePlacements casefold inputs = .ok placements →
        AnalysisApart placements := by
  intro apart
  obtain ⟨placements, planned⟩ := exists_ok (x := planModulePlacements id (placedDisc 0x08805000)) (by decide +kernel)
  have seen : (List.map fun placement => (placement.placementKind, placement.span)) <$>
      planModulePlacements id (placedDisc 0x08805000) = .ok [
        (.bootInferred, 0x08804000, 0x08805000), (.analysis, 0x08805000, 0x08806000),
        (.analysis, 0x08806000, 0x08807000), (.fixed, 0x08805000, 0x08806000)] := by decide +kernel
  rw [planned] at seen
  have spans : placements.map (fun placement => (placement.placementKind, placement.span)) = _ := Except.ok.inj seen
  have clear := (apart id _ placements (by decide) planned).apart
  have pairs : (placements.map fun placement => (placement.placementKind, placement.span)).Pairwise
      fun pair other => pair.1 = .analysis ∨ other.1 = .analysis → pair.2.Apart other.2 :=
    List.pairwise_map.mpr clear
  rw [spans] at pairs
  exact absurd pairs (by decide)

end PspDisasm
