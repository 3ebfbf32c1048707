import PspDisasm.PlacementFit

namespace PspDisasm
open Foundations

/-- Both plans fail, or both give every path the same placement. -/
def PlansAgree : Except Failure (List ModulePlacement) → Except Failure (List ModulePlacement) → Prop
  | .ok placements, .ok others => ∀ placement, placement ∈ placements ↔ placement ∈ others
  | .error _, .error _ => True
  | _, _ => False

/-- The order in which the modules are listed does not change the plan. -/
def OrderIndependent (casefold : String → String) (inputs : List ModulePlacementInput) : Prop :=
  ∀ order : List ModulePlacementInput, order.Perm inputs →
    PlansAgree (planModulePlacements casefold inputs) (planModulePlacements casefold order)

/-- No two relocatable modules of one group have paths that differ only in case. -/
def NoTies (casefold : String → String) (inputs : List ModulePlacementInput) : Prop :=
  ∀ item ∈ inputs, ∀ other ∈ inputs, isFixed item = false → isFixed other = false → item.isBoot = other.isBoot →
    casefold item.path = casefold other.path → item.path = other.path

section Sorting
variable {casefold : String → String} {inputs order items others : List ModulePlacementInput}
  {item other : ModulePlacementInput}

theorem sortByPath_sorted (casefold : String → String) (items : List ModulePlacementInput) :
    (sortByPath casefold items).Pairwise fun item other => casefold item.path ≤ casefold other.path := by
  have total : Std.Total fun item other : ModulePlacementInput => casefold item.path ≤ casefold other.path :=
    ⟨fun _ _ => String.le_total _ _⟩
  have transitive : IsTrans ModulePlacementInput fun item other => casefold item.path ≤ casefold other.path :=
    ⟨fun _ _ _ first second => String.le_trans first second⟩
  exact List.pairwise_insertionSort _ items

/-- Without ties, sorting forgets the order of its input. -/
theorem sortByPath_eq (perm : items.Perm others)
    (injective : ∀ item ∈ items, ∀ other ∈ items, casefold item.path = casefold other.path → item = other) :
    sortByPath casefold items = sortByPath casefold others := by
  have sorted := sortByPath_perm casefold items
  have same := (sorted.trans perm).trans (sortByPath_perm casefold others).symm
  refine List.Perm.eq_of_pairwise ?_ (sortByPath_sorted casefold items) (sortByPath_sorted casefold others) same
  intro item other member listed below above
  have inItems := sorted.mem_iff.mp member
  have otherInItems := sorted.mem_iff.mp (same.mem_iff.mpr listed)
  exact injective item inItems other otherInItems (String.le_antisymm below above)

theorem item_eq (distinct : (inputs.map (·.path)).Nodup) (member : item ∈ inputs) (listed : other ∈ inputs)
    (path : item.path = other.path) : item = other :=
  List.inj_on_of_nodup_map distinct member listed path

/-- One group of the relocatable modules, in the order in which it is placed. -/
def groupItems (casefold : String → String) (isBoot : Bool) (inputs : List ModulePlacementInput) :
    List ModulePlacementInput :=
  if isBoot then bootItems casefold inputs else secondaryItems casefold inputs

def groupOf (isBoot : Bool) (inputs : List ModulePlacementInput) : List ModulePlacementInput :=
  (inputs.filter fun item => !isFixed item).filter fun item => item.isBoot == isBoot

theorem groupItems_eq (casefold : String → String) (isBoot : Bool) (inputs : List ModulePlacementInput) :
    groupItems casefold isBoot inputs = sortByPath casefold (groupOf isBoot (sortByPath casefold inputs)) := by
  cases isBoot with
  | true =>
    simp only [groupItems, bootItems, groupOf, if_true]
    simp
  | false =>
    simp only [groupItems, secondaryItems, groupOf, Bool.false_eq_true, if_false]
    simp

theorem groupItems_of_noTies (distinct : (inputs.map (·.path)).Nodup) (free : NoTies casefold inputs)
    (perm : order.Perm inputs) (isBoot : Bool) : groupItems casefold isBoot inputs = groupItems casefold isBoot order := by
  have sorted := sortByPath_perm casefold inputs
  have same := sorted.trans (perm.symm.trans (sortByPath_perm casefold order).symm)
  rw [groupItems_eq, groupItems_eq]
  refine sortByPath_eq ((same.filter _).filter _) ?_
  intro item member other listed tie
  simp only [groupOf, List.mem_filter, Bool.not_eq_true', beq_iff_eq] at member listed
  obtain ⟨⟨inSorted, relocatable⟩, group⟩ := member
  obtain ⟨⟨otherInSorted, otherRelocatable⟩, otherGroup⟩ := listed
  have inInputs := sorted.mem_iff.mp inSorted
  have otherInInputs := sorted.mem_iff.mp otherInSorted
  have path := free item inInputs other otherInInputs relocatable otherRelocatable (group.trans otherGroup.symm) tie
  exact item_eq distinct inInputs otherInInputs path

/-- Tied modules are placed in the order in which they are listed. -/
theorem tie_sublist (listed : [item, other].Sublist inputs) (relocatable : isFixed item = false)
    (otherRelocatable : isFixed other = false) (group : item.isBoot = other.isBoot)
    (tie : casefold item.path = casefold other.path) :
    [item, other].Sublist (groupItems casefold item.isBoot inputs) := by
  have kept : groupOf item.isBoot [item, other] = [item, other] := by
    simp [groupOf, relocatable, otherRelocatable, group]
  have tied : casefold item.path ≤ casefold other.path := tie ▸ String.le_refl _
  have first : [item, other].Sublist (sortByPath casefold inputs) := List.pair_sublist_insertionSort tied listed
  have filtered := (first.filter fun item => !isFixed item).filter fun other => other.isBoot == item.isBoot
  rw [groupItems_eq]
  exact List.pair_sublist_insertionSort tied (kept ▸ filtered)

end Sorting

section TwoPlans
variable {casefold : String → String} {inputs order items : List ModulePlacementInput}
  {item other : ModulePlacementInput} {placements placementsOfOrder : List ModulePlacement}

/-- Two passes stand at the same place: they know the same placements and search the same ranges. -/
structure SamePlanning (s t : Planning) : Prop where
  planned : ∀ path, s.planned.get? path = t.planned.get? path
  occupied : ∀ span, span ∈ s.occupied ↔ span ∈ t.occupied
  cursor : s.cursor = t.cursor

theorem analysisPlacement_same {evidence : String} {s t : Planning} {placement otherPlacement : ModulePlacement}
    (same : SamePlanning s t) (nonneg : 0 ≤ s.cursor)
    (placed : analysisPlacement evidence item s.cursor s.occupied = .ok placement)
    (otherPlaced : analysisPlacement evidence item t.cursor t.occupied = .ok otherPlacement) :
    placement = otherPlacement := by
  obtain ⟨l, laid, rest⟩ := bind_ok.mp placed
  obtain ⟨start, found, made⟩ := bind_ok.mp rest
  obtain ⟨l', laid', rest'⟩ := bind_ok.mp otherPlaced
  obtain ⟨start', found', made'⟩ := bind_ok.mp rest'
  cases laid.symm.trans laid'
  have least := (findFree_iff nonneg).mp found
  have least' := (findFree_iff (same.cursor ▸ nonneg)).mp found'
  rw [freeStarts_congr same.occupied, same.cursor] at least
  have starts := least.unique least'
  subst starts
  exact Except.ok.inj (made.symm.trans made')

/-- Two states that have planned the same placement stay the same. -/
theorem SamePlanning.add {s t : Planning} (same : SamePlanning s t) (path : String) (placement : ModulePlacement)
    {cursor : Int} : SamePlanning ⟨s.planned.set path placement, s.occupied ++ [placement.span], cursor⟩
      ⟨t.planned.set path placement, t.occupied ++ [placement.span], cursor⟩ where
  planned key := by rw [Dict.get?_set, Dict.get?_set, same.planned key]
  occupied span := by rw [List.mem_append, List.mem_append, same.occupied span]
  cursor := rfl

/-- A turn keeps two passes at the same place. -/
def TurnsSame (step : Planning → ModulePlacementInput → Except Failure Planning) : Prop :=
  ∀ {s t s' t' item}, SamePlanning s t → 0 ≤ s.cursor → step s item = .ok s' → step t item = .ok t' →
    SamePlanning s' t' ∧ 0 ≤ s'.cursor

theorem placeSecondary_same : TurnsSame placeSecondary := by
  intro s t s' t' item same nonneg turn turn'
  obtain ⟨placement, placed, made⟩ := bind_ok.mp turn
  obtain ⟨placement', placed', made'⟩ := bind_ok.mp turn'
  cases analysisPlacement_same same nonneg placed placed'
  obtain ⟨l, _, free, _, _, _, stop⟩ := analysisPlacement_ok placed
  have after := (findFree_spec nonneg free).1
  have positive := l.positive
  cases made
  cases made'
  exact ⟨same.add item.path placement, by dsimp only; omega⟩

theorem placeExtraBoot_same : TurnsSame placeExtraBoot := by
  intro s t s' t' item same nonneg turn turn'
  obtain ⟨placement, placed, made⟩ := bind_ok.mp turn
  obtain ⟨placement', placed', made'⟩ := bind_ok.mp turn'
  cases analysisPlacement_same same nonneg placed placed'
  cases made
  cases made'
  rw [same.cursor]
  exact ⟨same.add item.path placement, le_max_of_le_left (same.cursor ▸ nonneg)⟩

theorem pass_same {step : Planning → ModulePlacementInput → Except Failure Planning} (turns : TurnsSame step)
    {s t s' t' : Planning} (same : SamePlanning s t) (nonneg : 0 ≤ s.cursor) (ran : items.foldlM step s = .ok s')
    (ran' : items.foldlM step t = .ok t') : SamePlanning s' t' ∧ 0 ≤ s'.cursor := by
  induction items generalizing s t with
  | nil =>
    cases ran
    cases ran'
    exact ⟨same, nonneg⟩
  | cons item items ih =>
    rw [List.foldlM_cons] at ran ran'
    obtain ⟨next, turn, rest⟩ := bind_ok.mp ran
    obtain ⟨next', turn', rest'⟩ := bind_ok.mp ran'
    obtain ⟨further, forward⟩ := turns same nonneg turn turn'
    exact ih further forward rest rest'

theorem placeBoots_same {fixed fixed' : Dict String ModulePlacement} {t t' : Planning}
    (same : ∀ path, fixed.get? path = fixed'.get? path) (ran : placeBoots fixed items = .ok t)
    (ran' : placeBoots fixed' items = .ok t') : SamePlanning t t' ∧ 0 ≤ t.cursor := by
  have base : (0 : Int) ≤ pspFirstUserAllocation := by decide
  cases items with
  | nil =>
    cases ran
    cases ran'
    exact ⟨⟨same, fun _ => Iff.rfl, rfl⟩, base⟩
  | cons first rest =>
    obtain ⟨placement, placed, later⟩ := bind_ok.mp ran
    obtain ⟨placement', placed', later'⟩ := bind_ok.mp ran'
    cases placed.symm.trans placed'
    refine pass_same @placeExtraBoot_same ?_ ?_ later later'
    · refine ⟨fun path => ?_, fun _ => Iff.rfl, rfl⟩
      rw [Dict.get?_set, Dict.get?_set, same path]
    · dsimp only
      omega

/-- The images of the fixed modules do not depend on the order. -/
theorem fixed_mem {images : List ModulePlacement} {planned : Dict String ModulePlacement} {booted : Planning}
    {boots : List ModulePlacement} (stage : BootStage casefold inputs planned booted images boots)
    (placement : ModulePlacement) :
    placement ∈ images ↔ ∃ item ∈ inputs, isFixed item = true ∧ fixedPlacement item = .ok placement := by
  have sorted := sortByPath_perm casefold inputs
  constructor
  · intro member
    obtain ⟨item, listed, placed⟩ := forall₂_mem stage.fixedPairs member
    obtain ⟨inSorted, kind⟩ := List.mem_filter.mp listed
    exact ⟨item, sorted.mem_iff.mp inSorted, kind, placed⟩
  · rintro ⟨item, member, kind, placed⟩
    have listed : item ∈ (sortByPath casefold inputs).filter isFixed :=
      List.mem_filter.mpr ⟨sorted.mem_iff.mpr member, kind⟩
    obtain ⟨other, inImages, same⟩ := forall₂_mem stage.fixedPairs.flip listed
    cases placed.symm.trans same
    exact inImages

theorem lookup_mem {ordered : List ModulePlacementInput} {planned : Dict String ModulePlacement}
    (looked : ordered.mapM (lookupPlacement planned) = .ok placements) (placement : ModulePlacement) :
    placement ∈ placements ↔ ∃ item ∈ ordered, planned.get? item.path = some placement := by
  have pairs := mapM_ok.mp looked
  have found : ∀ {item placement}, lookupPlacement planned item = .ok placement ↔
      planned.get? item.path = some placement := by
    intro item placement
    unfold lookupPlacement
    cases planned.get? item.path <;> simp
  constructor
  · intro member
    obtain ⟨item, listed, lookup⟩ := forall₂_mem pairs member
    exact ⟨item, listed, found.mp lookup⟩
  · rintro ⟨item, member, lookup⟩
    obtain ⟨other, listed, same⟩ := forall₂_mem pairs.flip member
    cases (found.mpr lookup).symm.trans same
    exact listed

theorem bootItems_of_noTies (distinct : (inputs.map (·.path)).Nodup) (free : NoTies casefold inputs)
    (perm : order.Perm inputs) : bootItems casefold inputs = bootItems casefold order :=
  groupItems_of_noTies distinct free perm true

theorem secondaryItems_of_noTies (distinct : (inputs.map (·.path)).Nodup) (free : NoTies casefold inputs)
    (perm : order.Perm inputs) : secondaryItems casefold inputs = secondaryItems casefold order :=
  groupItems_of_noTies distinct free perm false

theorem images_nodup {images boots : List ModulePlacement} {planned : Dict String ModulePlacement} {booted : Planning}
    (distinct : (inputs.map (·.path)).Nodup) (stage : BootStage casefold inputs planned booted images boots) :
    (entries images).keys.Nodup := by
  rw [entries_keys, stage.fixedPaths]
  exact (((sortByPath_perm casefold inputs).map _).nodup_iff.mpr distinct).sublist (List.filter_sublist.map _)

/-- Without ties, two orders of the modules that can both be planned get the same placements. -/
theorem plan_same (distinct : (inputs.map (·.path)).Nodup) (free : NoTies casefold inputs) (perm : order.Perm inputs)
    (planned : planModulePlacements casefold inputs = .ok placements)
    (plannedOrder : planModulePlacements casefold order = .ok placementsOfOrder) (placement : ModulePlacement) :
    placement ∈ placements ↔ placement ∈ placementsOfOrder := by
  have distinctOrder : (order.map (·.path)).Nodup := (perm.map _).nodup_iff.mpr distinct
  obtain ⟨fixed, booted, final, fixedRan, bootRan, secondaryRan, looked⟩ := (plan_stages distinct).mp planned
  obtain ⟨fixed', booted', final', fixedRan', bootRan', secondaryRan', looked'⟩ :=
    (plan_stages distinctOrder).mp plannedOrder
  obtain ⟨images, boots, stage⟩ := boot_stage distinct fixedRan bootRan
  obtain ⟨images', boots', stage'⟩ := boot_stage distinctOrder fixedRan' bootRan'
  rw [← bootItems_of_noTies distinct free perm] at bootRan'
  rw [← secondaryItems_of_noTies distinct free perm] at secondaryRan'
  have sameImages : ∀ image, image ∈ images ↔ image ∈ images' := by
    intro image
    rw [fixed_mem stage, fixed_mem stage']
    simp only [perm.mem_iff]
  have sameFixed : ∀ path, fixed.get? path = fixed'.get? path := by
    rw [stage.entries, stage'.entries]
    refine Dict.get?_congr (images_nodup distinct stage) (images_nodup distinctOrder stage') ?_
    intro entry
    simp only [entries, List.mem_map, sameImages]
  obtain ⟨same, nonneg⟩ := placeBoots_same sameFixed bootRan bootRan'
  have start : SamePlanning { booted with occupied := fixed.values.map (·.span) ++ booted.occupied }
      { booted' with occupied := fixed'.values.map (·.span) ++ booted'.occupied } := by
    refine ⟨same.planned, fun span => ?_, same.cursor⟩
    rw [List.mem_append, List.mem_append, same.occupied, stage.entries, stage'.entries, entries_values, entries_values]
    simp only [List.mem_map, sameImages]
  have ends := (pass_same @placeSecondary_same start nonneg secondaryRan secondaryRan').1
  rw [lookup_mem looked, lookup_mem looked']
  simp only [ends.planned, (sortByPath_perm casefold inputs).mem_iff, (sortByPath_perm casefold order).mem_iff,
    perm.mem_iff]

/-- Without ties, every order of the modules can be planned if one can. -/
theorem plannable_of_noTies (distinct : (inputs.map (·.path)).Nodup) (free : NoTies casefold inputs)
    (perm : order.Perm inputs) : Plannable casefold inputs ↔ Plannable casefold order := by
  have spans : ∀ span, span ∈ fixedSpans inputs ↔ span ∈ fixedSpans order := by
    intro span
    have images : (layouts (order.filter isFixed)).Perm (layouts (inputs.filter isFixed)) :=
      (perm.filter isFixed).filterMap _
    exact ((images.map Layout.span).mem_iff).symm
  have fits : Fits casefold inputs ↔ Fits casefold order := by
    constructor
    · rintro ⟨boots, secondaries⟩
      rw [bootItems_of_noTies distinct free perm] at boots secondaries
      rw [secondaryItems_of_noTies distinct free perm, seats_congr spans] at secondaries
      exact ⟨boots, secondaries⟩
    · rintro ⟨boots, secondaries⟩
      rw [← bootItems_of_noTies distinct free perm] at boots secondaries
      rw [← secondaryItems_of_noTies distinct free perm, ← seats_congr spans] at secondaries
      exact ⟨boots, secondaries⟩
  constructor
  · rintro ⟨headers, images, room⟩
    exact ⟨fun item member => headers item (perm.mem_iff.mp member),
      fun item member => images item (perm.mem_iff.mp member), fits.mp room⟩
  · rintro ⟨headers, images, room⟩
    exact ⟨fun item member => headers item (perm.mem_iff.mpr member),
      fun item member => images item (perm.mem_iff.mpr member), fits.mpr room⟩

/-- One of two plans of a list fails only if the list cannot be planned in that order. -/
theorem plansAgree_of (distinct : (inputs.map (·.path)).Nodup) (distinctOrder : (order.map (·.path)).Nodup)
    (both : Plannable casefold inputs ↔ Plannable casefold order)
    (same : ∀ {placements others}, planModulePlacements casefold inputs = .ok placements →
      planModulePlacements casefold order = .ok others → ∀ placement, placement ∈ placements ↔ placement ∈ others) :
    PlansAgree (planModulePlacements casefold inputs) (planModulePlacements casefold order) := by
  rw [← plan_completes_iff distinct, ← plan_completes_iff distinctOrder] at both
  cases planned : planModulePlacements casefold inputs with
  | ok placements =>
    obtain ⟨others, plannedOrder⟩ := both.mp ⟨placements, planned⟩
    rw [plannedOrder]
    exact same planned plannedOrder
  | error failure =>
    cases plannedOrder : planModulePlacements casefold order with
    | ok others =>
      obtain ⟨placements, succeeded⟩ := both.mpr ⟨others, plannedOrder⟩
      cases planned.symm.trans succeeded
    | error other => trivial

theorem pair_ascending {members : List ModulePlacement} {path otherPath : String}
    (listed : [path, otherPath].Sublist (members.map (·.path)))
    (ascending : members.Pairwise fun placement other => placement.loadAddress < other.loadAddress) :
    ∃ lower ∈ members, ∃ upper ∈ members, lower.path = path ∧ upper.path = otherPath ∧
      lower.loadAddress < upper.loadAddress := by
  obtain ⟨pair, within, same⟩ := List.sublist_map_iff.mp listed
  obtain ⟨lower, rest, rfl, lowerPath, single⟩ := List.map_eq_cons_iff.mp same.symm
  obtain ⟨upper, _, rfl, upperPath, _⟩ := List.map_eq_cons_iff.mp single
  have order := List.rel_of_pairwise_cons (ascending.sublist within) List.mem_cons_self
  exact ⟨lower, within.subset (by simp), upper, within.subset (by simp), lowerPath, upperPath, order⟩

/-- Of two tied modules, the one that is listed first is placed below the other. -/
theorem tie_ascending (distinct : (inputs.map (·.path)).Nodup)
    (planned : planModulePlacements casefold inputs = .ok placements) (listed : [item, other].Sublist inputs)
    (relocatable : isFixed item = false) (otherRelocatable : isFixed other = false) (group : item.isBoot = other.isBoot)
    (tie : casefold item.path = casefold other.path) :
    ∃ lower ∈ placements, ∃ upper ∈ placements, lower.path = item.path ∧ upper.path = other.path ∧
      lower.loadAddress < upper.loadAddress := by
  obtain ⟨fixed, boots, secondaries, parts⟩ := plan_parts distinct planned
  have inGroup := (tie_sublist listed relocatable otherRelocatable group tie).map (·.path)
  have inPlan : ∀ {members : List ModulePlacement}, members ⊆ fixed ++ (boots ++ secondaries) →
      members.map (·.path) = (groupItems casefold item.isBoot inputs).map (·.path) →
      members.Pairwise (fun placement other => placement.loadAddress < other.loadAddress) →
      ∃ lower ∈ placements, ∃ upper ∈ placements, lower.path = item.path ∧ upper.path = other.path ∧
        lower.loadAddress < upper.loadAddress := by
    intro members part paths ascending
    obtain ⟨lower, inMembers, upper, upperIn, rest⟩ := pair_ascending (paths ▸ inGroup) ascending
    exact ⟨lower, parts.perm.mem_iff.mpr (part inMembers), upper, parts.perm.mem_iff.mpr (part upperIn), rest⟩
  cases boot : item.isBoot with
  | true =>
    refine @inPlan boots ?_ ?_ parts.bootAscending
    · intro placement member
      exact List.mem_append_right _ (List.mem_append_left _ member)
    · rw [boot]
      exact parts.bootPaths
  | false =>
    refine @inPlan secondaries ?_ ?_ parts.secondaryAscending
    · intro placement member
      exact List.mem_append_right _ (List.mem_append_right _ member)
    · rw [boot]
      exact parts.secondaryPaths

theorem path_unique (distinct : (inputs.map (·.path)).Nodup)
    (planned : planModulePlacements casefold inputs = .ok placements) : (placements.map (·.path)).Nodup := by
  obtain ⟨_, _, _, parts⟩ := plan_parts distinct planned
  exact parts.paths.nodup_iff.mpr distinct

/-- Where the order makes no difference and some order can be planned, every order gets the same placements. -/
theorem plans_everywhere (distinct : (inputs.map (·.path)).Nodup) (independent : OrderIndependent casefold inputs)
    (perm : order.Perm inputs) (plannable : Plannable casefold order) :
    ∃ placements, planModulePlacements casefold inputs = .ok placements ∧
      ∀ order : List ModulePlacementInput, order.Perm inputs → ∃ others, planModulePlacements casefold order = .ok others ∧
        ∀ placement, placement ∈ placements ↔ placement ∈ others := by
  obtain ⟨others, plannedOrder⟩ := (plan_completes_iff ((perm.map _).nodup_iff.mpr distinct)).mpr plannable
  have agree := independent order perm
  rw [plannedOrder] at agree
  cases planned : planModulePlacements casefold inputs with
  | error failure =>
    rw [planned] at agree
    exact agree.elim
  | ok placements =>
    refine ⟨placements, rfl, fun another perm => ?_⟩
    have agree := independent another perm
    rw [planned] at agree
    cases plannedOther : planModulePlacements casefold another with
    | error failure =>
      rw [plannedOther] at agree
      exact agree.elim
    | ok others =>
      rw [plannedOther] at agree
      exact ⟨others, rfl, agree⟩

/-- Two tied modules make the plan depend on the order, as soon as some order can be planned. -/
theorem tie_depends (distinct : (inputs.map (·.path)).Nodup) (independent : OrderIndependent casefold inputs)
    (perm : order.Perm inputs) (plannable : Plannable casefold order) (member : item ∈ inputs) (listed : other ∈ inputs)
    (relocatable : isFixed item = false) (otherRelocatable : isFixed other = false) (group : item.isBoot = other.isBoot)
    (tie : casefold item.path = casefold other.path) : item.path = other.path := by
  by_contra different
  obtain ⟨placements, planned, every⟩ := plans_everywhere distinct independent perm plannable
  have unique := path_unique distinct planned
  have apart : other ≠ item := fun same => different (congrArg ModulePlacementInput.path same.symm)
  have front := (List.perm_cons_erase member).trans
    ((List.perm_cons_erase ((List.mem_erase_of_ne apart).mpr listed)).cons item)
  have swapped := front.trans (List.Perm.swap other item _)
  have distinctOf : ∀ {order : List ModulePlacementInput}, inputs.Perm order → (order.map (·.path)).Nodup :=
    fun perm => (perm.map _).nodup_iff.mp distinct
  obtain ⟨first, plannedFirst, sameFirst⟩ := every _ front.symm
  obtain ⟨second, plannedSecond, sameSecond⟩ := every _ swapped.symm
  obtain ⟨lower, lowerIn, upper, upperIn, lowerPath, upperPath, below⟩ := tie_ascending (distinctOf front) plannedFirst
    (List.sublist_append_left [item, other] _) relocatable otherRelocatable group tie
  obtain ⟨lower', lowerIn', upper', upperIn', lowerPath', upperPath', below'⟩ := tie_ascending (distinctOf swapped)
    plannedSecond (List.sublist_append_left [other, item] _) otherRelocatable relocatable group.symm tie.symm
  have same : lower = upper' := List.inj_on_of_nodup_map unique ((sameFirst lower).mpr lowerIn)
    ((sameSecond upper').mpr upperIn') (lowerPath.trans upperPath'.symm)
  have same' : upper = lower' := List.inj_on_of_nodup_map unique ((sameFirst upper).mpr upperIn)
    ((sameSecond lower').mpr lowerIn') (upperPath.trans lowerPath'.symm)
  rw [same, same'] at below
  omega

/-- The plan is independent of the order of the modules exactly when no two modules of a group are tied,
or the modules cannot be planned in any order. -/
theorem orderIndependent_iff (distinct : (inputs.map (·.path)).Nodup) : OrderIndependent casefold inputs ↔
    NoTies casefold inputs ∨ ∀ order : List ModulePlacementInput, order.Perm inputs → ¬Plannable casefold order := by
  constructor
  · intro independent
    by_cases plannable : ∃ order : List ModulePlacementInput, order.Perm inputs ∧ Plannable casefold order
    · obtain ⟨order, perm, plans⟩ := plannable
      refine Or.inl fun item member other listed relocatable otherRelocatable group tie => ?_
      exact tie_depends distinct independent perm plans member listed relocatable otherRelocatable group tie
    · exact Or.inr fun order perm plans => plannable ⟨order, perm, plans⟩
  · rintro (free | never) order perm
    · exact plansAgree_of distinct ((perm.map _).nodup_iff.mpr distinct) (plannable_of_noTies distinct free perm)
        (plan_same distinct free perm)
    · have distinctOrder : (order.map (·.path)).Nodup := (perm.map _).nodup_iff.mpr distinct
      have unplanned := never inputs (.refl _)
      refine plansAgree_of distinct distinctOrder (iff_of_false unplanned (never order perm)) ?_
      intro placements others planned
      exact absurd ((plan_completes_iff distinct).mp ⟨placements, planned⟩) unplanned

end TwoPlans

theorem placedDisc_orderIndependent : OrderIndependent id (placedDisc 0x08900000) := by
  have distinct : ((placedDisc 0x08900000).map (·.path)).Nodup := by decide
  have free : NoTies id (placedDisc 0x08900000) := by
    intro item _ other _ _ _ _ same
    exact same
  rw [orderIndependent_iff distinct]
  exact Or.inl free

/-- `casefold` on ASCII names. -/
def foldAscii (path : String) : String := String.ofList (path.toList.map Char.toLower)

/-- Two files whose names differ only in case swap their addresses with the order of the listing. -/
theorem caseTie_depends : ¬∀ (casefold : String → String) (inputs : List ModulePlacementInput),
    (inputs.map (·.path)).Nodup → OrderIndependent casefold inputs := by
  intro independent
  have agree := independent foldAscii [placedModule "A.PRX" false 0xFFA0 0, placedModule "a.prx" false 0xFFA0 0]
    (by decide) [placedModule "a.prx" false 0xFFA0 0, placedModule "A.PRX" false 0xFFA0 0] (List.Perm.swap ..)
  have seen : (List.map fun placement => (placement.path, placement.loadAddress)) <$>
      planModulePlacements foldAscii [placedModule "A.PRX" false 0xFFA0 0, placedModule "a.prx" false 0xFFA0 0] =
        .ok [("A.PRX", 0x08804000), ("a.prx", 0x08805000)] := by decide +kernel
  have swapped : (List.map fun placement => (placement.path, placement.loadAddress)) <$>
      planModulePlacements foldAscii [placedModule "a.prx" false 0xFFA0 0, placedModule "A.PRX" false 0xFFA0 0] =
        .ok [("a.prx", 0x08804000), ("A.PRX", 0x08805000)] := by decide +kernel
  obtain ⟨placements, planned, addresses⟩ := map_ok.mp seen
  obtain ⟨others, plannedOther, otherAddresses⟩ := map_ok.mp swapped
  rw [planned, plannedOther] at agree
  have inFirst : ("A.PRX", 0x08804000) ∈ placements.map fun placement => (placement.path, placement.loadAddress) := by
    rw [addresses]
    simp
  obtain ⟨placement, member, address⟩ := List.mem_map.mp inFirst
  have inSecond : ("A.PRX", 0x08804000) ∈ others.map fun placement => (placement.path, placement.loadAddress) :=
    address ▸ List.mem_map_of_mem ((agree placement).mp member)
  rw [otherAddresses] at inSecond
  exact absurd inSecond (by decide)

end PspDisasm
