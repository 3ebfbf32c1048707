import PspDisasm.Foundations.FirstFit
import PspDisasm.PlacementSeparation

namespace PspDisasm
open Foundations

def Layout.request (l : Layout) : Request := ⟨l.imageSize, l.alignment, l.positive⟩

def requests (items : List ModulePlacementInput) : List Request := (layouts items).map Layout.request

section Search
variable {l : Layout} {occupied : List Span} {cursor start candidate : Int}

theorem overlap_some {stop : Int} {existing : Span} (found : overlap start stop occupied = some existing) :
    existing ∈ occupied ∧ start < existing.2 ∧ existing.1 < stop := by
  have meets := List.find?_some found
  exact ⟨(List.mem_insertionSort _).mp (List.mem_of_find?_eq_some found), of_decide_eq_true meets⟩

/-- No multiple lies between a number and its round-up. -/
theorem alignUp_le {value : Int} (nonneg : 0 ≤ value) (aligned : (l.alignment : Int) ∣ start) (after : value ≤ start) :
    alignUp value l.alignment ≤ start := by
  obtain ⟨up, _, near⟩ := alignUp_spec l.power nonneg
  by_contra beyond
  have between := Int.le_of_dvd (by omega) (Int.dvd_sub up aligned)
  omega

/-- A search never goes past a free address. -/
theorem search_before {s t : FreeSearch} (nonneg : 0 ≤ s.candidate ∧ s.candidate ≤ start)
    (free : start ∈ freeStarts (2 ^ 32) occupied cursor l.request) (turn : searchFrom l occupied s = .ok t) :
    0 ≤ t.candidate ∧ t.candidate ≤ start := by
  obtain ⟨_, checked, rest⟩ := bind_ok.mp turn
  have room := raiseIf_ok.mp checked
  split at rest
  · cases rest
    exact nonneg
  · rename_i collision meets
    cases rest
    obtain ⟨listed, beyond, before⟩ := overlap_some meets
    obtain ⟨_, aligned, _, clear⟩ := free
    have past : collision.2 ≤ start := by
      rcases clear collision listed with below | above
      · have stop : start + l.imageSize ≤ collision.1 := below
        omega
      · exact above
    have up := (alignUp_spec l.power (by omega : 0 ≤ collision.2)).2.1
    exact ⟨by dsimp only; omega, alignUp_le (by omega) aligned past⟩

theorem findFree_first (nonneg : 0 ≤ cursor) (free : start ∈ freeStarts (2 ^ 32) occupied cursor l.request) :
    ∃ first ≤ start, findFree cursor l occupied = .ok first := by
  have up := alignUp_spec l.power nonneg
  have begins : 0 ≤ alignUp cursor l.alignment ∧ alignUp cursor l.alignment ≤ start :=
    ⟨by omega, alignUp_le nonneg free.2.1 free.1⟩
  cases ran : (freeLoop l occupied).run ⟨alignUp cursor l.alignment, false⟩ with
  | ok final =>
    have ahead := (WhileLoop.run_invariant (fun s => 0 ≤ s.candidate ∧ s.candidate ≤ start)
      (fun s t _ turn before => search_before before free turn) begins ran).1
    refine ⟨final.candidate, ahead.2, ?_⟩
    rw [findFree, ran]
    rfl
  | error raised =>
    obtain ⟨s, before, _, failure⟩ := WhileLoop.run_raises (fun s => 0 ≤ s.candidate ∧ s.candidate ≤ start)
      (fun s t _ turn before => search_before before free turn) begins ran
    have fits : start + l.imageSize ≤ 2 ^ 32 := free.2.2.1
    have limit : (uint32Limit : Int) = 2 ^ 32 := by decide
    rcases bind_error.mp failure with full | ⟨_, _, rest⟩
    · obtain ⟨outside, _⟩ := raiseIf_error.mp full
      omega
    · split at rest <;> cases rest

/-- A search returns the least free address, and fails only when there is none. -/
theorem findFree_iff (nonneg : 0 ≤ cursor) :
    findFree cursor l occupied = .ok candidate ↔ IsLeast (freeStarts (2 ^ 32) occupied cursor l.request) candidate := by
  constructor
  · intro found
    refine ⟨findFree_spec nonneg found, fun start free => ?_⟩
    obtain ⟨first, ahead, same⟩ := findFree_first nonneg free
    cases found.symm.trans same
    exact ahead
  · intro least
    obtain ⟨first, ahead, found⟩ := findFree_first nonneg least.1
    have same : candidate = first := le_antisymm (least.2 (findFree_spec nonneg found)) ahead
    rw [same]
    exact found

end Search

/-- The module has an image that can be placed. -/
def HasLayout (item : ModulePlacementInput) : Prop := ∃ l, layout item.model = .ok l

theorem requests_cons {item : ModulePlacementInput} {items : List ModulePlacementInput} {l : Layout}
    (laid : layout item.model = .ok l) : requests (item :: items) = l.request :: requests items := by
  rw [requests, layouts_cons laid, List.map_cons, requests]

section Passes
variable {step : Planning → ModulePlacementInput → Except Failure Planning} {s t : Planning}
  {item : ModulePlacementInput} {items : List ModulePlacementInput}

/-- A turn of a pass completes as soon as its module has an image and the search finds room for it. -/
def Completes (step : Planning → ModulePlacementInput → Except Failure Planning) : Prop :=
  ∀ {s item l start}, layout item.model = .ok l → findFree s.cursor l s.occupied = .ok start → ∃ t, step s item = .ok t

theorem placeExtraBoot_completes : Completes placeExtraBoot := by
  intro s item l start laid free
  simp only [placeExtraBoot, analysisPlacement, laid, free, ok_bind]
  exact ⟨_, rfl⟩

theorem placeSecondary_completes : Completes placeSecondary := by
  intro s item l start laid free
  simp only [placeSecondary, analysisPlacement, laid, free, ok_bind]
  exact ⟨_, rfl⟩

/-- A turn takes the least free address. -/
theorem turn_takes (places : Places step) (nonneg : 0 ≤ s.cursor) (turn : step s item = .ok t) :
    ∃ l start, layout item.model = .ok l ∧ IsLeast (freeStarts (2 ^ 32) s.occupied s.cursor l.request) start ∧
      t.occupied = s.occupied ++ [l.request.at start] ∧ t.cursor = start + l.imageSize := by
  obtain ⟨placement, _, placed, rfl⟩ := places nonneg turn
  obtain ⟨l, laid, free, _, _, _, stop⟩ := analysisPlacement_ok placed
  refine ⟨l, placement.loadAddress, laid, (findFree_iff nonneg).mp free, ?_, stop⟩
  dsimp only [ModulePlacement.span, Request.at, Layout.request]
  rw [stop]

/-- A pass completes exactly when there is room for its modules one after another. -/
theorem pass_completes_iff (places : Places step) (completes : Completes step) (nonneg : 0 ≤ s.cursor) :
    (∃ t, items.foldlM step s = .ok t) ↔
      (∀ item ∈ items, HasLayout item) ∧ Seats (2 ^ 32) s.occupied s.cursor (requests items) := by
  induction items generalizing s with
  | nil => exact iff_of_true ⟨s, rfl⟩ ⟨List.forall_mem_nil _, trivial⟩
  | cons item items ih =>
    have later : ∀ {next}, step s item = .ok next → ((∃ t, items.foldlM step next = .ok t) ↔
        (∀ other ∈ items, HasLayout other) ∧ Seats (2 ^ 32) s.occupied s.cursor (requests (item :: items))) := by
      intro next turn
      obtain ⟨l, start, laid, least, occupied, cursor⟩ := turn_takes places nonneg turn
      have after := least.1.1
      have positive := l.positive
      rw [ih (by omega), requests_cons laid, seats_first least, occupied, cursor]
      rfl
    rw [List.forall_mem_cons]
    constructor
    · rintro ⟨t, ran⟩
      rw [List.foldlM_cons] at ran
      obtain ⟨next, turn, rest⟩ := bind_ok.mp ran
      obtain ⟨l, _, laid, _⟩ := turn_takes places nonneg turn
      obtain ⟨images, room⟩ := (later turn).mp ⟨t, rest⟩
      exact ⟨⟨⟨l, laid⟩, images⟩, room⟩
    · rintro ⟨⟨⟨l, laid⟩, images⟩, room⟩
      have seated := room
      rw [requests_cons laid] at seated
      obtain ⟨start, free, _⟩ := seated
      obtain ⟨first, _, found⟩ := findFree_first nonneg free
      obtain ⟨next, turn⟩ := completes laid found
      obtain ⟨t, rest⟩ := (later turn).mpr ⟨images, room⟩
      exact ⟨t, by rw [List.foldlM_cons, turn, ok_bind, rest]⟩

theorem placeFixed_completes_iff (fixed : Dict String ModulePlacement) : (∃ result, placeFixed items fixed = .ok result) ↔
    ∀ item ∈ items, item.model.elfHeader.isSome ∧ (isFixed item = true → HasLayout item) := by
  induction items generalizing fixed with
  | nil => exact iff_of_true ⟨fixed, rfl⟩ (List.forall_mem_nil _)
  | cons item items ih =>
    rw [List.forall_mem_cons, placeFixed]
    cases present : item.model.elfHeader with
    | none => simp
    | some header =>
      by_cases exec : header.fileType = etExec
      · have kind : isFixed item = true := by simp [isFixed, present, exec]
        simp only [if_pos exec, bind_ok, kind, Option.isSome_some, true_and, forall_const]
        constructor
        · rintro ⟨result, placement, placed, rest⟩
          obtain ⟨l, laid, _⟩ := fixedPlacement_ok placed
          exact ⟨⟨l, laid⟩, (ih _).mp ⟨result, rest⟩⟩
        · rintro ⟨⟨l, laid⟩, images⟩
          obtain ⟨placement, placed⟩ : ∃ placement, fixedPlacement item = .ok placement := by
            simp only [fixedPlacement, laid, ok_bind]
            exact ⟨_, rfl⟩
          obtain ⟨result, rest⟩ := (ih (fixed.set item.path placement)).mpr images
          exact ⟨result, placement, placed, rest⟩
      · have kind : isFixed item = false := by simp [isFixed, present, exec]
        simp only [if_neg exec, kind, Option.isSome_some, Bool.false_eq_true, false_implies, and_self, true_and]
        exact ih fixed

theorem firstBoot_least {l : Layout} (fits : alignUp pspFirstUserAllocation l.alignment + l.imageSize ≤ 2 ^ 32) :
    IsLeast (freeStarts (2 ^ 32) [] pspFirstUserAllocation l.request) (alignUp pspFirstUserAllocation l.alignment) := by
  have base : (0 : Int) ≤ pspFirstUserAllocation := by decide
  obtain ⟨aligned, up, _⟩ := alignUp_spec l.power base
  exact ⟨⟨up, aligned, fits, List.forall_mem_nil _⟩, fun start free => alignUp_le base free.2.1 free.1⟩

theorem bootPlacement_completes_iff :
    (∃ placement, bootPlacement item = .ok placement) ↔ ∃ l, layout item.model = .ok l ∧
      alignUp pspFirstUserAllocation l.alignment + l.imageSize ≤ 2 ^ 32 := by
  have limit : (uint32Limit : Int) = 2 ^ 32 := by decide
  constructor
  · rintro ⟨placement, placed⟩
    obtain ⟨l, laid, rest⟩ := bind_ok.mp placed
    obtain ⟨_, checked, _⟩ := bind_ok.mp rest
    have room := raiseIf_ok.mp checked
    exact ⟨l, laid, by omega⟩
  · rintro ⟨l, laid, fits⟩
    have room : raiseIf ((uint32Limit : Int) < alignUp pspFirstUserAllocation l.alignment + l.imageSize)
        (Failure.parseError "Relocatable boot module extends outside the 32-bit address space") = .ok () :=
      raiseIf_ok.mpr (by omega)
    simp only [bootPlacement, laid, ok_bind, room]
    exact ⟨_, rfl⟩

theorem placeBoots_completes_iff (fixed : Dict String ModulePlacement) : (∃ t, placeBoots fixed items = .ok t) ↔
    (∀ item ∈ items, HasLayout item) ∧ Seats (2 ^ 32) [] pspFirstUserAllocation (requests items) := by
  cases items with
  | nil => exact iff_of_true ⟨_, rfl⟩ ⟨List.forall_mem_nil _, trivial⟩
  | cons item items =>
    have base : (0 : Int) ≤ pspFirstUserAllocation := by decide
    have later : ∀ {placement}, bootPlacement item = .ok placement → ((∃ t, items.foldlM placeExtraBoot
        ⟨fixed.set item.path placement, [placement.span], max (pspFirstUserAllocation : Int) placement.imageEnd⟩ = .ok t) ↔
        (∀ other ∈ items, HasLayout other) ∧ Seats (2 ^ 32) [] pspFirstUserAllocation (requests (item :: items))) := by
      intro placement placed
      obtain ⟨l, laid, fits⟩ := bootPlacement_completes_iff.mp ⟨placement, placed⟩
      obtain ⟨other, same, _, _, start, stop⟩ := bootPlacement_ok placed
      cases laid.symm.trans same
      have up := (alignUp_spec l.power base).2.1
      have positive := l.positive
      have forward : max (pspFirstUserAllocation : Int) placement.imageEnd = placement.imageEnd := max_eq_right (by omega)
      rw [pass_completes_iff placeExtraBoot_places placeExtraBoot_completes (by dsimp only; omega), requests_cons laid,
        seats_first (firstBoot_least fits), forward, stop, start]
      dsimp only [ModulePlacement.span, Request.at, Layout.request]
      rw [stop, start]
      rfl
    rw [List.forall_mem_cons]
    constructor
    · rintro ⟨t, ran⟩
      obtain ⟨placement, placed, rest⟩ := bind_ok.mp ran
      obtain ⟨l, laid, _⟩ := bootPlacement_ok placed
      obtain ⟨images, room⟩ := (later placed).mp ⟨t, rest⟩
      exact ⟨⟨⟨l, laid⟩, images⟩, room⟩
    · rintro ⟨⟨⟨l, laid⟩, images⟩, room⟩
      have seated := room
      rw [requests_cons laid] at seated
      obtain ⟨start, ⟨after, aligned, fits, _⟩, _⟩ := seated
      have first := alignUp_le base aligned after
      have below : start + l.imageSize ≤ 2 ^ 32 := fits
      obtain ⟨placement, placed⟩ := bootPlacement_completes_iff.mpr ⟨l, laid, by omega⟩
      obtain ⟨t, rest⟩ := (later placed).mpr ⟨images, room⟩
      exact ⟨t, bind_ok.mpr ⟨placement, placed, rest⟩⟩

end Passes

section Plan
variable (casefold : String → String) (inputs : List ModulePlacementInput)

/-- The images fit the address space in the order of the planner: the boot modules on top of each other
from the first user allocation on, and after them the secondary modules around the fixed images. -/
structure Fits : Prop where
  boots : Seats (2 ^ 32) [] pspFirstUserAllocation (requests (bootItems casefold inputs))
  secondaries : Seats (2 ^ 32) (fixedSpans inputs) (stackEnd pspFirstUserAllocation (layouts (bootItems casefold inputs)))
    (requests (secondaryItems casefold inputs))

structure Plannable : Prop where
  headers : ∀ item ∈ inputs, item.model.elfHeader.isSome
  images : ∀ item ∈ inputs, HasLayout item
  fits : Fits casefold inputs

variable {casefold inputs}

theorem stackEnd_le {cursor : Int} (nonneg : 0 ≤ cursor) (ls : List Layout) : cursor ≤ stackEnd cursor ls := by
  induction ls generalizing cursor with
  | nil => exact le_rfl
  | cons l ls ih =>
    have up := (alignUp_spec l.power nonneg).2.1
    have positive := l.positive
    have further := ih (by omega : 0 ≤ alignUp cursor l.alignment + l.imageSize)
    rw [stackEnd]
    omega

theorem stackedSpans_le {cursor : Int} (nonneg : 0 ≤ cursor) {ls : List Layout} {span : Span}
    (member : span ∈ stackedSpans cursor ls) : span.2 ≤ stackEnd cursor ls := by
  induction ls generalizing cursor with
  | nil => cases member
  | cons l ls ih =>
    have up := (alignUp_spec l.power nonneg).2.1
    have positive := l.positive
    rw [stackEnd]
    rcases List.mem_cons.mp member with rfl | later
    · exact stackEnd_le (by omega) ls
    · exact ih (by omega) later

/-- After the first two passes, the third completes exactly when the secondary modules have room. -/
theorem secondary_completes_iff {fixed : Dict String ModulePlacement} {booted : Planning} {images boots : List ModulePlacement}
    (stage : BootStage casefold inputs fixed booted images boots) :
    (∃ t, (secondaryItems casefold inputs).foldlM placeSecondary
        { booted with occupied := fixed.values.map (·.span) ++ booted.occupied } = .ok t) ↔
      (∀ item ∈ secondaryItems casefold inputs, HasLayout item) ∧
        Seats (2 ^ 32) (fixedSpans inputs) (stackEnd pspFirstUserAllocation (layouts (bootItems casefold inputs)))
          (requests (secondaryItems casefold inputs)) := by
  have base : (0 : Int) ≤ pspFirstUserAllocation := by decide
  rw [pass_completes_iff (s := { booted with occupied := fixed.values.map (·.span) ++ booted.occupied })
    placeSecondary_places placeSecondary_completes stage.boots.cursor]
  dsimp only
  rw [stage.boots.stackEnd, stage.entries, entries_values, stage.boots.occupied, stage.boots.stacked,
    seats_behind fun existing member => stackedSpans_le base member, seats_congr stage.fixedSpans]

theorem lookups_complete {ordered : List ModulePlacementInput} {planned : Dict String ModulePlacement}
    (listed : ∀ item ∈ ordered, item.path ∈ planned.keys) :
    ∃ placements, ordered.mapM (lookupPlacement planned) = .ok placements := by
  have each : ∀ item ∈ ordered, ∃ placement, lookupPlacement planned item = .ok placement ∧ True := by
    intro item member
    obtain ⟨placement, found⟩ := Dict.get?_of_key (listed item member)
    exact ⟨placement, by rw [lookupPlacement, found], trivial⟩
  obtain ⟨placements, looked, _⟩ := mapM_total each
  exact ⟨placements, looked⟩

theorem forall_groups {P : ModulePlacementInput → Prop} : (∀ item ∈ inputs, P item) ↔
    (∀ item ∈ (sortByPath casefold inputs).filter isFixed, P item) ∧
      (∀ item ∈ bootItems casefold inputs, P item) ∧ ∀ item ∈ secondaryItems casefold inputs, P item := by
  have all := (groups_perm casefold inputs).trans (sortByPath_perm casefold inputs)
  simp only [← all.mem_iff, List.mem_append, or_imp, forall_and]

/-- The planner succeeds exactly when every module has an ELF header and an image, and the images fit. -/
theorem plan_completes_iff (distinct : (inputs.map (·.path)).Nodup) :
    (∃ placements, planModulePlacements casefold inputs = .ok placements) ↔ Plannable casefold inputs := by
  have sorted := sortByPath_perm casefold inputs
  constructor
  · rintro ⟨placements, planned⟩
    obtain ⟨fixed, booted, final, fixedRan, bootRan, secondaryRan, _⟩ := (plan_stages distinct).mp planned
    obtain ⟨images, boots, stage⟩ := boot_stage distinct fixedRan bootRan
    have first := (placeFixed_completes_iff []).mp ⟨fixed, fixedRan⟩
    obtain ⟨bootImages, bootRoom⟩ := (placeBoots_completes_iff fixed).mp ⟨booted, bootRan⟩
    obtain ⟨secondaryImages, secondaryRoom⟩ := (secondary_completes_iff stage).mp ⟨final, secondaryRan⟩
    refine ⟨fun item member => (first item (sorted.mem_iff.mpr member)).1, ?_, ⟨bootRoom, secondaryRoom⟩⟩
    refine forall_groups.mpr ⟨?_, bootImages, secondaryImages⟩
    intro item member
    obtain ⟨listed, kind⟩ := List.mem_filter.mp member
    exact (first item listed).2 kind
  · rintro ⟨headers, images, ⟨bootRoom, secondaryRoom⟩⟩
    obtain ⟨_, bootImages, secondaryImages⟩ := forall_groups.mp images
    obtain ⟨fixed, fixedRan⟩ := (placeFixed_completes_iff []).mpr
      fun item (member : item ∈ sortByPath casefold inputs) => ⟨headers item (sorted.mem_iff.mp member), fun _ => images item (sorted.mem_iff.mp member)⟩
    obtain ⟨booted, bootRan⟩ := (placeBoots_completes_iff fixed).mpr ⟨bootImages, bootRoom⟩
    obtain ⟨_, _, stage⟩ := boot_stage distinct fixedRan bootRan
    obtain ⟨final, secondaryRan⟩ := (secondary_completes_iff stage).mpr ⟨secondaryImages, secondaryRoom⟩
    obtain ⟨secondaries, _, plan, paths⟩ := secondary_stage distinct stage secondaryRan
    have listed : ∀ item ∈ sortByPath casefold inputs, item.path ∈ final.planned.keys := by
      intro item member
      rw [plan, entries_keys]
      exact paths.mem_iff.mpr (List.mem_map_of_mem member)
    obtain ⟨placements, looked⟩ := lookups_complete listed
    exact ⟨placements, (plan_stages distinct).mpr ⟨fixed, booted, final, fixedRan, bootRan, secondaryRan, looked⟩⟩

end Plan

end PspDisasm
