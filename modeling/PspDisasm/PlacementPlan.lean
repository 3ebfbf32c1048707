import PspDisasm.Placement

namespace PspDisasm
open Foundations

section Search
variable {layout : Layout} {occupied : List Span} {start stop candidate : Int}

theorem overlap_none (clear : overlap start stop occupied = none) :
    ∀ existing ∈ occupied, Span.Apart (start, stop) existing := by
  intro existing member
  have apart := List.find?_eq_none.mp clear existing ((List.mem_insertionSort _).mpr member)
  simp only [decide_eq_true_eq, not_and, Int.not_lt] at apart
  unfold Span.Apart
  dsimp only
  omega

/-- What a search returns is aligned, lies at or after its start, fits the
address space and meets no occupied range. -/
theorem findFree_spec (nonneg : 0 ≤ start) (found : findFree start layout occupied = .ok candidate) :
    start ≤ candidate ∧ (layout.alignment : Int) ∣ candidate ∧ candidate + layout.imageSize ≤ 2 ^ 32 ∧
      ∀ existing ∈ occupied, Span.Apart (candidate, candidate + layout.imageSize) existing := by
  obtain ⟨final, ran, same⟩ := bind_ok.mp found
  cases same
  have first := alignUp_spec layout.power nonneg
  have step : ∀ s t, (freeLoop layout occupied).test s = true → searchFrom layout occupied s = .ok t →
      (start ≤ s.candidate ∧ (layout.alignment : Int) ∣ s.candidate ∧ (s.found = true →
        s.candidate + layout.imageSize ≤ 2 ^ 32 ∧
          ∀ existing ∈ occupied, Span.Apart (s.candidate, s.candidate + layout.imageSize) existing)) →
      start ≤ t.candidate ∧ (layout.alignment : Int) ∣ t.candidate ∧ (t.found = true →
        t.candidate + layout.imageSize ≤ 2 ^ 32 ∧
          ∀ existing ∈ occupied, Span.Apart (t.candidate, t.candidate + layout.imageSize) existing) := by
    rintro s t going turn ⟨after, aligned, _⟩
    obtain ⟨_, checked, rest⟩ := bind_ok.mp turn
    have room := raiseIf_ok.mp checked
    split at rest
    · rename_i clear
      cases rest
      refine ⟨after, aligned, fun _ => ⟨?_, overlap_none clear⟩⟩
      rw [not_or, Int.not_lt, Int.not_lt] at room
      exact room.2
    · rename_i collision meets
      cases rest
      have beyond := overlap_meets meets
      obtain ⟨alignedUp, up, _⟩ := alignUp_spec layout.power (by omega : 0 ≤ collision.2)
      have searching : s.found = false := by simpa [freeLoop] using going
      exact ⟨by dsimp only; omega, alignedUp, fun found => absurd (searching.symm.trans found) (by decide)⟩
  obtain ⟨⟨after, aligned, free⟩, stopped⟩ := WhileLoop.run_invariant _ step ⟨first.2.1, first.1, by simp⟩ ran
  exact ⟨after, aligned, free (by simpa [freeLoop] using stopped)⟩

/-- Past all occupied ranges, the first candidate is taken. -/
theorem findFree_past (nonneg : 0 ≤ start) (past : ∀ existing ∈ occupied, existing.2 ≤ start)
    (found : findFree start layout occupied = .ok candidate) : candidate = alignUp start layout.alignment := by
  obtain ⟨final, ran, same⟩ := bind_ok.mp found
  cases same
  have step : ∀ s t, (freeLoop layout occupied).test s = true → searchFrom layout occupied s = .ok t →
      s.candidate = alignUp start layout.alignment → t.candidate = alignUp start layout.alignment := by
    rintro s t _ turn first
    obtain ⟨_, _, rest⟩ := bind_ok.mp turn
    split at rest
    · cases rest
      exact first
    · rename_i collision meets
      have beyond := overlap_meets meets
      have listed : collision ∈ occupied := (List.mem_insertionSort _).mp (List.mem_of_find?_eq_some meets)
      have before := past collision listed
      have up := (alignUp_spec layout.power nonneg).2.1
      omega
  exact (WhileLoop.run_invariant _ step rfl ran).1

end Search

/-- An analysis placement is aligned and lies within the 32-bit space. -/
structure AnalysisSound (placement : ModulePlacement) : Prop where
  aligned : (placement.alignment : Int) ∣ placement.loadAddress
  lower : 0 ≤ placement.loadAddress
  nonempty : placement.loadAddress < placement.imageEnd
  upper : placement.imageEnd ≤ 2 ^ 32

/-- The planned items of a list of placements, each under its own path. -/
def entries (placements : List ModulePlacement) : Dict String ModulePlacement :=
  placements.map fun placement => (placement.path, placement)

theorem entries_keys (placements : List ModulePlacement) : (entries placements).keys = placements.map (·.path) := by
  simp only [entries, Dict.keys, List.map_map, Function.comp_def]

theorem entries_values (placements : List ModulePlacement) : (entries placements).values = placements := by
  simp only [entries, Dict.values, List.map_map, Function.comp_def, List.map_id']

theorem entries_append (placements more : List ModulePlacement) :
    entries (placements ++ more) = entries placements ++ entries more := List.map_append

/-- A placement is planned under its own path, at the end of the plan. -/
theorem set_entries {planned : Dict String ModulePlacement} {item : ModulePlacementInput} {placement : ModulePlacement}
    (fresh : item.path ∉ planned.keys) (path : placement.path = item.path) :
    planned.set item.path placement = planned ++ entries [placement] := by
  rw [Dict.set_of_new fresh, entries, List.map_singleton, path]

theorem fresh_after {planned : Dict String ModulePlacement} {item : ModulePlacementInput}
    {items : List ModulePlacementInput} {placement : ModulePlacement}
    (fresh : ∀ other ∈ items, other.path ∉ planned.keys) (path : placement.path = item.path)
    (new : item.path ∉ items.map (·.path)) :
    ∀ other ∈ items, other.path ∉ (planned ++ entries [placement]).keys := by
  intro other member listed
  rw [Dict.keys, List.map_append, List.mem_append] at listed
  rcases listed with before | same
  · exact fresh other member before
  · have same : other.path = item.path := by simpa [entries, path] using same
    exact new (same ▸ List.mem_map_of_mem member)

/-- The layouts of the modules that have one. -/
def layouts (items : List ModulePlacementInput) : List Layout :=
  items.filterMap fun item => (layout item.model).toOption

theorem layouts_cons {item : ModulePlacementInput} {items : List ModulePlacementInput} {l : Layout}
    (laid : layout item.model = .ok l) : layouts (item :: items) = l :: layouts items := by
  rw [layouts, List.filterMap_cons, laid]
  rfl

/-- Images put one after another, each at the next address of its own alignment. -/
def stackedSpans : Int → List Layout → List Span
  | _, [] => []
  | cursor, l :: ls =>
    let start := alignUp cursor l.alignment
    (start, start + l.imageSize) :: stackedSpans (start + l.imageSize) ls

theorem analysisPlacement_ok {evidence : String} {item : ModulePlacementInput} {cursor : Int} {occupied : List Span}
    {placement : ModulePlacement} (placed : analysisPlacement evidence item cursor occupied = .ok placement) :
    ∃ l, layout item.model = .ok l ∧ findFree cursor l occupied = .ok placement.loadAddress ∧
      placement.path = item.path ∧ placement.placementKind = .analysis ∧ placement.alignment = l.alignment ∧
      placement.imageEnd = placement.loadAddress + l.imageSize := by
  obtain ⟨l, laid, rest⟩ := bind_ok.mp placed
  obtain ⟨loadAddress, free, same⟩ := bind_ok.mp rest
  cases same
  exact ⟨l, laid, free, rfl, rfl, rfl, rfl⟩

/-- A turn of a placement pass puts one module into the first free range from
the cursor on, and moves the cursor to its end. -/
def Places (step : Planning → ModulePlacementInput → Except Failure Planning) : Prop :=
  ∀ {s t item}, 0 ≤ s.cursor → step s item = .ok t → ∃ placement evidence,
    analysisPlacement evidence item s.cursor s.occupied = .ok placement ∧
      t = ⟨s.planned.set item.path placement, s.occupied ++ [placement.span], placement.imageEnd⟩

theorem placeSecondary_places : Places placeSecondary := by
  intro s t item _ turn
  obtain ⟨placement, placed, same⟩ := bind_ok.mp turn
  exact ⟨placement, _, placed, (Except.ok.inj same).symm⟩

theorem placeExtraBoot_places : Places placeExtraBoot := by
  intro s t item nonneg turn
  obtain ⟨placement, placed, same⟩ := bind_ok.mp turn
  obtain ⟨l, _, free, _, _, _, stop⟩ := analysisPlacement_ok placed
  have after := (findFree_spec nonneg free).1
  have positive := l.positive
  have forward : max s.cursor placement.imageEnd = placement.imageEnd := max_eq_right (by omega)
  rw [forward] at same
  exact ⟨placement, _, placed, (Except.ok.inj same).symm⟩

/-- Where the last of the stacked images ends. -/
def stackEnd : Int → List Layout → Int
  | cursor, [] => cursor
  | cursor, l :: ls => stackEnd (alignUp cursor l.alignment + l.imageSize) ls

/-- What a pass adds to the plan. -/
structure PassAdds (s t : Planning) (items : List ModulePlacementInput) (placements : List ModulePlacement) : Prop where
  planned : t.planned = s.planned ++ entries placements
  occupied : t.occupied = s.occupied ++ placements.map (·.span)
  cursor : 0 ≤ t.cursor
  paths : placements.map (·.path) = items.map (·.path)
  kind : ∀ placement ∈ placements, placement.placementKind = .analysis
  sound : ∀ placement ∈ placements, AnalysisSound placement
  clear : ∀ placement ∈ placements, ∀ existing ∈ s.occupied, placement.span.Apart existing
  apart : placements.Pairwise fun placement other => placement.span.Apart other.span
  after : ∀ placement ∈ placements, s.cursor ≤ placement.loadAddress
  ascending : placements.Pairwise fun placement other => placement.loadAddress < other.loadAddress
  stacked : (∀ existing ∈ s.occupied, existing.2 ≤ s.cursor) →
    placements.map (·.span) = stackedSpans s.cursor (layouts items) ∧ t.cursor = stackEnd s.cursor (layouts items)

theorem pass_adds {step : Planning → ModulePlacementInput → Except Failure Planning} (places : Places step)
    {items : List ModulePlacementInput} {s t : Planning} (nonneg : 0 ≤ s.cursor)
    (fresh : ∀ item ∈ items, item.path ∉ s.planned.keys) (distinct : (items.map (·.path)).Nodup)
    (ran : items.foldlM step s = .ok t) : ∃ placements, PassAdds s t items placements := by
  induction items generalizing s with
  | nil =>
    cases ran
    exact ⟨[], (List.append_nil _).symm, (List.append_nil _).symm, nonneg, rfl, List.forall_mem_nil _, List.forall_mem_nil _,
      List.forall_mem_nil _, .nil, List.forall_mem_nil _, .nil, fun _ => ⟨rfl, rfl⟩⟩
  | cons item items ih =>
    rw [List.foldlM_cons] at ran
    obtain ⟨next, turn, rest⟩ := bind_ok.mp ran
    obtain ⟨placement, evidence, placed, rfl⟩ := places nonneg turn
    obtain ⟨l, laid, free, path, kind, alignment, stop⟩ := analysisPlacement_ok placed
    obtain ⟨after, aligned, fits, clear⟩ := findFree_spec nonneg free
    have positive := l.positive
    rw [← stop] at fits clear
    obtain ⟨freshItem, freshItems⟩ := List.forall_mem_cons.mp fresh
    rw [List.map_cons, List.nodup_cons] at distinct
    have planned := set_entries freshItem path
    rw [planned] at rest
    obtain ⟨placements, adds⟩ := ih (by dsimp only; omega) (fresh_after freshItems path distinct.1) distinct.2 rest
    have beyond : ∀ other ∈ placements, placement.imageEnd ≤ other.loadAddress := adds.after
    refine ⟨placement :: placements, ?_⟩
    exact {
      planned := by rw [adds.planned, List.append_assoc, ← entries_append, List.singleton_append]
      occupied := by rw [adds.occupied, List.append_assoc, List.singleton_append, List.map_cons]
      cursor := adds.cursor
      paths := by rw [List.map_cons, List.map_cons, path, adds.paths]
      kind := List.forall_mem_cons.mpr ⟨kind, adds.kind⟩
      sound := List.forall_mem_cons.mpr ⟨⟨alignment ▸ aligned, by omega, by omega, fits⟩, adds.sound⟩
      clear := List.forall_mem_cons.mpr ⟨clear, fun other member existing listed =>
        adds.clear other member existing (List.mem_append_left _ listed)⟩
      apart := List.pairwise_cons.mpr ⟨fun other member =>
        (adds.clear other member placement.span (List.mem_append_right _ (List.mem_singleton_self _))).symm, adds.apart⟩
      after := List.forall_mem_cons.mpr ⟨after, fun other member => by
        have later := beyond other member
        omega⟩
      ascending := List.pairwise_cons.mpr ⟨fun other member => by
        have later := beyond other member
        omega, adds.ascending⟩
      stacked := by
        intro past
        have first := findFree_past nonneg past free
        obtain ⟨spans, cursor⟩ := adds.stacked (by
          intro existing listed
          rcases List.mem_append.mp listed with before | new
          · have bound := past existing before
            dsimp only
            omega
          · rw [List.mem_singleton.mp new]
            exact le_rfl)
        rw [List.map_cons, layouts_cons laid, stackedSpans, stackEnd, spans, cursor]
        dsimp only [ModulePlacement.span]
        rw [stop, first]
        exact ⟨rfl, rfl⟩ }

/-- A module with fixed addresses. -/
def isFixed (item : ModulePlacementInput) : Bool := item.model.elfHeader.any fun header => header.fileType = etExec

def Layout.span (l : Layout) : Span := (l.imageBase, l.imageBase + l.imageSize)

theorem fixedPlacement_ok {item : ModulePlacementInput} {placement : ModulePlacement}
    (placed : fixedPlacement item = .ok placement) : ∃ l, layout item.model = .ok l ∧ placement.path = item.path ∧
      placement.placementKind = .fixed ∧ placement.span = l.span := by
  obtain ⟨l, laid, same⟩ := bind_ok.mp placed
  cases same
  exact ⟨l, laid, rfl, rfl, rfl⟩

/-- The first pass plans exactly the fixed modules, at their own addresses. -/
theorem placeFixed_ok {items : List ModulePlacementInput} (fixed : Dict String ModulePlacement)
    {result : Dict String ModulePlacement}
    (fresh : ∀ item ∈ items, item.path ∉ fixed.keys) (distinct : (items.map (·.path)).Nodup)
    (ran : placeFixed items fixed = .ok result) : ∃ placements, result = fixed ++ entries placements ∧
      placements.map (·.path) = (items.filter isFixed).map (·.path) ∧
      (∀ placement ∈ placements, placement.placementKind = .fixed) ∧
      placements.map (·.span) = (layouts (items.filter isFixed)).map (·.span) ∧
      List.Forall₂ (fun item placement => fixedPlacement item = .ok placement) (items.filter isFixed) placements := by
  induction items generalizing fixed with
  | nil =>
    cases ran
    exact ⟨[], (List.append_nil _).symm, rfl, List.forall_mem_nil _, rfl, .nil⟩
  | cons item items ih =>
    obtain ⟨freshItem, freshItems⟩ := List.forall_mem_cons.mp fresh
    rw [List.map_cons, List.nodup_cons] at distinct
    unfold placeFixed at ran
    cases present : item.model.elfHeader with
    | none =>
      rw [present] at ran
      cases ran
    | some header =>
      simp only [present] at ran
      by_cases exec : header.fileType = etExec
      · rw [if_pos exec] at ran
        have listed : isFixed item = true := by simp [isFixed, present, exec]
        obtain ⟨placement, placed, rest⟩ := bind_ok.mp ran
        obtain ⟨l, laid, path, kind, span⟩ := fixedPlacement_ok placed
        rw [set_entries freshItem path] at rest
        obtain ⟨placements, same, paths, kinds, spans, pairs⟩ :=
          ih _ (fresh_after freshItems path distinct.1) distinct.2 rest
        refine ⟨placement :: placements, ?_, ?_, List.forall_mem_cons.mpr ⟨kind, kinds⟩, ?_, ?_⟩
        · rw [same, List.append_assoc, ← entries_append, List.singleton_append]
        · rw [List.map_cons, List.filter_cons_of_pos listed, List.map_cons, path, paths]
        · rw [List.map_cons, List.filter_cons_of_pos listed, layouts_cons laid, List.map_cons, span, spans]
        · rw [List.filter_cons_of_pos listed]
          exact .cons placed pairs
      · rw [if_neg exec] at ran
        have other : ¬isFixed item = true := by simp [isFixed, present, exec]
        rw [List.filter_cons_of_neg other]
        exact ih _ freshItems distinct.2 ran

theorem bootPlacement_ok {item : ModulePlacementInput} {placement : ModulePlacement}
    (placed : bootPlacement item = .ok placement) : ∃ l, layout item.model = .ok l ∧ placement.path = item.path ∧
      placement.placementKind = .bootInferred ∧
      placement.loadAddress = alignUp pspFirstUserAllocation l.alignment ∧
      placement.imageEnd = placement.loadAddress + l.imageSize := by
  obtain ⟨l, laid, rest⟩ := bind_ok.mp placed
  obtain ⟨_, _, same⟩ := bind_ok.mp rest
  cases same
  exact ⟨l, laid, rfl, rfl, rfl, rfl⟩

/-- What the boot pass adds to the fixed placements. -/
structure BootAdds (fixed : Dict String ModulePlacement) (t : Planning) (items : List ModulePlacementInput)
    (placements : List ModulePlacement) : Prop where
  planned : t.planned = fixed ++ entries placements
  occupied : t.occupied = placements.map (·.span)
  cursor : 0 ≤ t.cursor
  paths : placements.map (·.path) = items.map (·.path)
  stacked : placements.map (·.span) = stackedSpans pspFirstUserAllocation (layouts items)
  stackEnd : t.cursor = stackEnd pspFirstUserAllocation (layouts items)
  first : ∀ placement ∈ placements.head?, placement.placementKind ≠ .analysis
  kind : ∀ placement ∈ placements.tail, placement.placementKind = .analysis
  sound : ∀ placement ∈ placements.tail, AnalysisSound placement
  apart : placements.Pairwise fun placement other => placement.span.Apart other.span
  ascending : placements.Pairwise fun placement other => placement.loadAddress < other.loadAddress

theorem placeBoots_ok (fixed : Dict String ModulePlacement) {items : List ModulePlacementInput} {t : Planning}
    (fresh : ∀ item ∈ items, item.path ∉ fixed.keys) (distinct : (items.map (·.path)).Nodup)
    (ran : placeBoots fixed items = .ok t) : ∃ placements, BootAdds fixed t items placements := by
  cases items with
  | nil =>
    cases ran
    exact ⟨[], (List.append_nil _).symm, rfl, Int.natCast_nonneg _, rfl, rfl, rfl, by simp, List.forall_mem_nil _,
      List.forall_mem_nil _, .nil, .nil⟩
  | cons item items =>
    obtain ⟨placement, placed, rest⟩ := bind_ok.mp ran
    obtain ⟨l, laid, path, kind, start, stop⟩ := bootPlacement_ok placed
    obtain ⟨freshItem, freshItems⟩ := List.forall_mem_cons.mp fresh
    rw [List.map_cons, List.nodup_cons] at distinct
    have base : (0 : Int) ≤ pspFirstUserAllocation := by decide
    have up := (alignUp_spec l.power base).2.1
    have positive := l.positive
    have forward : max (pspFirstUserAllocation : Int) placement.imageEnd = placement.imageEnd :=
      max_eq_right (by omega)
    rw [forward, set_entries freshItem path] at rest
    obtain ⟨placements, adds⟩ := pass_adds placeExtraBoot_places (by dsimp only; omega)
      (fresh_after freshItems path distinct.1) distinct.2 rest
    obtain ⟨spans, cursor⟩ := adds.stacked (by
      intro existing listed
      rw [List.mem_singleton.mp listed]
      exact le_rfl)
    have beyond : ∀ other ∈ placements, placement.imageEnd ≤ other.loadAddress := adds.after
    refine ⟨placement :: placements, ?_⟩
    exact {
      planned := by rw [adds.planned, List.append_assoc, ← entries_append, List.singleton_append]
      occupied := by rw [adds.occupied, List.singleton_append, List.map_cons]
      cursor := adds.cursor
      paths := by rw [List.map_cons, List.map_cons, path, adds.paths]
      stacked := by
        rw [List.map_cons, layouts_cons laid, stackedSpans, spans]
        dsimp only [ModulePlacement.span]
        rw [stop, start]
      stackEnd := by
        rw [layouts_cons laid, stackEnd, cursor]
        dsimp only
        rw [stop, start]
      first := by
        rintro _ ⟨⟩
        rw [kind]
        decide
      kind := adds.kind
      sound := adds.sound
      apart := List.pairwise_cons.mpr ⟨fun other member =>
        (adds.clear other member placement.span (List.mem_singleton_self _)).symm, adds.apart⟩
      ascending := List.pairwise_cons.mpr ⟨fun other member => by
        have later := beyond other member
        omega, adds.ascending⟩ }

end PspDisasm
