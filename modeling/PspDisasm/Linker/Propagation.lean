import PspDisasm.Linker.Labels

namespace PspDisasm.Linker
open Foundations

section Selection

/-- The better of two records for one address. -/
def better (current : Option PropagatedSymbol) (record : PropagatedSymbol) : PropagatedSymbol :=
  match current with
  | none => record
  | some current =>
    if current.confidence < record.confidence ∨ (record.confidence = current.confidence ∧ tieKey record < tieKey current) then record
    else current

theorem get?_keepBest (selected : Dict (String × Int) PropagatedSymbol) (record : PropagatedSymbol) (key : String × Int) :
    (keepBest selected record).get? key =
      if (record.module, record.address) = key then some (better (selected.get? key) record) else selected.get? key := by
  by_cases same : (record.module, record.address) = key
  · subst same
    rw [if_pos rfl, keepBest]
    cases found : selected.get? (record.module, record.address) with
    | none => rw [Dict.get?_set, if_pos rfl, better]
    | some current =>
      dsimp only [better]
      split
      · rw [Dict.get?_set, if_pos rfl]
      · exact found
  · rw [if_neg same, keepBest]
    split
    · rw [Dict.get?_set, if_neg same]
    · split
      · rw [Dict.get?_set, if_neg same]
      · rfl

/-- What is selected for a module comes from the records of that module alone. -/
theorem get?_foldl_keepBest {records : List PropagatedSymbol} {module : String} {selected other : Dict (String × Int) PropagatedSymbol}
    (same : ∀ address, selected.get? (module, address) = other.get? (module, address)) (address : Int) :
    (records.foldl keepBest selected).get? (module, address) =
      ((records.filter fun record => record.module = module).foldl keepBest other).get? (module, address) := by
  induction records generalizing selected other with
  | nil => exact same address
  | cons record records ih =>
    rw [List.foldl_cons, List.filter_cons]
    by_cases own : record.module = module
    · rw [if_pos (decide_eq_true own), List.foldl_cons]
      refine ih fun place => ?_
      rw [get?_keepBest, get?_keepBest, same]
    · rw [if_neg fun listed => own (of_decide_eq_true listed)]
      refine ih fun place => ?_
      rw [get?_keepBest, if_neg fun key => own (Prod.mk.inj key).1, same]

theorem better_eq (current : Option PropagatedSymbol) (record : PropagatedSymbol) :
    better current record = record ∨ current = some (better current record) := by
  cases current with
  | none => exact .inl rfl
  | some current =>
    rw [better]
    split
    · exact .inl rfl
    · exact .inr rfl

theorem mem_of_selected {records : List PropagatedSymbol} {selected : Dict (String × Int) PropagatedSymbol} {key : String × Int}
    {record : PropagatedSymbol} (found : (records.foldl keepBest selected).get? key = some record) :
    selected.get? key = some record ∨ record ∈ records := by
  induction records generalizing selected with
  | nil => exact .inl found
  | cons first records ih =>
    rcases ih found with kept | later
    · rw [get?_keepBest] at kept
      split at kept
      · rw [← Option.some.inj kept]
        rcases better_eq (selected.get? key) first with new | old
        · rw [new]
          exact .inr List.mem_cons_self
        · exact .inl old
      · exact .inl kept
    · exact .inr (List.mem_cons_of_mem _ later)

/-- Each record is kept under its own module and address, and no two under one. -/
structure WellKept (selected : Dict (String × Int) PropagatedSymbol) : Prop where
  unique : selected.keys.Nodup
  owned : ∀ key record, selected.get? key = some record → key = (record.module, record.address)

theorem WellKept.keepBest {selected : Dict (String × Int) PropagatedSymbol} (kept : WellKept selected)
    (record : PropagatedSymbol) : WellKept (keepBest selected record) := by
  constructor
  · rw [Linker.keepBest]
    split
    · exact Dict.nodup_set kept.unique
    · split
      · exact Dict.nodup_set kept.unique
      · exact kept.unique
  · intro key found here
    rw [get?_keepBest] at here
    split at here
    · rename_i same
      cases here
      rcases better_eq (selected.get? key) record with new | old
      · rw [new]
        exact same.symm
      · exact kept.owned key _ old
    · exact kept.owned key found here

theorem wellKept_foldl {records : List PropagatedSymbol} {selected : Dict (String × Int) PropagatedSymbol} (kept : WellKept selected) :
    WellKept (records.foldl keepBest selected) := by
  induction records generalizing selected with
  | nil => exact kept
  | cons record records ih => exact ih (kept.keepBest record)

theorem mem_deduplicateProposals {records : List PropagatedSymbol} {record : PropagatedSymbol} :
    record ∈ deduplicateProposals records ↔
      (records.foldl keepBest []).get? (record.module, record.address) = some record := by
  have kept : WellKept (records.foldl keepBest []) := wellKept_foldl ⟨List.nodup_nil, fun _ _ found => nomatch found⟩
  rw [deduplicateProposals, List.mem_insertionSort, Dict.mem_values kept.unique]
  constructor
  · rintro ⟨key, found⟩
    rwa [kept.owned key record found] at found
  · intro found
    exact ⟨_, found⟩

end Selection

section Linking
variable (casefold reprText : String → String) (database : NidDatabase) (units : List ModuleAnalysisInput)

def labelled : List LabelledUnit := labelledUnits units (labelUnits units).labels

/-- The proposals that one module makes. -/
def resolutionProposals (owner : LabelledUnit) : List PropagatedSymbol :=
  (unitResolutions database owner).map (proposalFromResolution casefold)

def linkProposals (owner : LabelledUnit) : List PropagatedSymbol :=
  ((unitOutcomes casefold database (labelled units) owner).filterMap ImportOutcome.link?).filterMap proposalFromLink

def ownProposals (owner : LabelledUnit) : List PropagatedSymbol :=
  resolutionProposals casefold database owner ++ linkProposals casefold database units owner

/-- The propagated symbols under a module's label are those that its own proposals alone come to. -/
def SymbolsApart : Prop :=
  ∀ owner ∈ labelled units, ∀ record : PropagatedSymbol,
    record ∈ (linkModules casefold reprText database units).propagatedSymbols ∧ record.module = owner.label ↔
      record ∈ deduplicateProposals (ownProposals casefold database units owner)

end Linking

section Linking
variable {casefold reprText : String → String} {database : NidDatabase} {units : List ModuleAnalysisInput} {owner : LabelledUnit}

theorem linkModules_modules : (linkModules casefold reprText database units).modules = (labelUnits units).labels := rfl

theorem linkModules_symbols : (linkModules casefold reprText database units).propagatedSymbols =
    deduplicateProposals ((labelled units).flatMap (resolutionProposals casefold database) ++
      (labelled units).flatMap (linkProposals casefold database units)) := by
  show deduplicateProposals (((labelled units).flatMap (unitResolutions database)).map (proposalFromResolution casefold) ++
    (((labelled units).flatMap (unitOutcomes casefold database (labelled units))).filterMap ImportOutcome.link?).filterMap
      proposalFromLink) = _
  rw [List.map_flatMap, List.filterMap_flatMap, List.filterMap_flatMap]
  rfl

theorem resolution_module (module : String) (direction : Direction) (listed : LibraryEntry) :
    (resolution database module direction listed).module = module := by
  unfold resolution
  cases database.resolve listed.library listed.entry.nid listed.kind with
  | none => rfl
  | some symbol => rfl

theorem linkImport_importing {listed : LibraryEntry} {link : ModuleLink}
    (linked : linkImport casefold database (labelled units) owner listed = .linked link) : link.importingModule = owner.label := by
  unfold linkImport at linked
  split at linked
  · cases linked
  · cases linked
    rfl
  · cases linked

theorem proposalFromLink_module {link : ModuleLink} {record : PropagatedSymbol} (proposed : proposalFromLink link = some record) :
    record.module = link.importingModule := by
  unfold proposalFromLink at proposed
  split at proposed
  · cases proposed
    rfl
  · cases proposed

theorem resolutionProposals_module : ∀ record ∈ resolutionProposals casefold database owner, record.module = owner.label := by
  intro record listed
  obtain ⟨resolved, inUnit, rfl⟩ := List.mem_map.mp listed
  obtain ⟨direction, _, inDirection⟩ := List.mem_flatMap.mp inUnit
  obtain ⟨entry, _, rfl⟩ := List.mem_map.mp inDirection
  exact @resolution_module database owner.label direction entry

theorem linkProposals_module : ∀ record ∈ linkProposals casefold database units owner, record.module = owner.label := by
  intro record listed
  obtain ⟨link, inLinks, proposed⟩ := List.mem_filterMap.mp listed
  obtain ⟨outcome, inOutcomes, linked⟩ := List.mem_filterMap.mp inLinks
  obtain ⟨entry, _, ran⟩ := List.mem_map.mp inOutcomes
  rw [proposalFromLink_module proposed]
  cases outcome with
  | linked found =>
    cases linked
    exact linkImport_importing ran
  | unlinked => cases linked
  | ambiguous warning => cases linked

theorem labelled_labels : (labelled units).map (·.label) = (labelUnits units).labels := by
  have length : (labelUnits units).labels.length = units.length := by
    rw [labelUnits_labels, List.length_map, length_numberFrom, labelItems, List.length_map]
  have labels : (((units.zip (labelUnits units).labels).zipIdx.map Prod.fst).map Prod.snd) = (labelUnits units).labels := by
    rw [List.zipIdx_map_fst, List.map_snd_zip length.le]
  refine Eq.trans ?_ labels
  rw [labelled, labelledUnits, List.map_map, List.map_map]
  rfl

/-- Of the items that all modules make, those under one label are the ones of its module. -/
theorem filter_flatMap_label {owners : List LabelledUnit} (distinct : (owners.map (·.label)).Nodup) (member : owner ∈ owners)
    {make : LabelledUnit → List PropagatedSymbol} (made : ∀ owner, ∀ record ∈ make owner, record.module = owner.label) :
    (owners.flatMap make).filter (fun record => record.module = owner.label) = make owner := by
  have other (first : LabelledUnit) (apart : first.label ≠ owner.label) :
      (make first).filter (fun record => record.module = owner.label) = [] := by
    refine List.filter_eq_nil_iff.mpr fun record listed same => apart ?_
    rw [← made first record listed, of_decide_eq_true same]
  induction owners with
  | nil => cases member
  | cons first owners ih =>
    rw [List.map_cons, List.nodup_cons] at distinct
    rw [List.flatMap_cons, List.filter_append]
    rcases List.mem_cons.mp member with rfl | later
    · have rest : (owners.flatMap make).filter (fun record => record.module = owner.label) = [] := by
        refine List.filter_eq_nil_iff.mpr fun record listed same => distinct.1 ?_
        obtain ⟨maker, inOwners, makes⟩ := List.mem_flatMap.mp listed
        rw [← of_decide_eq_true same, made maker record makes]
        exact List.mem_map_of_mem inOwners
      rw [rest, List.append_nil, List.filter_eq_self]
      exact fun record listed => decide_eq_true (made owner record listed)
    · have apart : first.label ≠ owner.label := fun same => distinct.1 (same ▸ List.mem_map_of_mem later)
      rw [other first apart, List.nil_append, ih distinct.2 later]

theorem symbolsApart_of_nodup (distinct : (labelUnits units).labels.Nodup) : SymbolsApart casefold reprText database units := by
  intro owner member record
  rw [← labelled_labels] at distinct
  have own : ((labelled units).flatMap (resolutionProposals casefold database) ++
      (labelled units).flatMap (linkProposals casefold database units)).filter (fun record => record.module = owner.label) =
        ownProposals casefold database units owner := by
    rw [List.filter_append, filter_flatMap_label distinct member fun owner => resolutionProposals_module,
      filter_flatMap_label distinct member fun owner => linkProposals_module, ownProposals]
  have made : ∀ record ∈ ownProposals casefold database units owner, record.module = owner.label := by
    intro record listed
    rcases List.mem_append.mp listed with resolved | linked
    · exact resolutionProposals_module record resolved
    · exact linkProposals_module record linked
  rw [linkModules_symbols, mem_deduplicateProposals, mem_deduplicateProposals, ← own]
  constructor
  · rintro ⟨found, same⟩
    rw [same] at found ⊢
    rwa [← get?_foldl_keepBest fun _ => rfl]
  · intro found
    have same : record.module = owner.label := by
      rw [own] at found
      rcases mem_of_selected found with empty | listed
      · cases empty
      · exact made record listed
    rw [same] at found ⊢
    rw [← get?_foldl_keepBest fun _ => rfl] at found
    exact ⟨found, rfl⟩

/-- The labels are distinct, and no symbols of two modules are merged, just when no name is a label of another module. -/
theorem linkModules_labels_iff (casefold reprText : String → String) (database : NidDatabase) (units : List ModuleAnalysisInput) :
    (linkModules casefold reprText database units).modules.Nodup ∧ SymbolsApart casefold reprText database units ↔
      NamesApart units := by
  rw [linkModules_modules]
  constructor
  · intro apart
    exact NamesApart.of_nodup apart.1
  · intro apart
    exact ⟨apart.nodup, symbolsApart_of_nodup apart.nodup⟩

end Linking

section Samples

/-- A module with one imported function. -/
def importingModel (name sourceName library : String) : ExecutableModel where
  sourceName := sourceName
  inputKind := .elf32
  executableKind := .prx
  needsDecryption := false
  endianness := none
  elfHeader := none
  programHeaders := []
  sections := []
  containerHeader := none
  moduleInfo := some ⟨0, (1, 0), name, 0, 0, 0, 0, 0, 0, .section⟩
  imports := [⟨library, 0, 5, 1, 0, 0x87FFFE0, [⟨0x13572468, 0x8801000, .function, 0x8800FFC⟩], []⟩]
  exports := []
  relocations := []
  warnings := []

/-- Two modules share a name, and a third one is called what the first of them is labelled. -/
def collidingModules : List ModuleAnalysisInput :=
  [⟨importingModel "Shared" "a.prx" "First", none⟩, ⟨importingModel "Shared" "b.prx" "Second", none⟩,
    ⟨importingModel "Shared@a.prx" "c.prx" "Third", none⟩]

theorem collidingModules_merged :
    (linkModules id id ⟨[], []⟩ collidingModules).modules = ["Shared@a.prx", "Shared@b.prx", "Shared@a.prx"] ∧
      ¬(linkModules id id ⟨[], []⟩ collidingModules).modules.Nodup ∧
      (linkModules id id ⟨[], []⟩ collidingModules).propagatedSymbols.map (fun record => (record.module, record.address, record.name)) =
        [("Shared@a.prx", 0x8801000, "First_13572468"), ("Shared@b.prx", 0x8801000, "Second_13572468")] := by
  decide

end Samples

end PspDisasm.Linker
