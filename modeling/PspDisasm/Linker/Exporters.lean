import PspDisasm.Foundations.Permutations
import PspDisasm.Linker.LinkNames

namespace PspDisasm.Linker
open Foundations

/-- An export entry that answers an import. -/
def Fits (listed entry : LibraryEntry) : Prop :=
  entry.library = listed.library ∧ entry.kind = listed.kind ∧ entry.entry.nid = listed.entry.nid

instance (listed entry : LibraryEntry) : Decidable (Fits listed entry) := inferInstanceAs (Decidable (_ ∧ _))

section Spec
variable (units : List ModuleAnalysisInput)

/-- How many export entries answer an import of the module at a place, in all the other modules together. -/
def exportsElsewhere (place : Nat) (listed : LibraryEntry) : Nat :=
  ((units.eraseIdx place).flatMap fun unit => iterEntries unit.model .export).countP fun entry => Fits listed entry

/-- The imports of all modules, each with the place of its module. -/
def importOccurrences : List (Nat × LibraryEntry) :=
  units.zipIdx.flatMap fun item => (iterEntries item.1.model .import).map (item.2, ·)

/-- An import comes to a link, a warning or nothing by the number of entries that answer it. -/
structure CountedOutcome (occurrence : Nat × LibraryEntry) (outcome : ImportOutcome) : Prop where
  unlinked : outcome = .unlinked ↔ exportsElsewhere units occurrence.1 occurrence.2 = 0
  linked : (∃ link, outcome = .linked link) ↔ exportsElsewhere units occurrence.1 occurrence.2 = 1
  ambiguous : (∃ warning, outcome = .ambiguous warning) ↔ 2 ≤ exportsElsewhere units occurrence.1 occurrence.2
  fields : ∀ link, outcome = .linked link → link.library = occurrence.2.library ∧ link.kind = occurrence.2.kind ∧
    link.nid = occurrence.2.entry.nid ∧ link.importAddress = occurrence.2.entry.address

variable (casefold reprText : String → String) (database : NidDatabase)

/-- The links and the warnings of an analysis are those of the imports, one by one. -/
def LinkedByCount : Prop :=
  ∃ outcomes, List.Forall₂ (CountedOutcome units) (importOccurrences units) outcomes ∧
    (linkModules casefold reprText database units).links.Perm (outcomes.filterMap ImportOutcome.link?) ∧
    (linkModules casefold reprText database units).warnings =
      database.warnings ++ (moduleLabels reprText units).2 ++ outcomes.filterMap ImportOutcome.warning?

/-- Two analyses have the same links, resolutions and propagated symbols, however they are ordered. -/
structure SameRecords (first second : ModuleLinkAnalysis) : Prop where
  links : first.links.Perm second.links
  resolutions : first.resolutions.Perm second.resolutions
  symbols : first.propagatedSymbols.Perm second.propagatedSymbols

end Spec

section Counts
variable {casefold reprText : String → String} {database : NidDatabase} {units : List ModuleAnalysisInput}
variable {importing : LabelledUnit} {listed : LibraryEntry}

theorem labels_length : (labelUnits units).labels.length = units.length := by
  rw [labelUnits_labels, List.length_map, length_numberFrom, labelItems, List.length_map]

theorem labelled_zipIdx : (labelled units).map (fun owner => (owner.unit, owner.index)) = units.zipIdx := by
  conv_rhs => rw [← List.map_fst_zip (@labels_length units).ge, List.zipIdx_map]
  rw [labelled, labelledUnits, List.map_map]
  rfl

/-- The exporters of an import, module by module. -/
theorem exportersOf_eq (owners : List LabelledUnit) : exportersOf owners importing listed =
    owners.flatMap fun owner => if owner.index = importing.index then [] else
      ((iterEntries owner.unit.model .export).filter fun entry => Fits listed entry).map (⟨owner, ·⟩) := by
  rw [exportersOf, List.filter_flatMap]
  refine List.flatMap_congr fun owner _ => ?_
  rw [List.filter_map]
  by_cases own : owner.index = importing.index
  · rw [if_pos own, List.map_eq_nil_iff, List.filter_eq_nil_iff]
    intro entry _ fits
    exact (of_decide_eq_true fits).2.2.2 own
  · rw [if_neg own]
    congr 1
    refine List.filter_congr fun entry _ => decide_eq_decide.mpr ⟨?_, ?_⟩
    · rintro ⟨library, kind, nid, _⟩
      exact ⟨library, kind, nid⟩
    · rintro ⟨library, kind, nid⟩
      exact ⟨library, kind, nid, own⟩

theorem exportersOf_length : (exportersOf (labelled units) importing listed).length =
    exportsElsewhere units importing.index listed := by
  have parts : (exportersOf (labelled units) importing listed).map (·.listed) =
      (units.eraseIdx importing.index).flatMap fun unit =>
        (iterEntries unit.model .export).filter fun entry => Fits listed entry := by
    rw [exportersOf_eq, List.map_flatMap, ← flatMap_zipIdx_ne 0 importing.index, ← labelled_zipIdx, List.flatMap_map]
    refine List.flatMap_congr fun owner _ => ?_
    rw [Nat.zero_add]
    split
    · rfl
    · rw [List.map_map]
      exact List.map_id _
  rw [exportsElsewhere, List.countP_eq_length_filter, List.filter_flatMap, ← parts, List.length_map]

theorem countedOutcome (casefold : String → String) (database : NidDatabase) (importing : LabelledUnit) (listed : LibraryEntry) :
    CountedOutcome units (importing.index, listed) (linkImport casefold database (labelled units) importing listed) := by
  have length := @exportersOf_length units importing listed
  cases shape : exportersOf (labelled units) importing listed with
  | nil =>
    rw [shape, List.length_nil] at length
    have outcome : linkImport casefold database (labelled units) importing listed = .unlinked := by rw [linkImport, shape]
    constructor <;> simp [outcome, ← length]
  | cons exporter others =>
    cases others with
    | nil =>
      rw [shape, List.length_singleton] at length
      obtain ⟨link, outcome, fields⟩ : ∃ link, linkImport casefold database (labelled units) importing listed = .linked link ∧
          link.library = listed.library ∧ link.kind = listed.kind ∧ link.nid = listed.entry.nid ∧
            link.importAddress = listed.entry.address := by
        rw [linkImport, shape]
        exact ⟨_, rfl, rfl, rfl, rfl, rfl⟩
      constructor
      · simp [outcome, ← length]
      · simp [outcome, ← length]
      · simp [outcome, ← length]
      · intro other same
        cases outcome.symm.trans same
        exact fields
    | cons second more =>
      rw [shape, List.length_cons, List.length_cons] at length
      obtain ⟨warning, outcome⟩ :
          ∃ warning, linkImport casefold database (labelled units) importing listed = .ambiguous warning := by
        rw [linkImport, shape]
        exact ⟨_, rfl⟩
      constructor <;> simp [outcome, ← length]

theorem linkedByCount (casefold reprText : String → String) (database : NidDatabase) (units : List ModuleAnalysisInput) :
    LinkedByCount units casefold reprText database := by
  refine ⟨(labelled units).flatMap (unitOutcomes casefold database (labelled units)), ?_, List.perm_insertionSort _ _, rfl⟩
  rw [importOccurrences, ← labelled_zipIdx, List.flatMap_map]
  refine forall₂_flatMap fun owner _ => ?_
  rw [unitOutcomes, List.forall₂_map_left_iff, List.forall₂_map_right_iff]
  exact List.forall₂_same.mpr fun listed _ => countedOutcome casefold database owner listed

end Counts

/-- A module under its label, whatever its place in the list. -/
def LabelledUnit.named (owner : LabelledUnit) : ModuleAnalysisInput × String := (owner.unit, owner.label)

def Exporter.named (exporter : Exporter) : (ModuleAnalysisInput × String) × LibraryEntry := (exporter.owner.named, exporter.listed)

section Order
variable {casefold reprText : String → String} {database : NidDatabase} {units other : List ModuleAnalysisInput}
variable {owner importing twin : LabelledUnit} {listed : LibraryEntry}

theorem labelUnits_of_distinct (distinct : (rawNames units).Nodup) : (labelUnits units).labels = rawNames units := by
  have appended : ∀ rest : List ModuleAnalysisInput, rest ⊆ units → ∀ labelling : Labelling,
      (rest.foldl (labelUnit fun name => (rawNames units).count name) labelling).labels = labelling.labels ++ rawNames rest := by
    intro rest inUnits
    induction rest with
    | nil => exact fun labelling => (List.append_nil _).symm
    | cons unit rest ih =>
      intro labelling
      have listed : moduleName unit.model ∈ rawNames units := List.mem_map_of_mem (inUnits List.mem_cons_self)
      have once := List.count_eq_one_of_mem distinct listed
      rw [List.foldl_cons, labelUnit, if_pos once]
      refine (ih (List.subset_of_cons_subset inUnits) _).trans ?_
      rw [List.append_assoc, List.singleton_append]
      rfl
  exact appended units (List.Subset.refl units) ⟨[], [], []⟩

theorem labelled_named (distinct : (rawNames units).Nodup) :
    (labelled units).map LabelledUnit.named = units.map fun unit => (unit, moduleName unit.model) := by
  have zipped : units.zip (rawNames units) = units.map fun unit => (unit, moduleName unit.model) := by
    have both := @List.zip_map' _ _ _ id (fun unit : ModuleAnalysisInput => moduleName unit.model) units
    rwa [List.map_id] at both
  rw [labelled, labelledUnits, labelUnits_of_distinct distinct, zipped, List.map_map]
  exact List.zipIdx_map_fst 0 _

/-- Distinct labels tell the modules apart as their places do. -/
theorem label_eq_iff (distinct : (labelUnits units).labels.Nodup) (member : owner ∈ labelled units)
    (memberToo : importing ∈ labelled units) : owner.index = importing.index ↔ owner.label = importing.label := by
  have labels : ((labelled units).map (·.label)).Nodup := labelled_labels ▸ distinct
  have places : ((labelled units).map (·.index)).Nodup := by
    have second : (labelled units).map (·.index) = ((labelled units).map fun owner => (owner.unit, owner.index)).map Prod.snd := by
      rw [List.map_map]
      rfl
    rw [second, labelled_zipIdx, List.zipIdx_map_snd]
    exact List.nodup_range'
  constructor
  · intro same
    rw [List.inj_on_of_nodup_map places member memberToo same]
  · intro same
    rw [List.inj_on_of_nodup_map labels member memberToo same]

theorem exportersOf_named (distinct : (labelUnits units).labels.Nodup) (member : importing ∈ labelled units) :
    (exportersOf (labelled units) importing listed).map Exporter.named =
      ((labelled units).map LabelledUnit.named).flatMap fun named => if named.2 = importing.label then [] else
        ((iterEntries named.1.model .export).filter fun entry => Fits listed entry).map (named, ·) := by
  rw [exportersOf_eq, List.map_flatMap, List.flatMap_map]
  refine List.flatMap_congr fun owner inUnits => ?_
  have places := label_eq_iff distinct inUnits member
  by_cases own : owner.index = importing.index
  · rw [if_pos own]
    exact (if_pos (places.mp own)).symm
  · rw [if_neg own, List.map_map]
    exact (if_neg fun same => own (places.mpr same)).symm

/-- The link of an import depends on the exporters' names and entries only. -/
theorem linkImport_congr {owners others : List LabelledUnit} (same : importing.named = twin.named)
    (exporters : ((exportersOf owners importing listed).map Exporter.named).Perm
      ((exportersOf others twin listed).map Exporter.named)) :
    (linkImport casefold database owners importing listed).link? = (linkImport casefold database others twin listed).link? := by
  have length := exporters.length_eq
  rw [List.length_map, List.length_map] at length
  obtain ⟨index, unit, label⟩ := importing
  obtain ⟨place, _, _⟩ := twin
  cases same
  rw [linkImport, linkImport]
  rcases shape : exportersOf owners ⟨index, unit, label⟩ listed with _ | ⟨exporter, _ | ⟨second, more⟩⟩
  · rw [shape] at length
    rw [List.length_eq_zero_iff.mp length.symm]
  · rw [shape] at length exporters
    obtain ⟨copy, found⟩ := List.length_eq_one_iff.mp length.symm
    rw [found] at exporters ⊢
    obtain ⟨⟨_, _, _⟩, _⟩ := exporter
    obtain ⟨⟨_, _, _⟩, _⟩ := copy
    cases List.singleton_perm_singleton.mp exporters
    rfl
  · rw [shape] at length
    rcases found : exportersOf others ⟨place, unit, label⟩ listed with _ | ⟨copy, _ | ⟨third, rest⟩⟩
    · rw [found] at length
      cases length
    · rw [found] at length
      cases length
    · rfl

/-- Two lists of the same modules with distinct names. -/
structure Reordered (units other : List ModuleAnalysisInput) : Prop where
  permuted : units.Perm other
  distinct : (rawNames units).Nodup

theorem Reordered.symm (reordered : Reordered units other) : Reordered other units where
  permuted := reordered.permuted.symm
  distinct := (reordered.permuted.map _).nodup_iff.mp reordered.distinct

theorem Reordered.labels (reordered : Reordered units other) : (labelUnits units).labels.Nodup := by
  rw [labelUnits_of_distinct reordered.distinct]
  exact reordered.distinct

theorem Reordered.named (reordered : Reordered units other) :
    ((labelled units).map LabelledUnit.named).Perm ((labelled other).map LabelledUnit.named) := by
  rw [labelled_named reordered.distinct, labelled_named reordered.symm.distinct]
  exact reordered.permuted.map _

theorem Reordered.link? (reordered : Reordered units other) (member : importing ∈ labelled units) (copied : twin ∈ labelled other)
    (same : importing.named = twin.named) (listed : LibraryEntry) :
    (linkImport casefold database (labelled units) importing listed).link? =
      (linkImport casefold database (labelled other) twin listed).link? := by
  refine linkImport_congr same ?_
  have label : importing.label = twin.label := (Prod.mk.inj same).2
  rw [exportersOf_named reordered.labels member, exportersOf_named reordered.symm.labels copied, label]
  exact reordered.named.flatMap_right _

/-- The links of a module, import by import. -/
theorem unitOutcomes_links (owners : List LabelledUnit) (owner : LabelledUnit) :
    (unitOutcomes casefold database owners owner).filterMap ImportOutcome.link? =
      (iterEntries owner.unit.model .import).filterMap fun listed => (linkImport casefold database owners owner listed).link? := by
  rw [unitOutcomes, List.filterMap_map]
  rfl

theorem Reordered.outcomes (reordered : Reordered units other) (member : importing ∈ labelled units) (copied : twin ∈ labelled other)
    (same : importing.named = twin.named) :
    (unitOutcomes casefold database (labelled units) importing).filterMap ImportOutcome.link? =
      (unitOutcomes casefold database (labelled other) twin).filterMap ImportOutcome.link? := by
  have unit : importing.unit = twin.unit := (Prod.mk.inj same).1
  rw [unitOutcomes_links, unitOutcomes_links, unit]
  exact List.filterMap_congr fun listed _ => reordered.link? member copied same listed

theorem unitResolutions_congr (same : importing.named = twin.named) :
    unitResolutions database importing = unitResolutions database twin := by
  obtain ⟨unit, label⟩ := Prod.mk.inj same
  rw [unitResolutions, unitResolutions, unit, label]

theorem Reordered.ownProposals (reordered : Reordered units other) (member : importing ∈ labelled units)
    (copied : twin ∈ labelled other) (same : importing.named = twin.named) :
    ownProposals casefold database units importing = ownProposals casefold database other twin := by
  rw [Linker.ownProposals, Linker.ownProposals, resolutionProposals, resolutionProposals, linkProposals, linkProposals,
    unitResolutions_congr same, reordered.outcomes member copied same]

/-- The propagated symbols are those of the modules, one by one. -/
theorem mem_symbols (distinct : (labelUnits units).labels.Nodup) {record : PropagatedSymbol} :
    record ∈ (linkModules casefold reprText database units).propagatedSymbols ↔
      ∃ owner ∈ labelled units, record ∈ deduplicateProposals (Linker.ownProposals casefold database units owner) := by
  have apart := @symbolsApart_of_nodup casefold reprText database units distinct
  constructor
  · intro listed
    have found := listed
    rw [linkModules_symbols, mem_deduplicateProposals] at found
    rcases (mem_of_selected found).resolve_left nofun |> List.mem_append.mp with resolved | linked
    · obtain ⟨owner, member, proposed⟩ := List.mem_flatMap.mp resolved
      exact ⟨owner, member, (apart owner member record).mp ⟨listed, resolutionProposals_module record proposed⟩⟩
    · obtain ⟨owner, member, proposed⟩ := List.mem_flatMap.mp linked
      exact ⟨owner, member, (apart owner member record).mp ⟨listed, linkProposals_module record proposed⟩⟩
  · rintro ⟨owner, member, proposed⟩
    exact ((apart owner member record).mpr proposed).1

theorem deduplicateProposals_nodup (records : List PropagatedSymbol) : (deduplicateProposals records).Nodup := by
  have kept : WellKept (records.foldl keepBest []) := wellKept_foldl ⟨List.nodup_nil, fun _ _ found => nomatch found⟩
  have owned : (records.foldl keepBest []).keys =
      (records.foldl keepBest []).values.map fun record => (record.module, record.address) := by
    rw [Dict.keys, Dict.values, List.map_map]
    refine List.map_congr_left fun item member => ?_
    exact kept.owned item.1 item.2 (Dict.get?_of_mem kept.unique member)
  rw [deduplicateProposals, (List.perm_insertionSort _ _).nodup_iff]
  exact List.Nodup.of_map _ (owned ▸ kept.unique)

theorem Reordered.symbols_subset (reordered : Reordered units other) {record : PropagatedSymbol}
    (listed : record ∈ (linkModules casefold reprText database units).propagatedSymbols) :
    record ∈ (linkModules casefold reprText database other).propagatedSymbols := by
  obtain ⟨owner, member, proposed⟩ := (mem_symbols reordered.labels).mp listed
  obtain ⟨twin, copied, same⟩ := List.mem_map.mp (reordered.named.mem_iff.mp (List.mem_map_of_mem member))
  refine (mem_symbols reordered.symm.labels).mpr ⟨twin, copied, ?_⟩
  rwa [← reordered.ownProposals member copied same.symm]

theorem Reordered.sameRecords (reordered : Reordered units other) :
    SameRecords (linkModules casefold reprText database units) (linkModules casefold reprText database other) where
  links := by
    refine (List.perm_insertionSort _ _).trans (List.Perm.trans ?_ (List.perm_insertionSort _ _).symm)
    rw [List.filterMap_flatMap, List.filterMap_flatMap]
    exact flatMap_perm_of_map_perm reordered.named fun importing member twin copied same =>
      reordered.outcomes member copied same
  resolutions := by
    refine (List.perm_insertionSort _ _).trans (List.Perm.trans ?_ (List.perm_insertionSort _ _).symm)
    exact flatMap_perm_of_map_perm reordered.named fun importing _ twin _ same => unitResolutions_congr same
  symbols := by
    refine (List.perm_ext_iff_of_nodup (deduplicateProposals_nodup _) (deduplicateProposals_nodup _)).mpr fun record => ?_
    exact ⟨@Reordered.symbols_subset casefold reprText database _ _ reordered record,
      @Reordered.symbols_subset casefold reprText database _ _ reordered.symm record⟩

/-- The links are those of the imports with one exporter, and no order of distinctly named modules changes what is linked,
resolved or propagated. -/
theorem linkModules_counted (casefold reprText : String → String) (database : NidDatabase) (units : List ModuleAnalysisInput) :
    LinkedByCount units casefold reprText database ∧
      ∀ other, units.Perm other → (rawNames units).Nodup →
        SameRecords (linkModules casefold reprText database units) (linkModules casefold reprText database other) :=
  ⟨linkedByCount casefold reprText database units, fun _ permuted distinct => Reordered.sameRecords ⟨permuted, distinct⟩⟩

theorem shadowedModules_counted : LinkedByCount shadowedModules id id shadowingDatabase ∧
    SameRecords (linkModules id id shadowingDatabase shadowedModules)
      (linkModules id id shadowingDatabase shadowedModules.reverse) := by
  obtain ⟨counted, ordered⟩ := linkModules_counted id id shadowingDatabase shadowedModules
  exact ⟨counted, ordered shadowedModules.reverse (List.reverse_perm _).symm (by decide)⟩

end Order

end PspDisasm.Linker
