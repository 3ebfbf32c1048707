import PspDisasm.Runtime.CallSites

namespace PspDisasm
open Foundations

section Removal
variable {reprText : String → String} {reconcile : RuntimeBreakpointObservation → Except String RuntimeReconciliation}
  {before after : List ObservationGroup} {removed group : ObservationGroup} {i : Nat}

theorem siteTargets_removed (unplaced : staticAddressOf reconcile removed = none) (site : String) :
    siteTargets reconcile (before ++ removed :: after) site = siteTargets reconcile (before ++ after) site := by
  have untouched : siteTarget reconcile site removed = none := by
    rw [siteTarget, unplaced, Option.map_none, ite_self]
  rw [siteTargets, siteTargets, List.filterMap_append, List.filterMap_append, List.filterMap_cons_none untouched]

theorem timesSeen_removed (key : String × Option Int) : timesSeen reconcile (before ++ removed :: after) key =
    timesSeen reconcile (before ++ after) key + if countKey reconcile removed = some key then 1 else 0 := by
  simp only [timesSeen, List.countP_append, List.countP_cons, decide_eq_true_eq]
  omega

/-- The results of a group in two batches agree when its key was seen equally often. -/
theorem finalizeGroup_eq_iff {targets : List Int} {earlier other : List ObservationGroup} :
    finalizeGroup reprText targets group (interimResult reconcile earlier group) =
        finalizeGroup reprText targets group (interimResult reconcile other group) ↔
      ∀ key, countKey reconcile group = some key → timesSeen reconcile earlier key = timesSeen reconcile other key := by
  cases ran : reconcile group.observation with
  | error reason =>
    rw [interimResult, interimResult, countKey, ran]
    refine iff_of_true rfl fun key impossible => ?_
    cases impossible
  | ok base =>
    rw [interimResult_of_ok ran, interimResult_of_ok ran, countKey, ran]
    constructor
    · intro same key own
      have counts := congrArg RuntimeReconciliation.observationCount same
      rw [finalizeGroup_count, finalizeGroup_count] at counts
      rw [← Option.some.inj own]
      exact Nat.succ.inj counts
    · intro same
      rw [same _ rfl]

/-- A group before the removed one has seen the same groups. -/
theorem result_before (unplaced : staticAddressOf reconcile removed = none) (here : i < before.length) :
    (reconcileGroups reprText reconcile (before ++ removed :: after))[i]? =
      (reconcileGroups reprText reconcile (before ++ after))[i]? := by
  rw [reconcileGroups_getElem?, reconcileGroups_getElem?, List.getElem?_append_left here, List.getElem?_append_left here,
    List.take_append_of_le_length here.le, List.take_append_of_le_length here.le]
  simp only [siteTargets_removed unplaced]

theorem result_after (unplaced : staticAddressOf reconcile removed = none) (k : Nat) :
    (reconcileGroups reprText reconcile (before ++ removed :: after))[before.length + k + 1]? = after[k]?.map fun later =>
      finalizeGroup reprText (siteTargets reconcile (before ++ after) later.callSiteKey) later
        (interimResult reconcile (before ++ removed :: after.take k) later) := by
  have position : before.length + k + 1 - before.length = k + 1 := by omega
  rw [reconcileGroups_getElem?, List.getElem?_append_right (by omega), List.take_append, List.take_of_length_le (by omega),
    position, List.getElem?_cons_succ, List.take_succ_cons]
  simp only [siteTargets_removed unplaced]

theorem result_without (k : Nat) :
    (reconcileGroups reprText reconcile (before ++ after))[before.length + k]? = after[k]?.map fun later =>
      finalizeGroup reprText (siteTargets reconcile (before ++ after) later.callSiteKey) later
        (interimResult reconcile (before ++ after.take k) later) := by
  have position : before.length + k - before.length = k := by omega
  rw [reconcileGroups_getElem?, List.getElem?_append_right (by omega), List.take_append, List.take_of_length_le (by omega),
    position]

/-- The removed group changes just the later results that are counted under its key. -/
theorem results_removed_iff (unplaced : staticAddressOf reconcile removed = none) :
    (reconcileGroups reprText reconcile (before ++ removed :: after)).eraseIdx before.length =
        reconcileGroups reprText reconcile (before ++ after) ↔
      ∀ later ∈ after, ∀ key, countKey reconcile later = some key → countKey reconcile removed ≠ some key := by
  have seen (k : Nat) (key : String × Option Int) :
      timesSeen reconcile (before ++ removed :: after.take k) key = timesSeen reconcile (before ++ after.take k) key ↔
        countKey reconcile removed ≠ some key := by
    rw [timesSeen_removed]
    split
    · exact iff_of_false (by omega) fun differs => differs ‹_›
    · exact iff_of_true rfl ‹_›
  constructor
  · intro same later member key own
    obtain ⟨k, here⟩ := List.mem_iff_getElem?.mp member
    have result := congrArg (fun results => results[before.length + k]?) same
    rw [List.getElem?_eraseIdx_of_ge (by omega), result_after unplaced, result_without, here] at result
    exact (seen k key).mp (finalizeGroup_eq_iff.mp (Option.some.inj result) key own)
  · intro apart
    refine List.ext_getElem? fun i => ?_
    by_cases here : i < before.length
    · rw [List.getElem?_eraseIdx_of_lt here]
      exact result_before unplaced here
    · obtain ⟨k, rfl⟩ := Nat.exists_eq_add_of_le (Nat.not_lt.mp here)
      rw [List.getElem?_eraseIdx_of_ge (by omega), result_after unplaced, result_without]
      cases position : after[k]? with
      | none => rfl
      | some later =>
        refine congrArg some (finalizeGroup_eq_iff.mpr fun key own => ?_)
        exact (seen k key).mpr (apart later (List.mem_of_getElem? position) key own)

end Removal

section Workspace
variable {modules : List RuntimeModule} {placements : Dict String Json} {candidates : Dict String (List StaticCandidate)}

theorem observed_unresolved {group : ObservationGroup}
    (unresolved : (reconcileObservation modules placements candidates group.observation).status =
      RuntimeEvidenceStatus.unresolved.value) : staticAddressOf (observed modules placements candidates) group = none := by
  by_contra resolved
  obtain ⟨address, own⟩ := Option.ne_none_iff_exists'.mp resolved
  obtain ⟨base, ran, found⟩ := staticAddressOf_eq_some.mp own
  refine (observed_plain modules placements candidates).resolved _ base ran (found ▸ rfl) ?_
  rw [← Except.ok.inj ran]
  exact unresolved

theorem countKey_observed (group : ObservationGroup) : countKey (observed modules placements candidates) group =
    some (group.callSiteKey, (staticAddressOf (observed modules placements candidates) group).map (·.value)) := rfl

/-- Taking an unresolved observation out of a batch leaves the other results as they were just when every later
observation at its call site has a static address. -/
theorem reconcileWorkspace_removed_iff (reprText : String → String) (before after : List ObservationGroup)
    (removed : ObservationGroup)
    (unresolved : (reconcileObservation modules placements candidates removed.observation).status =
      RuntimeEvidenceStatus.unresolved.value) :
    (reconcileWorkspace reprText modules placements candidates (before ++ removed :: after)).eraseIdx before.length =
        reconcileWorkspace reprText modules placements candidates (before ++ after) ↔
      ∀ later ∈ after, later.callSiteKey = removed.callSiteKey →
        (reconcileObservation modules placements candidates later.observation).staticAddress.isSome := by
  have unplaced := observed_unresolved unresolved
  refine (results_removed_iff unplaced).trans (forall₂_congr fun later member => ?_)
  rw [countKey_observed, countKey_observed, unplaced]
  constructor
  · intro apart site
    by_contra missing
    refine apart _ rfl ?_
    rw [site, show staticAddressOf (observed modules placements candidates) later = none from
      Option.not_isSome_iff_eq_none.mp missing]
  · intro placed key own same
    obtain ⟨site, target⟩ := Prod.mk.inj (Option.some.inj (own.trans same.symm))
    have resolved := placed site
    rw [show (reconcileObservation modules placements candidates later.observation).staticAddress = none from
      Option.map_eq_none_iff.mp target] at resolved
    cases resolved

end Workspace

section Samples

/-- Without placements no observation has a static address. -/
def unplacedModules : List RuntimeModule := [sampleModule (some "first.prx") 0x9000000 (some 0x100)]

theorem removed_unchanged : (reconcileWorkspace id unplacedModules [] [] [⟨"other", sampleObservation 0x9000010⟩,
      ⟨"call", sampleObservation 0x100⟩, ⟨"other", sampleObservation 0x9000010⟩]).eraseIdx 1 =
    reconcileWorkspace id unplacedModules [] []
      [⟨"other", sampleObservation 0x9000010⟩, ⟨"other", sampleObservation 0x9000010⟩] :=
  (reconcileWorkspace_removed_iff id [⟨"other", sampleObservation 0x9000010⟩] [⟨"other", sampleObservation 0x9000010⟩]
    ⟨"call", sampleObservation 0x100⟩ (by decide)).mpr (by decide)

/-- An observation outside every module raises the count of the next one that has no static address. -/
theorem unresolved_counted :
    (reconcileWorkspace id unplacedModules [] [] [⟨"call", sampleObservation 0x100⟩, ⟨"call", sampleObservation 0x9000010⟩]).map
        (fun result => (result.status, result.observationCount)) = [("unresolved", 1), ("runtime_observed", 2)] ∧
      (reconcileWorkspace id unplacedModules [] []
        [⟨"call", sampleObservation 0x100⟩, ⟨"call", sampleObservation 0x9000010⟩]).eraseIdx 0 ≠
      reconcileWorkspace id unplacedModules [] [] [⟨"call", sampleObservation 0x9000010⟩] := by
  decide

end Samples

end PspDisasm
