import Mathlib.Data.Finset.Card
import Mathlib.Data.List.Induction
import PspDisasm.Runtime.Reconciliation

namespace PspDisasm
open Foundations

section Spec
variable (reprText : String → String) (reconcile : RuntimeBreakpointObservation → Except String RuntimeReconciliation)

/-- The static address that a group's own reconciliation resolves it to. -/
def staticAddressOf (group : ObservationGroup) : Option RuntimeAddress :=
  match reconcile group.observation with
  | .error _ => none
  | .ok base => base.staticAddress

/-- The key under which a group is counted. A group whose reconciliation has failed is not counted. -/
def countKey (group : ObservationGroup) : Option (String × Option Int) :=
  match reconcile group.observation with
  | .error _ => none
  | .ok base => some (group.callSiteKey, base.staticAddress.map (·.value))

def timesSeen (groups : List ObservationGroup) (key : String × Option Int) : Nat :=
  groups.countP fun group => countKey reconcile group = some key

def siteTarget (site : String) (group : ObservationGroup) : Option Int :=
  if group.callSiteKey = site then (staticAddressOf reconcile group).map (·.value) else none

/-- The static targets of a call site, in the order in which they are first seen. -/
def siteTargets (groups : List ObservationGroup) (site : String) : List Int :=
  (groups.filterMap (siteTarget reconcile site)).foldl addTarget []

/-- The result of a group after the first loop, given how often its target was seen before. -/
def interimResult (earlier : List ObservationGroup) (group : ObservationGroup) : RuntimeReconciliation :=
  match reconcile group.observation with
  | .error reason =>
    { staticKind := "unresolved", staticAddress := none, staticEvidence := []
      runtimeAddress := group.observation.breakpointAddress, resolvedModuleOffset := none, observationCount := 1
      status := RuntimeEvidenceStatus.unresolved.value, conflicts := [s!"reconciliation failed: {reason}"] }
  | .ok base =>
    let count := timesSeen reconcile earlier (group.callSiteKey, base.staticAddress.map (·.value)) + 1
    { base with
      observationCount := count
      status := if base.staticAddress.isSome ∧ base.status = RuntimeEvidenceStatus.corroborated.value ∧ 1 < count then
        RuntimeEvidenceStatus.runtimeVerified.value else base.status }

/-- What the first loop has gathered, in terms of the groups it has seen. -/
structure Gathers (groups : List ObservationGroup) (gathered : Gathered) : Prop where
  perGroup : ∀ i : Nat, gathered.perGroup[i]? = groups[i]?.map (interimResult reconcile (groups.take i))
  counts : ∀ key, (gathered.counts.get? key).getD 0 = timesSeen reconcile groups key
  targets : ∀ site, (gathered.targetsBySite.get? site).getD [] = siteTargets reconcile groups site

end Spec

section Spec
variable {reprText : String → String} {reconcile : RuntimeBreakpointObservation → Except String RuntimeReconciliation}
  {groups : List ObservationGroup} {group : ObservationGroup} {gathered : Gathered}

theorem timesSeen_concat (key : String × Option Int) :
    timesSeen reconcile (groups ++ [group]) key = timesSeen reconcile groups key + if countKey reconcile group = some key then 1 else 0 := by
  rw [timesSeen, timesSeen, List.countP_append, List.countP_singleton]
  simp only [decide_eq_true_eq]

theorem siteTargets_concat (site : String) : siteTargets reconcile (groups ++ [group]) site =
    match siteTarget reconcile site group with
    | none => siteTargets reconcile groups site
    | some target => addTarget (siteTargets reconcile groups site) target := by
  rw [siteTargets, siteTargets, List.filterMap_append, List.foldl_append, List.filterMap_cons, List.filterMap_nil]
  cases siteTarget reconcile site group with
  | none => rfl
  | some target => rfl

theorem Gathers.length (gathers : Gathers reconcile groups gathered) : gathered.perGroup.length = groups.length := by
  have none_iff (i : Nat) : gathered.perGroup.length ≤ i ↔ groups.length ≤ i := by
    rw [← List.getElem?_eq_none_iff, ← List.getElem?_eq_none_iff, gathers.perGroup, Option.map_eq_none_iff]
  exact Nat.le_antisymm ((none_iff _).mpr (Nat.le_refl _)) ((none_iff _).mp (Nat.le_refl _))

theorem Gathers.perGroup_concat (gathers : Gathers reconcile groups gathered) {result : RuntimeReconciliation}
    (same : result = interimResult reconcile groups group) (i : Nat) : (gathered.perGroup ++ [result])[i]? =
      (groups ++ [group])[i]?.map (interimResult reconcile ((groups ++ [group]).take i)) := by
  have length := gathers.length
  rcases Nat.lt_trichotomy i groups.length with before | here | after
  · rw [List.getElem?_append_left (by omega), List.getElem?_append_left before, List.take_append_of_le_length before.le]
    exact gathers.perGroup i
  · subst here
    rw [List.take_left, List.getElem?_append_right length.le, List.getElem?_append_right (Nat.le_refl _), length, Nat.sub_self,
      same]
    rfl
  · rw [List.getElem?_eq_none, List.getElem?_eq_none]
    · rfl
    · rw [List.length_append, List.length_singleton]
      omega
    · rw [List.length_append, List.length_singleton]
      omega

theorem Gathers.counts_set (gathers : Gathers reconcile groups gathered) {key : String × Option Int}
    (own : countKey reconcile group = some key) (other : String × Option Int) :
    ((gathered.counts.set key ((gathered.counts.get? key).getD 0 + 1)).get? other).getD 0 =
      timesSeen reconcile (groups ++ [group]) other := by
  rw [Dict.get?_set, timesSeen_concat, own, gathers.counts]
  by_cases same : key = other
  · rw [if_pos same, if_pos (congrArg some same), same]
    rfl
  · rw [if_neg same, if_neg fun found => same (Option.some.inj found), gathers.counts]
    rfl

/-- One turn of the first loop. -/
theorem Gathers.step (gathers : Gathers reconcile groups gathered) :
    Gathers reconcile (groups ++ [group]) (gatherGroup reconcile gathered group) := by
  cases ran : reconcile group.observation with
  | error reason =>
    have key : countKey reconcile group = none := by rw [countKey, ran]
    have target (site : String) : siteTarget reconcile site group = none := by
      rw [siteTarget, staticAddressOf, ran]
      exact ite_self none
    rw [gatherGroup, ran]
    refine ⟨gathers.perGroup_concat (by rw [interimResult, ran]), fun other => ?_, fun site => ?_⟩
    · rw [timesSeen_concat, key]
      exact gathers.counts other
    · rw [siteTargets_concat, target]
      exact gathers.targets site
  | ok base =>
    have key : countKey reconcile group = some (group.callSiteKey, base.staticAddress.map (·.value)) := by rw [countKey, ran]
    have counts := gathers.counts_set key
    have seen := gathers.counts (group.callSiteKey, base.staticAddress.map (·.value))
    have targets (site : String) : siteTarget reconcile site group =
        if group.callSiteKey = site then base.staticAddress.map (·.value) else none := by
      rw [siteTarget, staticAddressOf, ran]
    cases found : base.staticAddress with
    | none =>
      simp only [found, Option.map_none] at counts seen targets
      simp only [gatherGroup, ran, found, Option.map_none]
      refine ⟨gathers.perGroup_concat ?_, counts, fun site => ?_⟩
      · simp [interimResult, ran, found, seen]
      · rw [siteTargets_concat, targets, ite_self]
        exact gathers.targets site
    | some address =>
      simp only [found, Option.map_some] at counts seen targets
      simp only [gatherGroup, ran, found, Option.map_some]
      refine ⟨gathers.perGroup_concat ?_, counts, fun site => ?_⟩
      · simp [interimResult, ran, found, seen]
      · rw [siteTargets_concat, targets, Dict.get?_set, gathers.targets]
        by_cases here : group.callSiteKey = site
        · rw [if_pos here, if_pos here, here]
          rfl
        · rw [if_neg here, if_neg here]
          exact gathers.targets site

theorem gatherGroups_gathers (groups : List ObservationGroup) : Gathers reconcile groups (gatherGroups reconcile groups) := by
  induction groups using List.reverseRecOn with
  | nil => exact ⟨fun _ => rfl, fun _ => rfl, fun _ => rfl⟩
  | append_singleton groups group ih =>
    rw [gatherGroups, List.foldl_append]
    exact ih.step

/-- Each result comes from the group's own reconciliation, from what was seen before it, and from all the targets of
its call site. -/
theorem reconcileGroups_getElem? (i : Nat) : (reconcileGroups reprText reconcile groups)[i]? = groups[i]?.map fun group =>
    finalizeGroup reprText (siteTargets reconcile groups group.callSiteKey) group
      (interimResult reconcile (groups.take i) group) := by
  have gathers := @gatherGroups_gathers reconcile groups
  rw [reconcileGroups, List.getElem?_zipWith', gathers.perGroup]
  cases groups[i]? with
  | none => rfl
  | some group => exact congrArg (fun targets => some (finalizeGroup reprText targets group _)) (gathers.targets group.callSiteKey)

end Spec

section Targets
variable {reconcile : RuntimeBreakpointObservation → Except String RuntimeReconciliation} {groups : List ObservationGroup}
  {targets values : List Int} {target : Int} {site : String}

theorem mem_addTarget {value : Int} : value ∈ addTarget targets target ↔ value ∈ targets ∨ value = target := by
  unfold addTarget
  split
  · rename_i listed
    constructor
    · exact Or.inl
    · rintro (old | rfl)
      · exact old
      · exact listed
  · rw [List.mem_append, List.mem_singleton]

theorem nodup_addTarget (distinct : targets.Nodup) : (addTarget targets target).Nodup := by
  unfold addTarget
  split
  · exact distinct
  · rw [← List.concat_eq_append]
    exact distinct.concat ‹_›

theorem foldl_addTarget (distinct : targets.Nodup) : (values.foldl addTarget targets).Nodup ∧
    ∀ value, value ∈ values.foldl addTarget targets ↔ value ∈ targets ∨ value ∈ values := by
  induction values generalizing targets with
  | nil => exact ⟨distinct, fun value => by rw [List.foldl_nil, or_iff_left List.not_mem_nil]⟩
  | cons first values ih =>
    obtain ⟨nodup, members⟩ := ih (@nodup_addTarget _ first distinct)
    refine ⟨nodup, fun value => ?_⟩
    rw [List.foldl_cons, members, mem_addTarget, List.mem_cons, or_assoc]

theorem siteTargets_nodup : (siteTargets reconcile groups site).Nodup := (foldl_addTarget List.nodup_nil).1

theorem mem_siteTargets : target ∈ siteTargets reconcile groups site ↔
    ∃ group ∈ groups, group.callSiteKey = site ∧ ∃ address, staticAddressOf reconcile group = some address ∧ address.value = target := by
  rw [siteTargets, (foldl_addTarget List.nodup_nil).2, or_iff_right List.not_mem_nil, List.mem_filterMap]
  constructor
  · rintro ⟨group, member, found⟩
    rw [siteTarget] at found
    split at found
    · obtain ⟨address, resolved, value⟩ := Option.map_eq_some_iff.mp found
      exact ⟨group, member, ‹_›, address, resolved, value⟩
    · cases found
  · rintro ⟨group, member, here, address, resolved, value⟩
    refine ⟨group, member, ?_⟩
    rw [siteTarget, if_pos here, resolved, ← value]
    rfl

/-- A call site has more than one target just when two of its groups resolve to different addresses. -/
theorem one_lt_siteTargets : 1 < (siteTargets reconcile groups site).length ↔ ∃ first ∈ groups, ∃ second ∈ groups,
    first.callSiteKey = site ∧ second.callSiteKey = site ∧ ∃ address other, staticAddressOf reconcile first = some address ∧
      staticAddressOf reconcile second = some other ∧ address.value ≠ other.value := by
  rw [← List.toFinset_card_of_nodup siteTargets_nodup, Finset.one_lt_card]
  simp only [List.mem_toFinset, mem_siteTargets]
  constructor
  · rintro ⟨_, ⟨first, inFirst, atFirst, address, resolved, rfl⟩, _, ⟨second, inSecond, atSecond, other, resolvedToo, rfl⟩, apart⟩
    exact ⟨first, inFirst, second, inSecond, atFirst, atSecond, address, other, resolved, resolvedToo, apart⟩
  · rintro ⟨first, inFirst, second, inSecond, atFirst, atSecond, address, other, resolved, resolvedToo, apart⟩
    exact ⟨_, ⟨first, inFirst, atFirst, address, resolved, rfl⟩, _, ⟨second, inSecond, atSecond, other, resolvedToo, rfl⟩, apart⟩

end Targets

end PspDisasm
