import PspDisasm.Runtime.ReconciliationBatch

namespace PspDisasm
open Foundations

theorem RuntimeEvidenceStatus.value_injective : Function.Injective RuntimeEvidenceStatus.value := by
  intro first second same
  cases first <;> cases second <;> simp_all [RuntimeEvidenceStatus.value]

section Observation
variable {modules : List RuntimeModule} {placements : Dict String Json} {candidates : Dict String (List StaticCandidate)}
  {observation : RuntimeBreakpointObservation}

/-- What one observation can come to on its own. -/
inductive ObservationCase (modules : List RuntimeModule) (observation : RuntimeBreakpointObservation)
    (result : RuntimeReconciliation) : Prop
  | outside : findModule observation.breakpointAddress.value modules = none → result.staticAddress = none →
      result.status = RuntimeEvidenceStatus.unresolved.value → ObservationCase modules observation result
  | unplaced (module) (status : RuntimeEvidenceStatus) :
      findModule observation.breakpointAddress.value modules = some module → result.staticAddress = none →
      result.status = status.value → status ≠ .unresolved → status ≠ .runtimeVerified →
      ObservationCase modules observation result
  | placed (module path address) (status : RuntimeEvidenceStatus) :
      findModule observation.breakpointAddress.value modules = some module → module.staticModulePath = some path →
      result.staticAddress = some ⟨"analysis", address, some path⟩ →
      result.status = status.value → status ≠ .unresolved → status ≠ .runtimeVerified →
      ObservationCase modules observation result

theorem reconcileObservation_case :
    ObservationCase modules observation (reconcileObservation modules placements candidates observation) := by
  unfold reconcileObservation
  dsimp only
  cases found : findModule observation.breakpointAddress.value modules with
  | none => exact .outside found rfl rfl
  | some module =>
    dsimp only
    split
    · exact .unplaced module .runtimeObserved found rfl rfl (by decide) (by decide)
    · rename_i path modulePath
      split
      · exact .unplaced module .runtimeObserved found rfl rfl (by decide) (by decide)
      · split
        · exact .unplaced module .conflicting found rfl rfl (by decide) (by decide)
        · split
          · exact .placed module path _ .runtimeObserved found modulePath rfl rfl (by decide) (by decide)
          · exact .placed module path _ .corroborated found modulePath rfl rfl (by decide) (by decide)

end Observation

/-- A reconciliation of one observation that never verifies, and that resolves an address only with a status. -/
structure ResolvesPlainly (reconcile : RuntimeBreakpointObservation → Except String RuntimeReconciliation) : Prop where
  unverified : ∀ observation base, reconcile observation = .ok base → base.status ≠ RuntimeEvidenceStatus.runtimeVerified.value
  resolved : ∀ observation base, reconcile observation = .ok base → base.staticAddress.isSome →
    base.status ≠ RuntimeEvidenceStatus.unresolved.value

section Apart
variable (reconcile : RuntimeBreakpointObservation → Except String RuntimeReconciliation)

/-- How many of the groups at a call site resolve to a static address, with its module. -/
def timesResolved (groups : List ObservationGroup) (site : String) (address : RuntimeAddress) : Nat :=
  groups.countP fun group => group.callSiteKey = site ∧ staticAddressOf reconcile group = some address

/-- The counts, the verifications and the conflicts of a batch tell the modules apart. -/
structure KeepsModulesApart (groups : List ObservationGroup) (results : List RuntimeReconciliation) : Prop where
  counts : ∀ (i : Nat) group result address, groups[i]? = some group → results[i]? = some result →
    result.staticAddress = some address →
    result.observationCount = timesResolved reconcile (groups.take (i + 1)) group.callSiteKey address
  verified : ∀ (i : Nat) group result, groups[i]? = some group → results[i]? = some result →
    result.status = RuntimeEvidenceStatus.runtimeVerified.value → ∃ address, result.staticAddress = some address ∧
      2 ≤ timesResolved reconcile (groups.take (i + 1)) group.callSiteKey address
  conflicts : ∀ first ∈ groups, ∀ second ∈ groups, first.callSiteKey = second.callSiteKey → ∀ address other,
    staticAddressOf reconcile first = some address → staticAddressOf reconcile second = some other → address ≠ other →
    ∀ (i : Nat) group result, groups[i]? = some group → results[i]? = some result → group.callSiteKey = first.callSiteKey →
      result.staticAddress.isSome → result.status = RuntimeEvidenceStatus.conflicting.value

/-- No two groups at one call site resolve to one address in different modules. -/
def OneModuleEach (groups : List ObservationGroup) : Prop :=
  ∀ first ∈ groups, ∀ second ∈ groups, first.callSiteKey = second.callSiteKey → ∀ address other,
    staticAddressOf reconcile first = some address → staticAddressOf reconcile second = some other →
    address.value = other.value → address = other

end Apart

section Apart
variable {reprText : String → String} {reconcile : RuntimeBreakpointObservation → Except String RuntimeReconciliation}
  {groups : List ObservationGroup} {group : ObservationGroup} {result : RuntimeReconciliation} {i : Nat}

/-- A result at its place in the batch. -/
theorem result_at (here : groups[i]? = some group) (found : (reconcileGroups reprText reconcile groups)[i]? = some result) :
    result = finalizeGroup reprText (siteTargets reconcile groups group.callSiteKey) group
      (interimResult reconcile (groups.take i) group) := by
  rw [reconcileGroups_getElem?, here] at found
  exact (Option.some.inj found).symm

theorem finalizeGroup_staticAddress (targets : List Int) (reconciled : RuntimeReconciliation) :
    (finalizeGroup reprText targets group reconciled).staticAddress = reconciled.staticAddress := by
  unfold finalizeGroup
  split
  · rfl
  · rfl

theorem finalizeGroup_count (targets : List Int) (reconciled : RuntimeReconciliation) :
    (finalizeGroup reprText targets group reconciled).observationCount = reconciled.observationCount := by
  unfold finalizeGroup
  split
  · rfl
  · rfl

theorem interimResult_staticAddress (earlier : List ObservationGroup) :
    (interimResult reconcile earlier group).staticAddress = staticAddressOf reconcile group := by
  unfold interimResult staticAddressOf
  split
  · rfl
  · rfl

theorem result_staticAddress (here : groups[i]? = some group)
    (found : (reconcileGroups reprText reconcile groups)[i]? = some result) :
    result.staticAddress = staticAddressOf reconcile group := by
  rw [result_at here found, finalizeGroup_staticAddress, interimResult_staticAddress]

theorem staticAddressOf_eq_some {address : RuntimeAddress} : staticAddressOf reconcile group = some address ↔
    ∃ base, reconcile group.observation = .ok base ∧ base.staticAddress = some address := by
  rw [staticAddressOf]
  constructor
  · intro resolved
    split at resolved
    · cases resolved
    · exact ⟨_, ‹_›, resolved⟩
  · rintro ⟨base, ran, resolved⟩
    rw [ran]
    exact resolved

theorem countKey_of_resolved {address : RuntimeAddress} (resolved : staticAddressOf reconcile group = some address) :
    countKey reconcile group = some (group.callSiteKey, some address.value) := by
  obtain ⟨base, ran, found⟩ := staticAddressOf_eq_some.mp resolved
  rw [countKey, ran]
  show some (group.callSiteKey, base.staticAddress.map (·.value)) = _
  rw [found]
  rfl

theorem countKey_iff {site : String} {value : Int} : countKey reconcile group = some (site, some value) ↔
    group.callSiteKey = site ∧ ∃ address, staticAddressOf reconcile group = some address ∧ address.value = value := by
  constructor
  · intro key
    rw [countKey] at key
    rw [staticAddressOf]
    split at key
    · cases key
    · obtain ⟨here, found⟩ := Prod.mk.inj (Option.some.inj key)
      exact ⟨here, Option.map_eq_some_iff.mp found⟩
  · rintro ⟨here, address, resolved, same⟩
    rw [countKey_of_resolved resolved, here, same]

theorem interimResult_of_ok {earlier : List ObservationGroup} {base : RuntimeReconciliation}
    (ran : reconcile group.observation = .ok base) : interimResult reconcile earlier group =
      { base with
        observationCount := timesSeen reconcile earlier (group.callSiteKey, base.staticAddress.map (·.value)) + 1
        status := if base.staticAddress.isSome ∧ base.status = RuntimeEvidenceStatus.corroborated.value ∧
            1 < timesSeen reconcile earlier (group.callSiteKey, base.staticAddress.map (·.value)) + 1 then
          RuntimeEvidenceStatus.runtimeVerified.value else base.status } := by
  rw [interimResult, ran]

/-- A resolved group counts the groups before it, and itself, that resolve to the same number. -/
theorem result_count (here : groups[i]? = some group) (found : (reconcileGroups reprText reconcile groups)[i]? = some result)
    {address : RuntimeAddress} (resolved : staticAddressOf reconcile group = some address) :
    result.observationCount = timesSeen reconcile (groups.take (i + 1)) (group.callSiteKey, some address.value) := by
  obtain ⟨base, ran, own⟩ := staticAddressOf_eq_some.mp resolved
  rw [result_at here found, finalizeGroup_count, List.take_add_one, here, Option.toList_some, timesSeen_concat,
    countKey_of_resolved resolved, if_pos rfl, interimResult_of_ok ran, own]
  rfl

/-- Only a group that was counted before is verified. -/
theorem result_verified (plain : ResolvesPlainly reconcile) (here : groups[i]? = some group)
    (found : (reconcileGroups reprText reconcile groups)[i]? = some result)
    (verified : result.status = RuntimeEvidenceStatus.runtimeVerified.value) :
    ∃ address, staticAddressOf reconcile group = some address ∧ 1 < result.observationCount := by
  have same := result_at here found
  have interim : (interimResult reconcile (groups.take i) group).status = RuntimeEvidenceStatus.runtimeVerified.value := by
    rw [same, finalizeGroup] at verified
    split at verified
    · dsimp only at verified
      exact absurd verified (by decide)
    · exact verified
  rw [same, finalizeGroup_count]
  cases ran : reconcile group.observation with
  | error reason =>
    rw [interimResult, ran] at interim
    dsimp only at interim
    exact absurd interim (by decide)
  | ok base =>
    rw [interimResult_of_ok ran] at interim ⊢
    dsimp only at interim ⊢
    split at interim
    · rename_i seen
      obtain ⟨address, own⟩ := Option.isSome_iff_exists.mp seen.1
      exact ⟨address, staticAddressOf_eq_some.mpr ⟨base, ran, own⟩, seen.2.2⟩
    · exact absurd interim (plain.unverified _ base ran)

/-- A resolved group at a call site with two targets is in conflict. -/
theorem result_conflicting (plain : ResolvesPlainly reconcile) (here : groups[i]? = some group)
    (found : (reconcileGroups reprText reconcile groups)[i]? = some result) {address : RuntimeAddress}
    (resolved : staticAddressOf reconcile group = some address)
    (several : 1 < (siteTargets reconcile groups group.callSiteKey).length) :
    result.status = RuntimeEvidenceStatus.conflicting.value := by
  obtain ⟨base, ran, own⟩ := staticAddressOf_eq_some.mp resolved
  have status : (interimResult reconcile (groups.take i) group).status ≠ RuntimeEvidenceStatus.unresolved.value := by
    rw [interimResult_of_ok ran]
    dsimp only
    split
    · exact RuntimeEvidenceStatus.value_injective.ne (by decide)
    · exact plain.resolved _ base ran (own ▸ rfl)
  rw [result_at here found, finalizeGroup, if_pos ⟨several, status⟩]

theorem timesSeen_eq_timesResolved {site : String} {address : RuntimeAddress}
    (alone : ∀ group ∈ groups, group.callSiteKey = site → ∀ other, staticAddressOf reconcile group = some other →
      other.value = address.value → other = address) :
    timesSeen reconcile groups (site, some address.value) = timesResolved reconcile groups site address := by
  refine List.countP_congr fun group member => ?_
  rw [decide_eq_true_iff, decide_eq_true_iff, countKey_iff]
  constructor
  · rintro ⟨here, other, resolved, same⟩
    rw [alone group member here other resolved same] at resolved
    exact ⟨here, resolved⟩
  · rintro ⟨here, resolved⟩
    exact ⟨here, address, resolved, rfl⟩

/-- A group that resolves to the same number in another module is counted too. -/
theorem timesResolved_lt {address other : RuntimeAddress} (member : group ∈ groups)
    (resolved : staticAddressOf reconcile group = some other) (same : other.value = address.value) (apart : other ≠ address) :
    timesResolved reconcile groups group.callSiteKey address <
      timesSeen reconcile groups (group.callSiteKey, some address.value) := by
  obtain ⟨before, after, rfl⟩ := List.append_of_mem member
  have counted (part : List ObservationGroup) : timesResolved reconcile part group.callSiteKey address ≤
      timesSeen reconcile part (group.callSiteKey, some address.value) := by
    refine List.countP_mono_left fun part _ counted => ?_
    rw [decide_eq_true_iff] at counted ⊢
    exact countKey_iff.mpr ⟨counted.1, address, counted.2, rfl⟩
  have own : countKey reconcile group = some (group.callSiteKey, some address.value) := by
    rw [countKey_of_resolved resolved, same]
  have unlisted : ¬(group.callSiteKey = group.callSiteKey ∧ staticAddressOf reconcile group = some address) := by
    rw [resolved]
    exact fun listed => apart (Option.some.inj listed.2)
  have lower := counted before
  have upper := counted after
  rw [timesResolved, timesSeen] at lower upper ⊢
  rw [List.countP_append, List.countP_append, List.countP_cons, List.countP_cons, if_pos (decide_eq_true own),
    if_neg fun listed => unlisted (of_decide_eq_true listed)]
  omega

theorem KeepsModulesApart.oneModuleEach
    (apart : KeepsModulesApart reconcile groups (reconcileGroups reprText reconcile groups)) : OneModuleEach reconcile groups := by
  -- the later of two such groups counts the earlier one
  have later (i j : Nat) (before : i < j) (first second : ObservationGroup) (atFirst : groups[i]? = some first)
      (atSecond : groups[j]? = some second) (site : first.callSiteKey = second.callSiteKey) (address other : RuntimeAddress)
      (resolved : staticAddressOf reconcile first = some address) (resolvedToo : staticAddressOf reconcile second = some other)
      (same : address.value = other.value) : address = other := by
    by_contra differ
    obtain ⟨result, found⟩ : ∃ result, (reconcileGroups reprText reconcile groups)[j]? = some result := by
      rw [reconcileGroups_getElem?, atSecond]
      exact ⟨_, rfl⟩
    have listed : first ∈ groups.take (j + 1) := List.mem_iff_getElem?.mpr
      ⟨i, by rw [List.getElem?_take_of_lt (by omega), atFirst]⟩
    have counted := apart.counts j second result other atSecond found
      ((result_staticAddress atSecond found).trans resolvedToo)
    rw [result_count atSecond found resolvedToo, ← site] at counted
    exact absurd counted (timesResolved_lt listed resolved same differ).ne'
  intro first inFirst second inSecond site address other resolved resolvedToo same
  obtain ⟨i, atFirst⟩ := List.mem_iff_getElem?.mp inFirst
  obtain ⟨j, atSecond⟩ := List.mem_iff_getElem?.mp inSecond
  rcases Nat.lt_trichotomy i j with before | here | after
  · exact later i j before first second atFirst atSecond site address other resolved resolvedToo same
  · rw [← here, atFirst] at atSecond
    rw [Option.some.inj atSecond, resolvedToo] at resolved
    exact (Option.some.inj resolved).symm
  · exact (later j i after second first atSecond atFirst site.symm other address resolvedToo resolved same.symm).symm

theorem OneModuleEach.keepsModulesApart (one : OneModuleEach reconcile groups) (plain : ResolvesPlainly reconcile) :
    KeepsModulesApart reconcile groups (reconcileGroups reprText reconcile groups) := by
  have count (i : Nat) (group : ObservationGroup) (result : RuntimeReconciliation) (address : RuntimeAddress)
      (here : groups[i]? = some group) (found : (reconcileGroups reprText reconcile groups)[i]? = some result)
      (resolved : result.staticAddress = some address) :
      result.observationCount = timesResolved reconcile (groups.take (i + 1)) group.callSiteKey address := by
    have own : staticAddressOf reconcile group = some address := (result_staticAddress here found).symm.trans resolved
    rw [result_count here found own]
    refine timesSeen_eq_timesResolved fun earlier member site other resolvedToo same => ?_
    exact one earlier (List.mem_of_mem_take member) group (List.mem_of_getElem? here) site other address resolvedToo own same
  refine ⟨count, ?_, ?_⟩
  · intro i group result here found status
    obtain ⟨address, own, several⟩ := result_verified plain here found status
    have resolved : result.staticAddress = some address := (result_staticAddress here found).trans own
    rw [count i group result address here found resolved] at several
    exact ⟨address, resolved, several⟩
  · intro first inFirst second inSecond site address other resolved resolvedToo apart i group result here found atSite isSome
    obtain ⟨target, own⟩ := Option.isSome_iff_exists.mp isSome
    refine result_conflicting plain here found ((result_staticAddress here found).symm.trans own) ?_
    refine one_lt_siteTargets.mpr ⟨first, inFirst, second, inSecond, atSite.symm, site.symm.trans atSite.symm, address, other,
      resolved, resolvedToo, fun same => ?_⟩
    exact apart (one first inFirst second inSecond site address other resolved resolvedToo same)

end Apart

section Workspace
variable (modules : List RuntimeModule) (placements : Dict String Json) (candidates : Dict String (List StaticCandidate))

/-- What `reconcile_workspace` calls for each observation. -/
def observed (observation : RuntimeBreakpointObservation) : Except String RuntimeReconciliation :=
  .ok (reconcileObservation modules placements candidates observation)

theorem observed_plain : ResolvesPlainly (observed modules placements candidates) := by
  constructor
  · intro observation base same
    cases same
    cases @reconcileObservation_case modules placements candidates observation with
    | outside _ _ value =>
      rw [value]
      exact RuntimeEvidenceStatus.value_injective.ne (by decide)
    | unplaced _ _ _ _ value _ unverified =>
      rw [value]
      exact RuntimeEvidenceStatus.value_injective.ne unverified
    | placed _ _ _ _ _ _ _ value _ unverified =>
      rw [value]
      exact RuntimeEvidenceStatus.value_injective.ne unverified
  · intro observation base same isSome
    cases same
    cases @reconcileObservation_case modules placements candidates observation with
    | outside _ address _ =>
      rw [address] at isSome
      cases isSome
    | unplaced _ _ _ _ value resolved _ =>
      rw [value]
      exact RuntimeEvidenceStatus.value_injective.ne resolved
    | placed _ _ _ _ _ _ _ value resolved _ =>
      rw [value]
      exact RuntimeEvidenceStatus.value_injective.ne resolved

/-- The modules of a batch are told apart just when no call site sees one analysis address in two of them. -/
theorem reconcileWorkspace_apart_iff (reprText : String → String) (groups : List ObservationGroup) :
    KeepsModulesApart (observed modules placements candidates) groups
      (reconcileWorkspace reprText modules placements candidates groups) ↔
    OneModuleEach (observed modules placements candidates) groups :=
  ⟨fun apart => apart.oneModuleEach, fun one => one.keepsModulesApart (observed_plain modules placements candidates)⟩

end Workspace

section Samples

def sampleModule (path : Option String) (base : Int) (size : Option Int) : RuntimeModule :=
  ⟨none, .runtime base, size, path, "mapped", []⟩

def sampleObservation (address : Int) : RuntimeBreakpointObservation :=
  ⟨"session", 1, .runtime address, 1, none, [], none, []⟩

/-- Two modules whose analysis ranges are the same. -/
def overlappingPlacements : Dict String Json :=
  [("first.prx", .obj [("load_address", .int 0x8804000), ("image_size", .int 0x100)]),
   ("second.prx", .obj [("load_address", .int 0x8804000), ("image_size", .int 0x100)])]

def overlappingCandidates : Dict String (List StaticCandidate) :=
  [("first.prx", [⟨"function", 0x8804010, []⟩]), ("second.prx", [⟨"function", 0x8804010, []⟩])]

def overlappingModules : List RuntimeModule :=
  [sampleModule (some "first.prx") 0x9000000 (some 0x100), sampleModule (some "second.prx") 0x9100000 (some 0x100)]

def overlappingGroups : List ObservationGroup :=
  [⟨"call", sampleObservation 0x9000010⟩, ⟨"call", sampleObservation 0x9100010⟩]

/-- One hit in each of two modules passes for two hits of one function. -/
theorem overlapping_verified :
    (reconcileWorkspace id overlappingModules overlappingPlacements overlappingCandidates overlappingGroups).map
        (fun result => (result.staticAddress, result.observationCount, result.status)) =
      [(some ⟨"analysis", 0x8804010, some "first.prx"⟩, 1, "corroborated"),
       (some ⟨"analysis", 0x8804010, some "second.prx"⟩, 2, "runtime_verified")] ∧
    ¬KeepsModulesApart (observed overlappingModules overlappingPlacements overlappingCandidates) overlappingGroups
      (reconcileWorkspace id overlappingModules overlappingPlacements overlappingCandidates overlappingGroups) := by
  refine ⟨by decide, fun apart => ?_⟩
  have same := apart.oneModuleEach ⟨"call", sampleObservation 0x9000010⟩ List.mem_cons_self ⟨"call", sampleObservation 0x9100010⟩
    (List.mem_cons_of_mem _ List.mem_cons_self) rfl ⟨"analysis", 0x8804010, some "first.prx"⟩
    ⟨"analysis", 0x8804010, some "second.prx"⟩ (by decide) (by decide) rfl
  exact absurd same (by decide)

end Samples

end PspDisasm
