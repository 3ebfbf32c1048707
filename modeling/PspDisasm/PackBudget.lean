import PspDisasm.PackEvidence

namespace PspDisasm.AnalysisPack
open Foundations

/-- The errors of a budget: an artifact that does not fit behind the ones before, and a manifest that does not. -/
inductive BudgetFailure (maxBytes : Nat) : PackFailure → Prop
  | artifact (path : String) :
    BudgetFailure maxBytes (.analysisPack s!"Analysis-pack artifact {path} exceeds the configured {maxBytes} byte budget")
  | manifest : BudgetFailure maxBytes (.analysisPack "Analysis-pack manifest would exceed the configured budget")

theorem artifactBytes_append (before after : List Artifact) :
    artifactBytes (before ++ after) = artifactBytes before + artifactBytes after := by
  rw [artifactBytes, List.map_append, List.sum_append]
  rfl

theorem artifactBytes_cons (artifact : Artifact) (after : List Artifact) :
    artifactBytes (artifact :: after) = artifact.data.length + artifactBytes after := rfl

section Steps
variable {maxBytes : Nat} {taken : List Artifact}

theorem append_new {artifact : Artifact} (new : artifact.path ∉ taken.map (·.path))
    (within : artifactBytes taken + artifact.data.length ≤ maxBytes) :
    append maxBytes taken artifact = .ok (taken ++ [artifact]) := by
  refine bind_ok.mpr ⟨(), raiseIf_ok.mpr ?_, bind_ok.mpr ⟨(), raiseIf_ok.mpr (Nat.not_lt.mpr within), rfl⟩⟩
  simpa using new

theorem append_over {artifact : Artifact} (new : artifact.path ∉ taken.map (·.path))
    (exceeded : maxBytes < artifactBytes taken + artifact.data.length) :
    ∃ failure, BudgetFailure maxBytes failure ∧ append maxBytes taken artifact = .error failure := by
  have unlike : ¬(taken.any (·.path = artifact.path) : Prop) := by simpa using new
  refine ⟨_, .artifact artifact.path, ?_⟩
  rw [append, raiseIf, if_neg unlike, raiseIf, if_pos exceeded]
  rfl

theorem new_of_distinct {artifact : Artifact} {later : List Artifact}
    (distinct : ((taken ++ [artifact] ++ later).map (·.path)).Nodup) : artifact.path ∉ taken.map (·.path) := by
  rw [List.append_assoc, List.map_append] at distinct
  intro member
  exact (List.nodup_append.mp distinct).2.2 _ member _ (by simp) rfl

/-- Required artifacts with paths of their own are all taken, if there is room for all of them. -/
theorem required_within {required : List Artifact} (distinct : ((taken ++ required).map (·.path)).Nodup)
    (within : artifactBytes (taken ++ required) ≤ maxBytes) :
    (required.map Step.required).foldlM (takeStep maxBytes) taken = .ok (taken ++ required) := by
  induction required generalizing taken with
  | nil => rw [List.append_nil]; rfl
  | cons artifact required ih =>
    rw [List.append_cons] at distinct within ⊢
    have bytes := within
    simp only [artifactBytes_append, artifactBytes_cons] at bytes
    have new := new_of_distinct distinct
    rw [List.map_cons, List.foldlM_cons]
    exact bind_ok.mpr ⟨_, append_new new (by omega), ih distinct within⟩

/-- If there is not, then one of them exceeds the budget. -/
theorem required_over {required : List Artifact} (distinct : ((taken ++ required).map (·.path)).Nodup)
    (held : artifactBytes taken ≤ maxBytes) (exceeded : maxBytes < artifactBytes (taken ++ required)) :
    ∃ failure, BudgetFailure maxBytes failure ∧ (required.map Step.required).foldlM (takeStep maxBytes) taken = .error failure := by
  induction required generalizing taken with
  | nil =>
    rw [List.append_nil] at exceeded
    omega
  | cons artifact required ih =>
    rw [List.append_cons] at distinct exceeded
    have new := new_of_distinct distinct
    rw [List.map_cons, List.foldlM_cons]
    by_cases within : artifactBytes taken + artifact.data.length ≤ maxBytes
    · have grown : artifactBytes (taken ++ [artifact]) ≤ maxBytes := by
        rw [artifactBytes_append]
        exact within
      obtain ⟨failure, budget, failed⟩ := ih distinct grown exceeded
      refine ⟨failure, budget, ?_⟩
      rw [takeStep, append_new new within]
      exact failed
    · obtain ⟨failure, budget, failed⟩ := append_over new (Nat.not_le.mp within)
      refine ⟨failure, budget, ?_⟩
      rw [takeStep, failed]
      rfl

/-- A full file is taken if there is room for it, and left out otherwise. -/
theorem full_taken {full : Artifact} (new : full.path ∉ taken.map (·.path)) (held : artifactBytes taken ≤ maxBytes) :
    takeStep maxBytes taken (.full full) =
      .ok (if maxBytes < artifactBytes taken + full.data.length then taken else taken ++ [full]) := by
  rw [takeStep, appendOptionalFullFile]
  by_cases exceeded : maxBytes < artifactBytes taken + full.data.length
  · rw [if_pos (by omega), if_pos exceeded]
  · rw [if_neg (by omega), if_neg exceeded, append_new new (Nat.not_lt.mp exceeded)]

end Steps

/-- What is collected of evidence with a full file, if it is not too much. -/
def collected (maxBytes : Nat) (before : List Artifact) (full : Artifact) (after : List Artifact) : List Artifact :=
  if maxBytes < artifactBytes before + full.data.length then before ++ after else before ++ full :: after

section Full
variable {maxBytes : Nat} {before after : List Artifact} {full : Artifact}

theorem foldlM_full (distinct : ((before ++ full :: after).map (·.path)).Nodup) (held : artifactBytes before ≤ maxBytes) :
    (withFull before full after).foldlM (takeStep maxBytes) [] =
      (after.map Step.required).foldlM (takeStep maxBytes)
        (if maxBytes < artifactBytes before + full.data.length then before else before ++ [full]) := by
  rw [List.append_cons] at distinct
  have front : ((([] : List Artifact) ++ before).map (·.path)).Nodup := by
    rw [List.append_assoc, List.map_append] at distinct
    exact (List.nodup_append.mp distinct).1
  have gathered := required_within front held
  rw [List.nil_append] at gathered
  have next := full_taken (new_of_distinct distinct) held
  rw [withFull, List.foldlM_append, gathered, ok_bind, List.foldlM_cons, next, ok_bind]

theorem gather_within (distinct : ((before ++ full :: after).map (·.path)).Nodup)
    (within : artifactBytes (collected maxBytes before full after) ≤ maxBytes) :
    (withFull before full after).foldlM (takeStep maxBytes) [] = .ok (collected maxBytes before full after) := by
  have all := within
  rw [collected] at all ⊢
  split at all
  case isTrue exceeded =>
    rw [artifactBytes_append] at all
    rw [foldlM_full distinct (by omega), if_pos exceeded, if_pos exceeded]
    refine required_within (distinct.sublist ?_) (by rwa [artifactBytes_append])
    exact ((List.sublist_cons_self _ _).append_left _).map _
  case isFalse room =>
    rw [foldlM_full distinct (by omega), if_neg room, if_neg room]
    rw [List.append_cons] at all distinct
    rw [List.append_cons before full after]
    exact required_within distinct all

theorem gather_over (distinct : ((before ++ full :: after).map (·.path)).Nodup)
    (exceeded : maxBytes < artifactBytes (collected maxBytes before full after)) :
    ∃ failure, BudgetFailure maxBytes failure ∧ (withFull before full after).foldlM (takeStep maxBytes) [] = .error failure := by
  have front : ((([] : List Artifact) ++ before).map (·.path)).Nodup :=
    distinct.sublist ((List.sublist_append_left _ _).map _)
  by_cases held : artifactBytes before ≤ maxBytes
  · rw [foldlM_full distinct held]
    rw [collected] at exceeded
    split at exceeded
    case isTrue past =>
      rw [if_pos past]
      refine required_over (distinct.sublist ?_) held exceeded
      exact ((List.sublist_cons_self _ _).append_left _).map _
    case isFalse room =>
      rw [List.append_cons] at distinct exceeded
      rw [if_neg room]
      refine required_over distinct ?_ exceeded
      rw [artifactBytes_append]
      exact Nat.not_lt.mp room
  · obtain ⟨failure, budget, failed⟩ := required_over front (Nat.zero_le _) (Nat.not_le.mp held)
    refine ⟨failure, budget, ?_⟩
    rw [withFull, List.foldlM_append, failed]
    rfl

end Full

/-- What a pack of the artifacts takes: their bytes and those of the manifest that lists them. -/
def packCost (describe : List Artifact → Bytes) (artifacts : List Artifact) : Nat :=
  artifactBytes artifacts + (describe artifacts).length

/-- The pack can do without the artifact. -/
def Spare (artifact : Artifact) : Prop := artifact.path ∈ optionalFullArtifacts

theorem lastOptional_none {artifacts : List Artifact} (needed : ∀ artifact ∈ artifacts, ¬Spare artifact) :
    lastOptional artifacts = none := by
  refine List.find?_eq_none.mpr fun index _ => ?_
  cases found : artifacts[index]? with
  | none => simp
  | some artifact => simpa [Spare] using needed artifact (List.mem_of_getElem? found)

theorem lastOptional_full {before after : List Artifact} {full : Artifact} (spare : Spare full)
    (needed : ∀ artifact ∈ after, ¬Spare artifact) : lastOptional (before ++ full :: after) = some before.length := by
  have places : (List.range (before ++ full :: after).length).reverse =
      (List.range' (before.length + 1) after.length).reverse ++ before.length :: (List.range before.length).reverse := by
    rw [List.length_append, List.length_cons, List.range_eq_range', ← List.range'_append_1, List.reverse_append, List.range_eq_range',
      Nat.zero_add, List.range'_succ, List.reverse_cons, List.append_assoc]
    rfl
  refine List.find?_eq_some_iff_append.mpr ⟨by simpa [Spare] using spare, _, _, places, fun index member => ?_⟩
  have place := List.mem_range'_1.mp (List.mem_reverse.mp member)
  obtain ⟨further, rfl⟩ : ∃ further, index = before.length + (further + 1) := ⟨index - (before.length + 1), by omega⟩
  rw [List.getElem?_append_right (Nat.le_add_right _ _), Nat.add_sub_cancel_left, List.getElem?_cons_succ]
  cases found : after[further]? with
  | none => simp
  | some artifact => simpa [Spare] using needed artifact (List.mem_of_getElem? found)

section Fit
variable {describe : List Artifact → Bytes} {maxBytes : Nat}

theorem fitManifest_fits {spare : Nat} {artifacts : List Artifact} (fits : packCost describe artifacts ≤ maxBytes) :
    fitManifest describe maxBytes spare artifacts = .ok (artifacts, describe artifacts) := by
  unfold fitManifest
  exact if_pos fits

theorem fitManifest_fails {spare : Nat} {artifacts : List Artifact} (exceeded : ¬packCost describe artifacts ≤ maxBytes)
    (needed : lastOptional artifacts = none) : fitManifest describe maxBytes spare artifacts =
      .error (.analysisPack "Analysis-pack manifest would exceed the configured budget") := by
  unfold fitManifest
  refine (if_neg exceeded).trans ?_
  rw [needed]
  cases spare <;> rfl

theorem fitManifest_drops {spare index : Nat} {artifacts : List Artifact} (exceeded : ¬packCost describe artifacts ≤ maxBytes)
    (last : lastOptional artifacts = some index) : fitManifest describe maxBytes (spare + 1) artifacts =
      fitManifest describe maxBytes spare (artifacts.eraseIdx index) := by
  rw [fitManifest.eq_def]
  refine (if_neg exceeded).trans ?_
  rw [last]

theorem fit_needed {artifacts : List Artifact} (needed : ∀ artifact ∈ artifacts, ¬Spare artifact) :
    fitManifestBudget describe maxBytes artifacts =
      if packCost describe artifacts ≤ maxBytes then .ok (artifacts, describe artifacts)
      else .error (.analysisPack "Analysis-pack manifest would exceed the configured budget") := by
  split
  case isTrue fits => exact fitManifest_fits fits
  case isFalse exceeded => exact fitManifest_fails exceeded (lastOptional_none needed)

theorem countP_needed {artifacts : List Artifact} (needed : ∀ artifact ∈ artifacts, ¬Spare artifact) :
    artifacts.countP (fun artifact => artifact.path ∈ optionalFullArtifacts) = 0 :=
  List.countP_eq_zero.mpr fun artifact member => by simpa [Spare] using needed artifact member

/-- A full file that does not fit beside the manifest is left out. -/
theorem fit_full {before after : List Artifact} {full : Artifact} (spare : Spare full)
    (needed : ∀ artifact ∈ before ++ after, ¬Spare artifact) :
    fitManifestBudget describe maxBytes (before ++ full :: after) =
      if packCost describe (before ++ full :: after) ≤ maxBytes then .ok (before ++ full :: after, describe (before ++ full :: after))
      else fitManifestBudget describe maxBytes (before ++ after) := by
  obtain ⟨neededBefore, neededAfter⟩ := List.forall_mem_append.mp needed
  have one : (before ++ full :: after).countP (fun artifact => artifact.path ∈ optionalFullArtifacts) = 0 + 1 := by
    rw [List.countP_append, List.countP_cons_of_pos (by simpa [Spare] using spare), countP_needed neededBefore, countP_needed neededAfter]
  split
  case isTrue fits => exact fitManifest_fits fits
  case isFalse exceeded =>
    have dropped : (before ++ full :: after).eraseIdx before.length = before ++ after := by
      rw [List.eraseIdx_append_of_length_le le_rfl, Nat.sub_self, List.eraseIdx_cons_zero]
    rw [fitManifestBudget, one, fitManifest_drops exceeded (lastOptional_full spare neededAfter), dropped, fitManifestBudget,
      countP_needed needed]

/-- The artifacts of a pack, and its manifest, from the evidence. -/
def packSteps (describe : List Artifact → Bytes) (maxBytes : Nat) (steps : List Step) : Except PackFailure (List Artifact × Bytes) := do
  let artifacts ← steps.foldlM (takeStep maxBytes) []
  fitManifestBudget describe maxBytes artifacts

/-- The artifacts that a pack is to have: all of them, if they and the manifest fit, and otherwise the required ones. -/
def chosen (describe : List Artifact → Bytes) (maxBytes : Nat) (steps : List Step) : List Artifact :=
  if packCost describe (steps.map Step.artifact) ≤ maxBytes then steps.map Step.artifact else requiredArtifacts steps

/-- There is room for the full file when its turn comes, but then not for what follows it. -/
def Squeezed (describe : List Artifact → Bytes) (maxBytes : Nat) (steps : List Step) : Prop :=
  ∃ before full after, steps = withFull before full after ∧ artifactBytes before + full.data.length ≤ maxBytes ∧
    maxBytes < artifactBytes before + full.data.length + artifactBytes after ∧ packCost describe (before ++ after) ≤ maxBytes

end Fit

section Outcome
variable {describe : List Artifact → Bytes} {maxBytes : Nat} {steps : List Step}

theorem Orderly.needed (orderly : Orderly steps) : ∀ artifact ∈ requiredArtifacts steps, ¬Spare artifact := by
  intro artifact member spare
  obtain ⟨step, kept, rfl⟩ := List.mem_map.mp member
  obtain ⟨listed, required⟩ := List.mem_filter.mp kept
  rw [(orderly.optional step listed).mp spare] at required
  cases required

theorem Orderly.paths (orderly : Orderly steps) : ((steps.map Step.artifact).map (·.path)).Nodup := by
  rw [List.map_map]
  exact orderly.distinct

/-- The pack of the chosen artifacts, if it fits the budget. -/
def packChosen (describe : List Artifact → Bytes) (maxBytes : Nat) (steps : List Step) : Except PackFailure (List Artifact × Bytes) :=
  if packCost describe (chosen describe maxBytes steps) ≤ maxBytes then
    .ok (chosen describe maxBytes steps, describe (chosen describe maxBytes steps))
  else .error (.analysisPack "Analysis-pack manifest would exceed the configured budget")

/-- The chosen artifacts that do not fit are the required ones. -/
theorem required_of_chosen (exceeded : ¬packCost describe (chosen describe maxBytes steps) ≤ maxBytes) :
    maxBytes < packCost describe (requiredArtifacts steps) := by
  rw [chosen] at exceeded
  split at exceeded
  case isTrue fits => exact absurd fits exceeded
  case isFalse => exact Nat.not_le.mp exceeded

theorem packSteps_required {artifacts : List Artifact} (orderly : Orderly (artifacts.map Step.required)) :
    packSteps describe maxBytes (artifacts.map .required) = packChosen describe maxBytes (artifacts.map .required) ∨
      ∃ failure, BudgetFailure maxBytes failure ∧ packSteps describe maxBytes (artifacts.map .required) = .error failure ∧
        maxBytes < packCost describe artifacts := by
  have distinct := orderly.paths
  have needed := orderly.needed
  rw [artifacts_required] at distinct
  rw [requiredArtifacts_required] at needed
  by_cases within : artifactBytes artifacts ≤ maxBytes
  · left
    have all : chosen describe maxBytes (artifacts.map .required) = artifacts := by
      rw [chosen, artifacts_required, requiredArtifacts_required, ite_self]
    have listed : ((([] : List Artifact) ++ artifacts).map (·.path)).Nodup := distinct
    have gathered := required_within listed within
    rw [packSteps, gathered, List.nil_append, ok_bind, fit_needed needed, packChosen, all]
  · right
    have listed : ((([] : List Artifact) ++ artifacts).map (·.path)).Nodup := distinct
    obtain ⟨failure, budget, failed⟩ := required_over listed (Nat.zero_le _) (Nat.not_le.mp within)
    refine ⟨failure, budget, ?_, (Nat.not_le.mp within).trans_le (Nat.le_add_right _ _)⟩
    rw [packSteps, failed, error_bind]

theorem packSteps_withFull {before after : List Artifact} {full : Artifact} (orderly : Orderly (withFull before full after)) :
    packSteps describe maxBytes (withFull before full after) = packChosen describe maxBytes (withFull before full after) ∨
      ∃ failure, BudgetFailure maxBytes failure ∧ packSteps describe maxBytes (withFull before full after) = .error failure ∧
        maxBytes < artifactBytes (collected maxBytes before full after) := by
  have distinct := orderly.paths
  have needed := orderly.needed
  have spare : Spare full := (orderly.optional (.full full) (by simp [withFull])).mpr rfl
  rw [artifacts_withFull] at distinct
  rw [requiredArtifacts_withFull] at needed
  by_cases within : artifactBytes (collected maxBytes before full after) ≤ maxBytes
  · left
    rw [packSteps, gather_within distinct within, ok_bind, packChosen, chosen, artifacts_withFull, requiredArtifacts_withFull, collected]
    split
    case isTrue past =>
      have exceeded : ¬packCost describe (before ++ full :: after) ≤ maxBytes := by
        rw [packCost, artifactBytes_append, artifactBytes_cons]
        omega
      rw [if_neg exceeded, fit_needed needed]
    case isFalse room =>
      rw [fit_full spare needed]
      split
      case isTrue => rfl
      case isFalse => exact fit_needed needed
  · right
    obtain ⟨failure, budget, failed⟩ := gather_over distinct (Nat.not_le.mp within)
    refine ⟨failure, budget, ?_, Nat.not_le.mp within⟩
    rw [packSteps, failed, error_bind]

/-- The pack has the chosen artifacts, or the budget is exhausted: by required evidence, or because of the full file. -/
theorem packSteps_cases (describe : List Artifact → Bytes) (maxBytes : Nat) (orderly : Orderly steps) :
    packSteps describe maxBytes steps = packChosen describe maxBytes steps ∨
    ∃ failure, BudgetFailure maxBytes failure ∧ packSteps describe maxBytes steps = .error failure ∧
      (maxBytes < packCost describe (requiredArtifacts steps) ∨ Squeezed describe maxBytes steps) := by
  obtain ⟨artifacts, rfl⟩ | ⟨before, full, after, rfl⟩ := orderly.split
  · refine (packSteps_required orderly).imp_right fun ⟨failure, budget, failed, exceeded⟩ => ⟨failure, budget, failed, .inl ?_⟩
    rwa [requiredArtifacts_required]
  · refine (packSteps_withFull orderly).imp_right fun ⟨failure, budget, failed, exceeded⟩ => ⟨failure, budget, failed, ?_⟩
    rw [requiredArtifacts_withFull]
    rw [collected] at exceeded
    split at exceeded
    case isTrue past => exact .inl (exceeded.trans_le (Nat.le_add_right _ _))
    case isFalse room =>
      rw [artifactBytes_append, artifactBytes_cons] at exceeded
      refine (Nat.lt_or_ge maxBytes (packCost describe (before ++ after))).imp_right fun fits => ?_
      exact ⟨before, full, after, rfl, by omega, by omega, fits⟩

theorem packSteps_ok {packed : List Artifact × Bytes} (orderly : Orderly steps) (made : packSteps describe maxBytes steps = .ok packed) :
    packed = (chosen describe maxBytes steps, describe (chosen describe maxBytes steps)) ∧
      packCost describe (chosen describe maxBytes steps) ≤ maxBytes := by
  obtain exact | ⟨failure, _, failed, _⟩ := packSteps_cases describe maxBytes orderly
  · rw [exact, packChosen] at made
    split at made
    case isTrue fits =>
      cases made
      exact ⟨rfl, fits⟩
    case isFalse => cases made
  · rw [failed] at made
    cases made

theorem packSteps_error {failure : PackFailure} (orderly : Orderly steps) (made : packSteps describe maxBytes steps = .error failure) :
    BudgetFailure maxBytes failure ∧
      (maxBytes < packCost describe (requiredArtifacts steps) ∨ Squeezed describe maxBytes steps) := by
  obtain exact | ⟨other, budget, failed, why⟩ := packSteps_cases describe maxBytes orderly
  · rw [exact, packChosen] at made
    split at made
    case isTrue => cases made
    case isFalse exceeded =>
      cases made
      exact ⟨.manifest, .inl (required_of_chosen exceeded)⟩
  · rw [failed] at made
    cases made
    exact ⟨budget, why⟩

/-- Evidence that is squeezed makes no pack, although there would be room for what is required of it. -/
theorem packSteps_squeezed (orderly : Orderly steps) (squeezed : Squeezed describe maxBytes steps) :
    ∃ failure, BudgetFailure maxBytes failure ∧ packSteps describe maxBytes steps = .error failure := by
  obtain ⟨before, full, after, rfl, room, exceeded, _⟩ := squeezed
  have distinct := orderly.paths
  rw [artifacts_withFull] at distinct
  have taken : collected maxBytes before full after = before ++ full :: after := if_neg (Nat.not_lt.mpr room)
  have exceeds : maxBytes < artifactBytes (collected maxBytes before full after) := by
    rw [taken, artifactBytes_append, artifactBytes_cons]
    omega
  obtain ⟨failure, budget, failed⟩ := gather_over distinct exceeds
  refine ⟨failure, budget, ?_⟩
  rw [packSteps, failed, error_bind]

/-- There is a pack if there is room for the required evidence with its manifest, and for the bytes of all the evidence. -/
theorem packSteps_room (orderly : Orderly steps) (required : packCost describe (requiredArtifacts steps) ≤ maxBytes)
    (room : artifactBytes (steps.map Step.artifact) ≤ maxBytes) : ∃ packed, packSteps describe maxBytes steps = .ok packed := by
  cases made : packSteps describe maxBytes steps with
  | ok packed => exact ⟨packed, rfl⟩
  | error failure =>
    rcases (packSteps_error orderly made).2 with exceeded | ⟨before, full, after, rfl, _, exceeded, _⟩
    · omega
    · rw [artifacts_withFull, artifactBytes_append, artifactBytes_cons] at room
      omega

end Outcome

end PspDisasm.AnalysisPack
