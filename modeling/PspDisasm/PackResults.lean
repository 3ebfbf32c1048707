import PspDisasm.PackBudget
import PspDisasm.WorkspaceSources

namespace PspDisasm.AnalysisPack
open Foundations

section Order
variable {artifacts others : List Artifact} {steps order : List Step}

/-- Artifacts with paths of their own are sorted into one order, in whatever order they come. -/
theorem sortArtifacts_perm (same : others.Perm artifacts) (distinct : (artifacts.map (·.path)).Nodup) :
    sortArtifacts others = sortArtifacts artifacts := by
  have sorted : (sortArtifacts others).Perm (sortArtifacts artifacts) :=
    (List.perm_insertionSort _ _).trans (same.trans (List.perm_insertionSort _ _).symm)
  refine sorted.eq_of_pairwise ?_ (List.pairwise_insertionSort _ _) (List.pairwise_insertionSort _ _)
  intro artifact other member otherMember below above
  have listed : artifact ∈ artifacts := same.mem_iff.mp ((List.mem_insertionSort _).mp member)
  have otherListed : other ∈ artifacts := (List.mem_insertionSort _).mp otherMember
  exact List.inj_on_of_nodup_map distinct listed otherListed (le_antisymm below above)

theorem requiredArtifacts_perm (same : order.Perm steps) : (requiredArtifacts order).Perm (requiredArtifacts steps) :=
  (same.filter _).map _

theorem requiredArtifacts_sublist (steps : List Step) : (requiredArtifacts steps).Sublist (steps.map Step.artifact) :=
  List.filter_sublist.map _

theorem chosen_sublist {describe : List Artifact → Bytes} {maxBytes : Nat} :
    (chosen describe maxBytes steps).Sublist (steps.map Step.artifact) := by
  rw [chosen]
  split
  · exact List.Sublist.refl _
  · exact requiredArtifacts_sublist steps

/-- A description of the artifacts that does not depend on their order, if their paths differ. -/
def Unordered (describe : List Artifact → Bytes) : Prop :=
  ∀ artifacts others : List Artifact, others.Perm artifacts → (artifacts.map (·.path)).Nodup → describe others = describe artifacts

theorem packCost_perm {describe : List Artifact → Bytes} (unordered : Unordered describe) (same : others.Perm artifacts)
    (distinct : (artifacts.map (·.path)).Nodup) : packCost describe others = packCost describe artifacts := by
  rw [packCost, packCost, unordered _ _ same distinct, artifactBytes, artifactBytes, (same.map _).sum_nat]

theorem manifestBytes_unordered (tools : PackTools) (manifest : GameWorkspaceManifest) (source : WorkspaceFileRecord)
    (selector : String × String) : Unordered (manifestBytes tools manifest source selector) := by
  intro artifacts others same distinct
  rw [manifestBytes, manifestBytes, packManifest, packManifest, sortArtifacts_perm same distinct]

theorem chosen_perm {describe : List Artifact → Bytes} {maxBytes : Nat} (unordered : Unordered describe) (orderly : Orderly steps)
    (same : order.Perm steps) : (chosen describe maxBytes order).Perm (chosen describe maxBytes steps) := by
  rw [chosen, chosen, packCost_perm unordered (same.map _) orderly.paths]
  split
  · exact same.map _
  · exact requiredArtifacts_perm same

end Order

/-- The archive of the artifacts. -/
def packOf (describe : List Artifact → Bytes) (artifacts : List Artifact) : Pack := ⟨sortArtifacts artifacts, describe artifacts⟩

theorem packOf_perm {describe : List Artifact → Bytes} {artifacts others : List Artifact} (unordered : Unordered describe)
    (same : others.Perm artifacts) (distinct : (artifacts.map (·.path)).Nodup) : packOf describe others = packOf describe artifacts := by
  rw [packOf, packOf, sortArtifacts_perm same distinct, unordered _ _ same distinct]

section Created
variable {tools : PackTools} {disk : WorkspaceDisk} {tree : ProjectTree} {selectors : Selectors} {maxBytes contextBytes : Int}

/-- The manifest of a selection, from its artifacts. -/
def Selection.describe (tools : PackTools) (selection : Selection) (selector : String × String) : List Artifact → Bytes :=
  manifestBytes tools selection.manifest selection.source selector

theorem Selection.describe_unordered (tools : PackTools) (selection : Selection) (selector : String × String) :
    Unordered (selection.describe tools selector) := manifestBytes_unordered tools _ _ selector

/-- What a pack is made from: the selection that the arguments open, its selector and its evidence. -/
structure Evidence (tools : PackTools) (disk : WorkspaceDisk) (tree : ProjectTree) (selectors : Selectors) (maxBytes contextBytes : Int)
    (selection : Selection) (selector : String × String) (steps : List Step) : Prop where
  opened : openSelection tools disk tree selectors maxBytes contextBytes = .ok selection
  gathered : selection.collection.steps = .ok (selector, steps)

variable {selection : Selection} {selector : String × String} {steps : List Step}

theorem Evidence.orderly (evidence : Evidence tools disk tree selectors maxBytes contextBytes selection selector steps) : Orderly steps :=
  openSelection_orderly evidence.opened evidence.gathered

theorem Evidence.created (evidence : Evidence tools disk tree selectors maxBytes contextBytes selection selector steps) :
    createAnalysisPack tools disk tree selectors maxBytes contextBytes = do
      let (artifacts, described) ← packSteps (selection.describe tools selector) maxBytes.toNat steps
      let pack : Pack := ⟨sortArtifacts artifacts, described⟩
      tools.writePack pack
      return (⟨selector.1, selector.2, artifacts.length, artifactBytes artifacts, tools.sha256 described⟩, pack) := by
  rw [createAnalysisPack, evidence.opened, ok_bind, Collection.run_of_steps evidence.gathered, packSteps]
  cases steps.foldlM (takeStep maxBytes.toNat) [] <;> rfl

theorem evidence_of_created {report : AnalysisPackResult} {pack : Pack}
    (created : createAnalysisPack tools disk tree selectors maxBytes contextBytes = .ok (report, pack)) :
    ∃ selection selector steps, Evidence tools disk tree selectors maxBytes contextBytes selection selector steps := by
  obtain ⟨selection, opened, created⟩ := bind_ok.mp created
  obtain ⟨⟨selector, artifacts⟩, ran, _⟩ := bind_ok.mp created
  obtain ⟨steps, gathered, _⟩ := Collection.steps_of_run ran
  exact ⟨selection, selector, steps, opened, gathered⟩

theorem Evidence.positive (evidence : Evidence tools disk tree selectors maxBytes contextBytes selection selector steps) : 0 < maxBytes := by
  obtain ⟨_, checked, _⟩ := bind_ok.mp evidence.opened
  exact not_le.mp (raiseIf_ok.mp checked)

/-- What a pack says about itself, and what it is made of. Other orders of the same evidence that make a pack make this one. -/
structure SelfDescribing (tools : PackTools) (selection : Selection) (selector : String × String) (steps : List Step) (maxBytes : Int)
    (report : AnalysisPackResult) (pack : Pack) : Prop where
  within : (artifactBytes pack.members + pack.manifest.length : Int) ≤ maxBytes
  listed : ∃ fields, pack.manifest = tools.dumps (.obj fields) ∧
    Json.getField fields "artifacts" = .arr (pack.members.map (artifactJson tools))
  distinct : (pack.members.map (·.path) ++ [packManifestPath]).Nodup
  complete : ∀ artifact ∈ requiredArtifacts steps, artifact ∈ pack.members
  honest : ∀ artifact ∈ pack.members, artifact ∈ steps.map Step.artifact
  counted : report = ⟨selector.1, selector.2, pack.members.length, artifactBytes pack.members, tools.sha256 pack.manifest⟩
  settled : ∀ order packed, order.Perm steps →
    packSteps (selection.describe tools selector) maxBytes.toNat order = .ok packed → (⟨sortArtifacts packed.1, packed.2⟩ : Pack) = pack

theorem sortArtifacts_perm_self (artifacts : List Artifact) : (sortArtifacts artifacts).Perm artifacts := List.perm_insertionSort _ _

theorem requiredArtifacts_chosen {describe : List Artifact → Bytes} {budget : Nat} {artifact : Artifact}
    (required : artifact ∈ requiredArtifacts steps) : artifact ∈ chosen describe budget steps := by
  rw [chosen]
  split
  · exact (requiredArtifacts_sublist steps).subset required
  · exact required

/-- The pack of the chosen artifacts describes itself. -/
theorem Evidence.selfDescribing (evidence : Evidence tools disk tree selectors maxBytes contextBytes selection selector steps)
    (fits : packCost (selection.describe tools selector) (chosen (selection.describe tools selector) maxBytes.toNat steps) ≤ maxBytes.toNat) :
    let artifacts := chosen (selection.describe tools selector) maxBytes.toNat steps
    let described := selection.describe tools selector artifacts
    SelfDescribing tools selection selector steps maxBytes
      ⟨selector.1, selector.2, artifacts.length, artifactBytes artifacts, tools.sha256 described⟩ ⟨sortArtifacts artifacts, described⟩ := by
  intro artifacts described
  have orderly := evidence.orderly
  have perm := sortArtifacts_perm_self artifacts
  have bytes : artifactBytes (sortArtifacts artifacts) = artifactBytes artifacts := (perm.map _).sum_nat
  have among : artifacts.Sublist (steps.map Step.artifact) := chosen_sublist
  have distinct := (among.map (·.path)).nodup orderly.paths
  have positive := evidence.positive
  refine ⟨?_, ⟨_, rfl, rfl⟩, ?_, ?_, ?_, ?_, ?_⟩
  · have total : artifactBytes artifacts + described.length ≤ maxBytes.toNat := fits
    have members : (artifactBytes (sortArtifacts artifacts) + described.length : Int) ≤ maxBytes := by
      rw [bytes]
      omega
    exact members
  · have apart : packManifestPath ∉ (sortArtifacts artifacts).map (·.path) := by
      intro member
      have listed := (among.map (·.path)).subset ((perm.map _).mem_iff.mp member)
      rw [List.map_map] at listed
      exact orderly.apart listed
    refine List.Nodup.append ((perm.map _).nodup_iff.mpr distinct) (List.nodup_singleton _) ?_
    rwa [List.disjoint_singleton]
  · exact fun artifact required => perm.mem_iff.mpr (requiredArtifacts_chosen required)
  · exact fun artifact member => among.subset (perm.mem_iff.mp member)
  · rw [bytes, perm.length_eq]
  · intro order packed same made
    have unordered := selection.describe_unordered tools selector
    rw [(packSteps_ok (orderly.perm same) made).1]
    exact packOf_perm unordered (chosen_perm unordered orderly same) distinct

/-- Every pack that is made is within the budget and describes itself. -/
theorem createAnalysisPack_selfDescribing {report : AnalysisPackResult} {pack : Pack}
    (created : createAnalysisPack tools disk tree selectors maxBytes contextBytes = .ok (report, pack)) :
    ∃ selection selector steps, Evidence tools disk tree selectors maxBytes contextBytes selection selector steps ∧
      SelfDescribing tools selection selector steps maxBytes report pack := by
  obtain ⟨selection, selector, steps, evidence⟩ := evidence_of_created created
  refine ⟨selection, selector, steps, evidence, ?_⟩
  rw [evidence.created] at created
  obtain ⟨⟨artifacts, described⟩, packed, created⟩ := bind_ok.mp created
  obtain ⟨_, _, created⟩ := bind_ok.mp created
  cases created
  obtain ⟨same, fits⟩ := packSteps_ok evidence.orderly packed
  cases same
  exact evidence.selfDescribing fits

/-- Evidence that can be read exhausts the budget only if what is required of it does, with the manifest that lists it.
Otherwise there is a pack, of all the evidence if it fits, in whatever order it is collected. -/
def OnlyRequiredExhausts (tools : PackTools) (disk : WorkspaceDisk) (tree : ProjectTree) (selectors : Selectors)
    (maxBytes contextBytes : Int) : Prop :=
  ∀ selection selector steps, Evidence tools disk tree selectors maxBytes contextBytes selection selector steps →
    (∀ failure, createAnalysisPack tools disk tree selectors maxBytes contextBytes = .error failure →
      BudgetFailure maxBytes.toNat failure → maxBytes < packCost (selection.describe tools selector) (requiredArtifacts steps)) ∧
    ∀ order, order.Perm steps → packCost (selection.describe tools selector) (requiredArtifacts order) ≤ maxBytes →
      ∃ report, createAnalysisPack tools disk tree selectors maxBytes contextBytes =
        .ok (report, packOf (selection.describe tools selector) (chosen (selection.describe tools selector) maxBytes.toNat order))

/-- The full file of a resource fits in behind its record and its sample, but then the records of what the resource
contains do not. -/
def SqueezedOut (tools : PackTools) (disk : WorkspaceDisk) (tree : ProjectTree) (selectors : Selectors) (maxBytes contextBytes : Int) : Prop :=
  selectors.resource.isSome ∧ ∃ selection selector steps,
    Evidence tools disk tree selectors maxBytes contextBytes selection selector steps ∧
      Squeezed (selection.describe tools selector) maxBytes.toNat steps

theorem Evidence.squeezedOut (evidence : Evidence tools disk tree selectors maxBytes contextBytes selection selector steps)
    (squeezed : Squeezed (selection.describe tools selector) maxBytes.toNat steps) :
    SqueezedOut tools disk tree selectors maxBytes contextBytes := by
  refine ⟨?_, selection, selector, steps, evidence, squeezed⟩
  obtain ⟨before, full, after, rfl, room, exceeded, _⟩ := squeezed
  rcases openSelection_full_last evidence.opened evidence.gathered with resource | rfl
  · exact resource
  · exact absurd exceeded (Nat.not_lt.mpr room)

theorem squeezedOut_exhausts (squeezedOut : SqueezedOut tools disk tree selectors maxBytes contextBytes) :
    ¬OnlyRequiredExhausts tools disk tree selectors maxBytes contextBytes := by
  obtain ⟨_, selection, selector, steps, evidence, squeezed⟩ := squeezedOut
  intro claimed
  have positive := evidence.positive
  obtain ⟨failure, budget, failed⟩ := packSteps_squeezed evidence.orderly squeezed
  have raised : createAnalysisPack tools disk tree selectors maxBytes contextBytes = .error failure := by
    rw [evidence.created, failed, error_bind]
  have exceeded := (claimed selection selector steps evidence).1 failure raised budget
  obtain ⟨before, full, after, rfl, _, _, fits⟩ := squeezed
  rw [requiredArtifacts_withFull] at exceeded
  omega

/-- Only required evidence exhausts the budget, unless the full file of a resource squeezes out what comes behind it. -/
theorem onlyRequiredExhausts_iff (writes : ∀ pack, tools.writePack pack = .ok ()) :
    OnlyRequiredExhausts tools disk tree selectors maxBytes contextBytes ↔
      ¬SqueezedOut tools disk tree selectors maxBytes contextBytes := by
  refine ⟨fun claimed squeezedOut => squeezedOut_exhausts squeezedOut claimed, fun free selection selector steps evidence => ?_⟩
  have orderly := evidence.orderly
  have positive := evidence.positive
  have unordered := selection.describe_unordered tools selector
  cases made : packSteps (selection.describe tools selector) maxBytes.toNat steps with
  | error failure =>
    have exceeded : maxBytes.toNat < packCost (selection.describe tools selector) (requiredArtifacts steps) :=
      (packSteps_error orderly made).2.resolve_right fun squeezed => free (evidence.squeezedOut squeezed)
    refine ⟨fun _ _ _ => by omega, fun order same fits => ?_⟩
    have distinct := ((requiredArtifacts_sublist steps).map (·.path)).nodup orderly.paths
    rw [packCost_perm unordered (requiredArtifacts_perm same) distinct] at fits
    omega
  | ok packed =>
    obtain ⟨rfl, _⟩ := packSteps_ok orderly made
    have created := evidence.created
    rw [made, ok_bind] at created
    dsimp only at created
    rw [writes, ok_bind] at created
    refine ⟨fun failure failed => ?_, fun order same _ => ?_⟩
    · rw [created] at failed
      cases failed
    · have distinct := ((@chosen_sublist steps (selection.describe tools selector) maxBytes.toNat).map (·.path)).nodup orderly.paths
      rw [packOf_perm unordered (chosen_perm unordered orderly same) distinct]
      exact ⟨_, created⟩

end Created

mutual

/-- The text of a value under `indent=2` and `sort_keys=True`, if its texts need no escapes and its floats are zero. -/
def plainJson (margin : String) : Json → String
  | .null => "null"
  | .bool value => if value then "true" else "false"
  | .int value => toString value
  | .float _ => "0.0"
  | .str text => "\"" ++ text ++ "\""
  | .arr [] => "[]"
  | .arr items => "[\n" ++ ",\n".intercalate (plainItems (margin ++ "  ") items) ++ "\n" ++ margin ++ "]"
  | .obj [] => "\x7b\x7d"
  | .obj fields =>
    let members := (plainMembers (margin ++ "  ") fields).insertionSort fun member other => member.1 ≤ other.1
    "\x7b\n" ++ ",\n".intercalate (members.map Prod.snd) ++ "\n" ++ margin ++ "\x7d"

def plainItems (margin : String) : List Json → List String
  | [] => []
  | item :: items => (margin ++ plainJson margin item) :: plainItems margin items

def plainMembers (margin : String) : List (String × Json) → List (String × String)
  | [] => []
  | (key, item) :: members => (key, margin ++ "\"" ++ key ++ "\": " ++ plainJson margin item) :: plainMembers margin members

end

def plainDumps (value : Json) : Bytes := ((plainJson "" value ++ "\n").toList.map fun c => UInt8.ofNat c.toNat)

def plainPackTools : PackTools :=
  { plainWorkspaceTools with
    isDigit := fun _ => false
    openDisc := fun _ => .error (.parseError "not a disc image")
    dumps := plainDumps
    writable := fun _ _ => .ok ()
    disassemble := fun _ _ _ => .error (.disassembly "no engine")
    generateProject := fun _ _ _ => ([], .error (.disassembly "no engine"))
    portableText := id
    selectorInt := fun _ => none
    sameValue := fun _ _ => false
    texts := ⟨fun _ => "", fun _ => none, id⟩
    writePack := fun _ => .ok () }


/-- The analysis of a game of one file. -/
def ebootRecord : Fields := [("path", .str "EBOOT.BIN"), ("extracted_path", .str "resources/files/EBOOT.BIN"), ("size", .int 1)]

def ebootTree : ProjectTree := [
  (gameAnalysisFile, .json (.obj [("modules", .arr [])])),
  (["metadata", "game_resources.json"], .json (.obj [("resources", .arr [.obj ebootRecord])])),
  (["resources", "files", "EBOOT.BIN"], .bytes [1])]

def ebootSource : WorkspaceFileRecord := ⟨"EBOOT.BIN", 1, "1", "directory", "resource", "unknown", "pending", 2⟩

def ebootSelection : Selection := ⟨(gamePreparation "a" "1").manifest, ebootSource, do
  resourceArtifacts plainPackTools ebootTree ebootSource ebootRecord 16
  return ("resource", "EBOOT.BIN")⟩

def ebootSteps : List Step := [.required (jsonArtifact plainPackTools "evidence/resource.json" (.obj ebootRecord)),
  .required ⟨"evidence/resource-sample.bin", [1]⟩, .full ⟨"evidence/resource.bin", [1]⟩]

def ebootDisk : WorkspaceDisk := runOps (writeWorkspace (gamePreparation "a" "1")) fun _ => none

theorem eboot_loaded : loadGameWorkspace plainPackTools.toWorkspaceTools ebootDisk = .ok (gamePreparation "a" "1").manifest := by
  decide

theorem eboot_found : findFile plainPackTools (gamePreparation "a" "1").manifest "EBOOT.BIN" = .ok ebootSource := by
  decide

theorem eboot_record : resourceRecord plainPackTools ebootTree "EBOOT.BIN" = .ok ebootRecord := by
  rfl

theorem eboot_bytes : resourceBytes plainPackTools ebootTree ebootRecord = .ok [1] := by
  rfl

theorem eboot_gathered : ebootSelection.collection.steps = .ok (("resource", "EBOOT.BIN"), ebootSteps) := by
  rfl

def ebootSelectors : Selectors := ⟨none, none, some "EBOOT.BIN"⟩

theorem eboot_opened {maxBytes : Int} (room : 16 ≤ maxBytes) :
    openSelection plainPackTools ebootDisk ebootTree ebootSelectors maxBytes 16 = .ok ebootSelection := by
  have positive : ¬maxBytes ≤ 0 := by omega
  have context : ¬((16 : Int) < 0 ∨ maxBytes < 16) := by omega
  rw [openSelection, raiseIf, if_neg positive, raiseIf, if_neg context, eboot_loaded]
  rfl

def ebootDescribe : List Artifact → Bytes := ebootSelection.describe plainPackTools ("resource", "EBOOT.BIN")

/-- A budget for three things. -/
def budgetFor (context required room : Nat) : Nat := context + required + room

theorem budgetFor_enough (context required room : Nat) :
    context ≤ budgetFor context required room ∧ required ≤ budgetFor context required room ∧
      room ≤ budgetFor context required room := by
  rw [budgetFor]
  omega

def ebootBudget : Nat :=
  budgetFor 16 (packCost ebootDescribe (requiredArtifacts ebootSteps)) (artifactBytes (ebootSteps.map Step.artifact))

theorem eboot_evidence {maxBytes : Int} (room : 16 ≤ maxBytes) : Evidence plainPackTools ebootDisk ebootTree ebootSelectors maxBytes 16
    ebootSelection ("resource", "EBOOT.BIN") ebootSteps := ⟨eboot_opened room, eboot_gathered⟩

theorem eboot_created : ∃ report pack,
    createAnalysisPack plainPackTools ebootDisk ebootTree ebootSelectors ebootBudget 16 = .ok (report, pack) := by
  obtain ⟨context, required, room⟩ :=
    budgetFor_enough 16 (packCost ebootDescribe (requiredArtifacts ebootSteps)) (artifactBytes (ebootSteps.map Step.artifact))
  rw [← ebootBudget] at context required room
  have evidence := @eboot_evidence ebootBudget (Int.ofNat_le.mpr context)
  obtain ⟨packed, made⟩ := packSteps_room evidence.orderly required room
  have created := evidence.created
  rw [Int.toNat_natCast, show packSteps (ebootSelection.describe plainPackTools _) ebootBudget ebootSteps = .ok packed from made] at created
  exact ⟨_, _, created⟩

theorem eboot_selfDescribing : ∃ report pack selection selector steps,
    createAnalysisPack plainPackTools ebootDisk ebootTree ebootSelectors ebootBudget 16 = .ok (report, pack) ∧
      SelfDescribing plainPackTools selection selector steps ebootBudget report pack := by
  obtain ⟨report, pack, created⟩ := eboot_created
  obtain ⟨selection, selector, steps, _, describes⟩ := createAnalysisPack_selfDescribing created
  exact ⟨report, pack, selection, selector, steps, created, describes⟩

theorem eboot_onlyRequiredExhausts :
    OnlyRequiredExhausts plainPackTools ebootDisk ebootTree ebootSelectors ebootBudget 16 ↔
      ¬SqueezedOut plainPackTools ebootDisk ebootTree ebootSelectors ebootBudget 16 :=
  onlyRequiredExhausts_iff fun _ => rfl

end PspDisasm.AnalysisPack
