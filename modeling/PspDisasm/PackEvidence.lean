import PspDisasm.AnalysisPack

namespace PspDisasm.AnalysisPack
open Foundations

namespace Step

def artifact : Step → Artifact
  | .required artifact => artifact
  | .full artifact => artifact

def isFull : Step → Bool
  | .required _ => false
  | .full _ => true

/-- The path of an artifact, and whether the pack can do without it. -/
def label (step : Step) : String × Bool := (step.artifact.path, step.isFull)

end Step

namespace Collection
variable {α β : Type} {maxBytes : Nat} {artifacts collected : List Artifact} {value : α} {taken : List Step}

/-- The artifacts that there are to collect, if nothing else is wrong. -/
def steps : Collection α → Except PackFailure (α × List Step)
  | .done value => .ok (value, [])
  | .raised failure => .error failure
  | .collect step rest => do
    let (value, later) ← rest.steps
    return (value, step :: later)

/-- The calls under a budget take the steps one after the other. -/
theorem run_of_steps {collection : Collection α} (gathered : collection.steps = .ok (value, taken)) :
    collection.run maxBytes artifacts = (fun collected => (value, collected)) <$> taken.foldlM (takeStep maxBytes) artifacts := by
  induction collection generalizing artifacts taken with
  | done other =>
    cases gathered
    rfl
  | raised failure => cases gathered
  | collect step rest ih =>
    obtain ⟨⟨other, later⟩, inner, built⟩ := bind_ok.mp gathered
    cases built
    rw [run, List.foldlM_cons]
    cases takeStep maxBytes artifacts step with
    | error failure => rfl
    | ok held => exact ih inner

theorem steps_of_run {collection : Collection α} (ran : collection.run maxBytes artifacts = .ok (value, collected)) :
    ∃ steps, collection.steps = .ok (value, steps) ∧ steps.foldlM (takeStep maxBytes) artifacts = .ok collected := by
  induction collection generalizing artifacts with
  | done other =>
    cases ran
    exact ⟨[], rfl, rfl⟩
  | raised failure => cases ran
  | collect step rest ih =>
    obtain ⟨held, first, later⟩ := bind_ok.mp ran
    obtain ⟨steps, gathered, all⟩ := ih later
    refine ⟨step :: steps, bind_ok.mpr ⟨_, gathered, rfl⟩, ?_⟩
    rw [List.foldlM_cons]
    exact bind_ok.mpr ⟨held, first, all⟩

/-- The labels of what is collected are among these, in this order. -/
def Offers (labels : List (String × Bool)) (collection : Collection α) : Prop :=
  ∀ value steps, collection.steps = .ok (value, steps) → (steps.map Step.label).Sublist labels

theorem offers_done {labels : List (String × Bool)} : Offers labels (.done value) := by
  intro _ _ gathered
  cases gathered
  exact List.nil_sublist _

theorem offers_raised {labels : List (String × Bool)} {failure : PackFailure} : Offers labels (.raised failure : Collection α) :=
  fun _ _ gathered => by cases gathered

theorem offers_read {labels : List (String × Bool)} {x : Except PackFailure α} : Offers labels (read x) := by
  cases x with
  | error failure => exact offers_raised
  | ok value => exact offers_done

theorem offers_append {artifact : Artifact} : Offers [(artifact.path, false)] (append artifact) := by
  intro _ _ gathered
  cases gathered
  exact List.Sublist.refl _

theorem offers_appendFull {artifact : Artifact} : Offers [(artifact.path, true)] (appendFull artifact) := by
  intro _ _ gathered
  cases gathered
  exact List.Sublist.refl _

theorem steps_bind {collection : Collection α} {next : α → Collection β} {last : β}
    (gathered : (collection >>= next).steps = .ok (last, taken)) : ∃ value front back, collection.steps = .ok (value, front) ∧
      (next value).steps = .ok (last, back) ∧ taken = front ++ back := by
  induction collection generalizing taken with
  | done value => exact ⟨value, [], taken, rfl, gathered, rfl⟩
  | raised failure => cases gathered
  | collect step rest ih =>
    obtain ⟨⟨other, later⟩, inner, built⟩ := bind_ok.mp gathered
    cases built
    obtain ⟨value, front, back, first, second, rfl⟩ := ih inner
    exact ⟨value, step :: front, back, bind_ok.mpr ⟨_, first, rfl⟩, second, rfl⟩

theorem Offers.bind {labels more : List (String × Bool)} {collection : Collection α} {next : α → Collection β}
    (first : Offers labels collection) (second : ∀ value, Offers more (next value)) : Offers (labels ++ more) (collection >>= next) := by
  intro last steps gathered
  obtain ⟨value, front, back, here, there, rfl⟩ := steps_bind gathered
  rw [List.map_append]
  exact (first value front here).append (second value last back there)

section Bind
variable {labels : List (String × Bool)}

theorem offers_read_bind {x : Except PackFailure α} {next : α → Collection β} (rest : ∀ value, Offers labels (next value)) :
    Offers labels (read x >>= next) := by
  have reads : Offers [] (read x) := offers_read
  exact reads.bind rest

theorem offers_append_bind {artifact : Artifact} {next : Unit → Collection β} (rest : Offers labels (next ())) :
    Offers ((artifact.path, false) :: labels) (append artifact >>= next) := Offers.bind offers_append fun _ => rest

theorem offers_appendFull_bind {artifact : Artifact} {next : Unit → Collection β} (rest : Offers labels (next ())) :
    Offers ((artifact.path, true) :: labels) (appendFull artifact >>= next) := Offers.bind offers_appendFull fun _ => rest

theorem offers_bind_done {collection : Collection α} {next : α → Collection β} (first : Offers labels collection)
    (last : ∀ value, Offers [] (next value)) : Offers labels (collection >>= next) := by
  rw [← List.append_nil labels]
  exact first.bind last

end Bind

theorem offers_forM {items : List β} {each : β → Collection PUnit} {label : β → String × Bool}
    (offers : ∀ item, Offers [label item] (each item)) : Offers (items.map label) (items.forM each) := by
  induction items with
  | nil => exact offers_done
  | cons item items ih => exact Offers.bind (offers item) fun _ => ih

end Collection

/-- The artifacts have paths of their own, and the pack can do without at most one of them, which has the path of a full
file. -/
structure Orderly (steps : List Step) : Prop where
  distinct : (steps.map fun step => step.artifact.path).Nodup
  optional : ∀ step ∈ steps, step.artifact.path ∈ optionalFullArtifacts ↔ step.isFull
  single : steps.countP Step.isFull ≤ 1
  apart : packManifestPath ∉ steps.map fun step => step.artifact.path

namespace Orderly
variable {steps others : List Step} {labels : List (String × Bool)}

theorem of_labels (offered : (steps.map Step.label).Sublist labels) (distinct : (labels.map (·.1)).Nodup)
    (optional : ∀ label ∈ labels, label.1 ∈ optionalFullArtifacts ↔ label.2) (single : labels.countP (·.2) ≤ 1)
    (apart : packManifestPath ∉ labels.map (·.1)) : Orderly steps := by
  have paths : (steps.map fun step => step.artifact.path).Sublist (labels.map (·.1)) := by
    rw [show (fun step : Step => step.artifact.path) = Prod.fst ∘ Step.label from rfl, ← List.map_map]
    exact offered.map Prod.fst
  refine ⟨paths.nodup distinct, fun step member => ?_, ?_, fun member => apart (paths.subset member)⟩
  · exact optional step.label (offered.subset (List.mem_map_of_mem member))
  · have counted := offered.countP_le (p := fun label => label.2)
    rw [List.countP_map] at counted
    exact counted.trans single

theorem perm (orderly : Orderly steps) (same : others.Perm steps) : Orderly others where
  distinct := (same.map _).nodup_iff.mpr orderly.distinct
  optional step member := orderly.optional step (same.mem_iff.mp member)
  single := (same.countP_eq _).trans_le orderly.single
  apart member := orderly.apart ((same.map _).mem_iff.mp member)

end Orderly

/-- The artifacts that the pack cannot do without. -/
def requiredArtifacts (steps : List Step) : List Artifact := (steps.filter fun step => step.isFull = false).map Step.artifact

theorem steps_of_required {steps : List Step} (required : ∀ step ∈ steps, step.isFull = false) :
    ∃ artifacts : List Artifact, steps = artifacts.map .required := by
  induction steps with
  | nil => exact ⟨[], rfl⟩
  | cons step steps ih =>
    obtain ⟨here, rest⟩ := List.forall_mem_cons.mp required
    obtain ⟨artifacts, rfl⟩ := ih rest
    cases step with
    | required artifact => exact ⟨artifact :: artifacts, rfl⟩
    | full artifact => cases here

/-- Evidence with a full file. -/
def withFull (before : List Artifact) (full : Artifact) (after : List Artifact) : List Step :=
  before.map .required ++ .full full :: after.map .required

/-- Evidence is required all of it, or but for one artifact. -/
theorem Orderly.split {steps : List Step} (orderly : Orderly steps) :
    (∃ artifacts : List Artifact, steps = artifacts.map .required) ∨ ∃ before full after, steps = withFull before full after := by
  by_cases required : ∀ step ∈ steps, step.isFull = false
  · exact .inl (steps_of_required required)
  · push Not at required
    obtain ⟨step, member, isFull⟩ := required
    obtain ⟨front, back, rfl⟩ := List.append_of_mem member
    have single := orderly.single
    rw [List.countP_append, List.countP_cons_of_pos (by simpa using isFull)] at single
    have none : front.countP Step.isFull = 0 ∧ back.countP Step.isFull = 0 := by omega
    obtain ⟨before, rfl⟩ := steps_of_required (by simpa using List.countP_eq_zero.mp none.1)
    obtain ⟨after, rfl⟩ := steps_of_required (by simpa using List.countP_eq_zero.mp none.2)
    cases step with
    | required artifact => simp [Step.isFull] at isFull
    | full artifact => exact .inr ⟨before, artifact, after, rfl⟩

theorem artifacts_required (artifacts : List Artifact) : (artifacts.map Step.required).map Step.artifact = artifacts := by
  rw [List.map_map]
  exact List.map_id _

@[simp] theorem artifacts_withFull (before after : List Artifact) (full : Artifact) :
    (withFull before full after).map Step.artifact = before ++ full :: after := by
  rw [withFull, List.map_append, List.map_cons, artifacts_required, artifacts_required]
  rfl

@[simp] theorem requiredArtifacts_required (artifacts : List Artifact) : requiredArtifacts (artifacts.map .required) = artifacts := by
  have kept : (artifacts.map Step.required).filter (fun step => step.isFull = false) = artifacts.map .required :=
    List.filter_eq_self.mpr (by simp [Step.isFull])
  rw [requiredArtifacts, kept, artifacts_required]

@[simp] theorem requiredArtifacts_withFull (before after : List Artifact) (full : Artifact) :
    requiredArtifacts (withFull before full after) = before ++ after := by
  have front := requiredArtifacts_required before
  have back := requiredArtifacts_required after
  rw [requiredArtifacts] at front back ⊢
  rw [withFull, List.filter_append, List.filter_cons_of_neg (by simp [Step.isFull]), List.map_append, front, back]

/-- A full file that is offered last has nothing behind it. -/
theorem full_last {before after : List Artifact} {full : Artifact} {labels : List (String × Bool)} {last : String × Bool}
    (offered : ((withFull before full after).map Step.label).Sublist (labels ++ [last]))
    (required : ∀ label ∈ labels, label.2 = false) : after = [] := by
  have absent : Step.label (.full full) ∉ labels.reverse := by
    intro member
    cases required _ (List.mem_reverse.mp member)
  have backwards := offered.reverse
  rw [withFull, List.map_append, List.map_cons, List.reverse_append, List.reverse_cons, List.reverse_append, List.append_assoc,
    List.reverse_singleton, List.singleton_append] at backwards
  rcases List.sublist_cons_iff.mp backwards with inside | ⟨rest, split, inside⟩
  · exact absurd (inside.subset (by simp)) absent
  · cases behind : ((after.map Step.required).map Step.label).reverse with
    | nil => simpa using behind
    | cons label later =>
      rw [behind, List.cons_append] at split
      cases (List.cons.inj split).2
      exact absurd (inside.subset (by simp)) absent

section Selections
variable {tools : PackTools} {tree : ProjectTree} {source : WorkspaceFileRecord} {record : Fields} {contextBytes : Int}
open Collection

def moduleLabels : List (String × Bool) :=
  ("evidence/module.json", false) :: (metadataNames.map fun name => (s!"metadata/{name}", false)) ++ [("evidence/module.bin", true)]

def functionLabels : List (String × Bool) := [("evidence/function.json", false), ("evidence/instructions.json", false),
  ("evidence/references.json", false), ("evidence/callgraph.json", false), ("evidence/context.bin", false), ("evidence/context.json", false)]

def resourceLabels : List (String × Bool) := [("evidence/resource.json", false), ("evidence/resource-sample.bin", false),
  ("evidence/resource.bin", true)] ++ relatedFiles.map fun related => (s!"evidence/{related.2}.json", false)

/-- Evidence that may not be there offers what it would be. -/
theorem offers_optional {label : String × Bool} {absent : Prop} [Decidable absent] {collection : Collection Unit}
    (offers : Offers [label] collection) : Offers [label] (if absent then .done () else collection) := by
  split
  · intro _ _ gathered
    cases gathered
    exact List.nil_sublist _
  · exact offers

theorem moduleArtifacts_offers : Offers moduleLabels (moduleArtifacts tools tree source record) := by
  refine offers_append_bind (offers_read_bind fun project => Offers.bind (offers_forM fun name => ?_) fun _ => ?_)
  · exact offers_optional (offers_read_bind fun payload => offers_append)
  · exact offers_read_bind fun data => offers_read_bind fun _ => offers_appendFull

theorem resourceArtifacts_offers : Offers resourceLabels (resourceArtifacts tools tree source record contextBytes) := by
  refine offers_append_bind (offers_read_bind fun data => offers_read_bind fun _ => offers_read_bind fun sample => ?_)
  refine offers_append_bind (offers_appendFull_bind (offers_forM fun related => ?_))
  exact offers_optional (offers_read_bind fun payload => offers_append)

theorem functionArtifacts_offers {selector : String} :
    Offers functionLabels (functionArtifacts tools tree source record selector contextBytes) := by
  refine offers_read_bind fun project => offers_read_bind fun functions => offers_read_bind fun selected => ?_
  split
  · refine offers_append_bind (offers_append_bind (offers_read_bind fun references => offers_append_bind ?_))
    refine offers_read_bind fun edges => offers_append_bind (offers_read_bind fun data => offers_read_bind fun _ => ?_)
    refine offers_read_bind fun (start, stop) => offers_read_bind fun context => ?_
    exact offers_append_bind (offers_append_bind offers_done)
  · intro _ _ gathered
    cases gathered

theorem openSelection_offers {disk : WorkspaceDisk} {selectors : Selectors} {maxBytes : Int} {selection : Selection}
    (opened : openSelection tools disk tree selectors maxBytes contextBytes = .ok selection) :
    Offers moduleLabels selection.collection ∨ Offers functionLabels selection.collection ∨
      selectors.resource.isSome ∧ Offers resourceLabels selection.collection := by
  obtain ⟨_, _, opened⟩ := bind_ok.mp opened
  obtain ⟨_, _, opened⟩ := bind_ok.mp opened
  obtain ⟨_, _, opened⟩ := bind_ok.mp opened
  obtain ⟨_, _, opened⟩ := bind_ok.mp opened
  obtain ⟨manifest, _, opened⟩ := bind_ok.mp opened
  obtain ⟨_, _, opened⟩ := bind_ok.mp opened
  split at opened
  · rename_i selected
    obtain ⟨source, _, opened⟩ := bind_ok.mp opened
    obtain ⟨record, _, opened⟩ := bind_ok.mp opened
    cases opened
    refine .inr (.inr ⟨by rw [selected]; rfl, ?_⟩)
    exact offers_bind_done resourceArtifacts_offers fun _ => offers_done
  · obtain ⟨⟨source, record⟩, _, opened⟩ := bind_ok.mp opened
    dsimp only at opened
    split at opened
    · cases opened
      exact .inl (offers_bind_done moduleArtifacts_offers fun _ => offers_done)
    · cases opened
      refine .inr (.inl (offers_bind_done functionArtifacts_offers fun selected => ?_))
      split <;> exact offers_done

/-- Whatever is selected, its evidence has paths of its own and one full file at most. -/
theorem openSelection_orderly {disk : WorkspaceDisk} {selectors : Selectors} {maxBytes : Int} {selection : Selection}
    {selector : String × String} {steps : List Step}
    (opened : openSelection tools disk tree selectors maxBytes contextBytes = .ok selection)
    (gathered : selection.collection.steps = .ok (selector, steps)) : Orderly steps := by
  obtain offers | offers | ⟨_, offers⟩ := openSelection_offers opened
  · exact .of_labels (offers _ _ gathered) (by decide) (by decide) (by decide) (by decide)
  · exact .of_labels (offers _ _ gathered) (by decide) (by decide) (by decide) (by decide)
  · exact .of_labels (offers _ _ gathered) (by decide) (by decide) (by decide) (by decide)

/-- Only the evidence about a resource goes on behind the full file. -/
theorem openSelection_full_last {disk : WorkspaceDisk} {selectors : Selectors} {maxBytes : Int} {selection : Selection}
    {selector : String × String} {before after : List Artifact} {full : Artifact}
    (opened : openSelection tools disk tree selectors maxBytes contextBytes = .ok selection)
    (gathered : selection.collection.steps = .ok (selector, withFull before full after)) :
    selectors.resource.isSome ∨ after = [] := by
  obtain offers | offers | ⟨resource, _⟩ := openSelection_offers opened
  · exact .inr (full_last (offers _ _ gathered) (by decide))
  · have member := (offers _ _ gathered).subset (List.mem_map_of_mem (show .full full ∈ withFull before full after by simp [withFull]))
    have required : ∀ label ∈ functionLabels, label.2 = false := by decide
    cases required _ member
  · exact .inl resource

end Selections

end PspDisasm.AnalysisPack
