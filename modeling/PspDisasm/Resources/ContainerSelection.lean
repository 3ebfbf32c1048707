import PspDisasm.Foundations.ScoredChoice
import PspDisasm.Recovery
import PspDisasm.Resources.ResourceFormats
import PspDisasm.Workspace

namespace PspDisasm
open Foundations

/-- The files below the directory of an analysis, by the parts of their paths. -/
abbrev OutputFiles := Dict WorkspacePath Bytes

structure ContainerEntry where
  path : String
  offset : Int
  size : Int
  metadata : Dict String MetadataValue

/-- What the parser of a container makes of a file. -/
structure ContainerInspection where
  formatName : String
  entries : List ContainerEntry
  warnings : List String

/-- A parser of containers, by its name and what its methods do. Where one raises, the text of the exception is kept. -/
structure ResourceContainerParser where
  name : String
  probe : Bytes → String → Except String ProbeScore
  inspect : OutputFiles → WorkspacePath → Except String ContainerInspection

def defaultParserThreshold : Rat := 9 / 10

section Selection
variable (casefold : String → String) (probePrefix : Bytes) (path : String) (threshold : Rat)

/-- The confidence of a parser, or the warning that the selection notes in its place. -/
def containerConfidence (parser : ResourceContainerParser) : Except String Rat :=
  let name := parser.name
  match parser.probe probePrefix path with
  | .error text => .error s!"Container parser {name} probe failed for {path}: {text}"
  | .ok score =>
    let invalid := s!"Container parser {name} returned invalid probe confidence {score.text} for {path}"
    match score.value with
    | none => .error invalid
    | some value => if value < 0 ∨ 1 < value then .error invalid else .ok value

structure AcceptedParser where
  score : Rat
  index : Nat
  parser : ResourceContainerParser

/-- What accepted parsers are sorted by. -/
def AcceptedParser.rank (item : AcceptedParser) : Rat ×ₗ String ×ₗ String ×ₗ Nat :=
  toLex (-item.score, toLex (casefold item.parser.name, toLex (item.parser.name, item.index)))

def acceptParser (item : ResourceContainerParser × Nat) : Option AcceptedParser :=
  match containerConfidence probePrefix path item.1 with
  | .error _ => none
  | .ok score => if threshold ≤ score then some ⟨score, item.2, item.1⟩ else none

def parserWarning (parser : ResourceContainerParser) : Option String :=
  match containerConfidence probePrefix path parser with
  | .error warning => some warning
  | .ok _ => none

def selectContainerParser (parsers : List ResourceContainerParser) : Option (ResourceContainerParser × Rat) × List String :=
  let accepted := (parsers.zipIdx.filterMap (acceptParser probePrefix path threshold)).insertionSort fun item other =>
    item.rank casefold ≤ other.rank casefold
  (accepted.head?.map fun item => (item.parser, item.score), parsers.filterMap (parserWarning probePrefix path))

end Selection

/-- A confidence that reaches the threshold. -/
def reaching (threshold : Rat) : Except String Rat → Option Rat
  | .error _ => none
  | .ok score => if threshold ≤ score then some score else none

theorem reaching_some {threshold score : Rat} {confidence : Except String Rat} :
    reaching threshold confidence = some score ↔ confidence = .ok score ∧ threshold ≤ score := by
  cases confidence with
  | error text => simp [reaching]
  | ok value =>
    simp only [reaching, Option.ite_none_right_eq_some, Option.some.injEq, Except.ok.injEq]
    exact ⟨fun ⟨reached, same⟩ => ⟨same, same ▸ reached⟩, fun ⟨same, reached⟩ => ⟨same ▸ reached, same⟩⟩

/-- What may be given to a selection, wherever its candidates come from: another order, or one more candidate that is
refused. -/
structure SettledChoice {α : Type} (name : α → String) (confidence : α → Except String Rat) (threshold : Rat) (folded : α → String)
    (select : List α → Option (α × Rat)) : Prop where
  nothing : ∀ items, select items = none ↔ ∀ item ∈ items, ∀ score, confidence item = .ok score → score < threshold
  greatest : ∀ items item score, select items = some (item, score) → item ∈ items ∧ confidence item = .ok score ∧ threshold ≤ score ∧
    ∀ other ∈ items, ∀ rival, confidence other = .ok rival →
      rival < score ∨ rival = score ∧ toLex (folded item, name item) ≤ toLex (folded other, name other)
  refused : ∀ before item after, (∀ score, confidence item = .ok score → score < threshold) →
    select (before ++ item :: after) = select (before ++ after)
  anyOrder : ∀ items others, items.Perm others → (items.map name).Nodup → select items = select others

section Settled
variable {α : Type} {name folded : α → String} {confidence : α → Except String Rat} {threshold : Rat}

theorem reaching_none {confidence : Except String Rat} :
    reaching threshold confidence = none ↔ ∀ score, confidence = .ok score → score < threshold := by
  rw [Option.eq_none_iff_forall_ne_some]
  refine forall_congr' fun score => ?_
  rw [ne_eq, reaching_some, not_and, not_le]

theorem best_settled : SettledChoice name confidence threshold folded
    (ScoredChoice.byNames (fun item => reaching threshold (confidence item)) folded name).best where
  nothing items := by
    rw [ScoredChoice.best_none]
    exact forall₂_congr fun _ _ => reaching_none
  greatest items item score found := by
    obtain ⟨member, scored⟩ := ScoredChoice.best_member found
    obtain ⟨confident, reached⟩ := reaching_some.mp scored
    refine ⟨member, confident, reached, fun other listed rival same => ?_⟩
    by_cases low : rival < threshold
    · exact Or.inl (low.trans_le reached)
    · exact ScoredChoice.best_greatest found listed (reaching_some.mpr ⟨same, not_lt.mp low⟩)
  refused before item after low := ScoredChoice.best_refused (reaching_none.mpr low)
  anyOrder items others same distinct := ScoredChoice.byNames_perm same distinct

end Settled

section Results
variable {casefold : String → String} {probePrefix : Bytes} {path : String} {threshold : Rat}

theorem selectContainerParser_best (parsers : List ResourceContainerParser) :
    (selectContainerParser casefold probePrefix path threshold parsers).1 =
      (ScoredChoice.byNames (fun parser => reaching threshold (containerConfidence probePrefix path parser))
        (fun parser => casefold parser.name) (·.name)).best parsers := by
  have accept : acceptParser probePrefix path threshold = fun placed =>
      (reaching threshold (containerConfidence probePrefix path placed.1)).map fun score => ⟨score, placed.2, placed.1⟩ := by
    funext placed
    rw [acceptParser]
    cases containerConfidence probePrefix path placed.1 with
    | error text => rfl
    | ok score => by_cases reached : threshold ≤ score <;> simp [reaching, reached]
  rw [selectContainerParser, accept]
  exact ScoredChoice.sorted_head (fun parser => casefold parser.name) (·.name) (AcceptedParser.rank casefold)
    (fun parser score index => ⟨score, index, parser⟩) (fun item => (item.parser, item.score))
    (fun parser => reaching threshold (containerConfidence probePrefix path parser)) parsers (fun _ _ _ => rfl) fun _ _ _ => rfl

theorem selectRecoveryBackend_eq_best {tools : RecoveryTools} {header : PspContainerHeader} {data : Bytes}
    (backends : List RecoveryBackend) : (selectRecoveryBackend tools header data threshold backends).1 =
      (ScoredChoice.byNames (fun backend => reaching threshold (probeConfidence header data backend))
        (fun backend => tools.casefold backend.name) (·.name)).best backends := by
  have accept : acceptBackend header data threshold = fun placed =>
      (reaching threshold (probeConfidence header data placed.1)).map fun score => ⟨score, placed.2, placed.1⟩ := by
    funext placed
    rw [acceptBackend]
    cases probeConfidence header data placed.1 with
    | error text => rfl
    | ok score => by_cases reached : threshold ≤ score <;> simp [reaching, reached]
  rw [selectRecoveryBackend, acceptedBackends, accept]
  exact ScoredChoice.sorted_head (fun backend => tools.casefold backend.name) (·.name) (AcceptedBackend.rank tools)
    (fun backend score index => ⟨score, index, backend⟩) (fun item => (item.backend, item.score))
    (fun backend => reaching threshold (probeConfidence header data backend)) backends (fun _ _ _ => rfl) fun _ _ _ => rfl

/-- The selections of a parser and of a backend take the most confident candidate. Neither the order of the candidates
nor a candidate that fails, answers nonsense or is not confident enough makes a difference. -/
theorem selections_settled :
    (∀ casefold probePrefix path threshold, SettledChoice (·.name) (containerConfidence probePrefix path) threshold
      (fun parser => casefold parser.name) fun parsers => (selectContainerParser casefold probePrefix path threshold parsers).1) ∧
    ∀ tools header data threshold, SettledChoice (·.name) (probeConfidence header data) threshold
      (fun backend => tools.casefold backend.name) fun backends => (selectRecoveryBackend tools header data threshold backends).1 := by
  constructor
  · intro casefold probePrefix path threshold
    simp only [selectContainerParser_best]
    exact best_settled
  · intro tools header data threshold
    simp only [selectRecoveryBackend_eq_best]
    exact best_settled

end Results

end PspDisasm
