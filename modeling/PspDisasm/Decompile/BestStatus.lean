import PspDisasm.Decompile.History
import PspDisasm.Foundations.FirstLeast

namespace PspDisasm
open Foundations

/-- `blocked`, `build_failed`, `matched_partial` and `matched_exact`, by how far a function has come. -/
def DecompilationStatus.progress : DecompilationStatus → Nat
  | .matchedExact => 3
  | .matchedPartial => 2
  | .buildFailed => 1
  | _ => 0

/-- What an appended attempt leaves of the status and of the best similarity. -/
structure NeverRegresses (history : List DecompilationAttempt) (attempt : DecompilationAttempt) : Prop where
  status : (statusFromBest (selectBestAttempt history)).progress ≤
    (statusFromBest (selectBestAttempt (history ++ [attempt]))).progress
  percent : ¬HasExact history → ¬HasExact (history ++ [attempt]) →
    ∀ percent, (selectBestAttempt history).bind (·.matchSimilarityPercent) = some percent →
      ∃ better, (selectBestAttempt (history ++ [attempt])).bind (·.matchSimilarityPercent) = some better ∧ percent ≤ better
  tieBreak : ∀ best, selectBestAttempt history = some best → selectBestAttempt (history ++ [attempt]) = some attempt →
    (statusFromBest (some best)).progress ≤ (statusFromBest (some attempt)).progress

namespace DecompilationAttempt
variable (attempt other : DecompilationAttempt)

/-- The similarity of an attempt. One that was not compared counts as below zero. -/
def similarity : Rat := attempt.matchSimilarityPercent.getD (-1)

def differingRows : Int := attempt.changedRows.getD 0 + attempt.addedRows.getD 0 + attempt.removedRows.getD 0

/-- Among attempts that are not exact: the more similar one first, then the one with fewer differing rows, then the
one with the lower identity. -/
def Precedes : Prop :=
  other.similarity < attempt.similarity ∨ attempt.similarity = other.similarity ∧
    (attempt.differingRows < other.differingRows ∨
      attempt.differingRows = other.differingRows ∧ attempt.attemptId < other.attemptId)

end DecompilationAttempt

/-- The first of the attempts that no other one precedes. -/
def Leads (history : List DecompilationAttempt) (leader : DecompilationAttempt) : Prop :=
  ∃ before after, history = before ++ leader :: after ∧ (∀ attempt ∈ before, leader.Precedes attempt) ∧
    ∀ attempt ∈ after, ¬attempt.Precedes leader

/-- An attempt that no object of was compared goes before all attempts of a history without exact ones, and the
first of these had a similarity, or had a candidate where it has none. -/
structure Overtakes (history : List DecompilationAttempt) (attempt : DecompilationAttempt) : Prop where
  inexact : ¬HasExact (history ++ [attempt])
  unmatched : attempt.matchSimilarityPercent = none
  leader : ∃ leader, Leads history leader ∧ attempt.Precedes leader ∧
    (leader.matchSimilarityPercent.isSome ∨ leader.candidateSha256.isSome ∧ attempt.candidateSha256 = none)

section Order
variable {history : List DecompilationAttempt} {attempt other best : DecompilationAttempt}

theorem rank_lt_iff_precedes (exact : attempt.matchExact ≠ some true) (otherExact : other.matchExact ≠ some true) :
    rank attempt < rank other ↔ attempt.Precedes other := by
  rw [rank, rank, if_neg exact, if_neg otherExact, Prod.Lex.toLex_lt_toLex]
  unfold DecompilationAttempt.Precedes DecompilationAttempt.similarity DecompilationAttempt.differingRows
  simp only [lt_irrefl, true_and, false_or, Prod.Lex.toLex_lt_toLex, neg_lt_neg_iff, neg_inj]

theorem leads_iff (inexact : ¬HasExact history) : Leads history best ↔ selectBestAttempt history = some best := by
  have each : ∀ attempt ∈ history, attempt.matchExact ≠ some true := fun attempt member exact =>
    inexact ⟨attempt, member, exact⟩
  refine Iff.trans ?_ argmin_eq_some_iff_firstLeast.symm
  refine exists_congr fun before => exists_congr fun after => and_congr_right fun split => ?_
  subst split
  have own : best.matchExact ≠ some true := each best (List.mem_append_right _ List.mem_cons_self)
  refine and_congr (forall₂_congr fun attempt member => ?_) (forall₂_congr fun attempt member => ?_)
  · rw [rank_lt_iff_precedes own (each attempt (List.mem_append_left _ member))]
  · rw [← not_lt, rank_lt_iff_precedes (each attempt (List.mem_append_right _ (List.mem_cons_of_mem _ member))) own]

theorem selectBestAttempt_append :
    selectBestAttempt (history ++ [attempt]) = match selectBestAttempt history with
      | none => some attempt
      | some best => if rank attempt < rank best then some attempt else some best := by
  unfold selectBestAttempt
  rw [List.argmin_concat]
  cases List.argmin rank history <;> rfl

theorem statusFromBest_inexact (inexact : best.matchExact ≠ some true) :
    (statusFromBest (some best)).progress =
      if best.matchSimilarityPercent.isSome then 2 else if best.candidateSha256.isSome then 1 else 0 := by
  rw [statusFromBest, if_neg inexact]
  split
  · rfl
  · split <;> rfl

theorem hasExact_concat : HasExact (history ++ [attempt]) ↔ HasExact history ∨ attempt.matchExact = some true := by
  have single : HasExact [attempt] ↔ attempt.matchExact = some true := by
    unfold HasExact
    simp only [List.mem_singleton, exists_eq_left]
  rw [hasExact_append, single]

/-- Where the best attempt stays, nothing is lost. -/
theorem NeverRegresses.kept (same : selectBestAttempt (history ++ [attempt]) = selectBestAttempt history) :
    NeverRegresses history attempt := by
  refine ⟨by rw [same], fun _ _ percent known => ⟨percent, by rw [same]; exact known, le_rfl⟩, fun best known chosen => ?_⟩
  rw [← known, ← chosen, same]

/-- An exact attempt has come furthest. -/
theorem NeverRegresses.exact (exact : attempt.matchExact = some true) : NeverRegresses history attempt := by
  have matched : HasExact (history ++ [attempt]) := hasExact_concat.mpr (Or.inr exact)
  obtain ⟨best, selected, top⟩ := selectBestAttempt_exact matched
  have least : ∀ found, (statusFromBest found).progress ≤ 3 := fun found => by
    cases statusFromBest found <;> decide
  refine ⟨?_, fun _ inexact => absurd matched inexact, fun best _ _ => ?_⟩
  · rw [selected, statusFromBest, if_pos top]
    exact least _
  · rw [statusFromBest.eq_def (some attempt)]
    dsimp only
    rw [if_pos exact]
    exact least _

/-- An attempt that displaces one of its kind keeps the status just when it has come as far, since the similarity
comes first in the ranking. -/
theorem neverRegresses_displaced (inexact : ¬HasExact (history ++ [attempt])) (leader : selectBestAttempt history = some best)
    (lower : rank attempt < rank best) :
    NeverRegresses history attempt ↔ ¬(attempt.matchSimilarityPercent = none ∧
      (best.matchSimilarityPercent.isSome ∨ best.candidateSha256.isSome ∧ attempt.candidateSha256 = none)) := by
  obtain ⟨earlier, own⟩ := not_or.mp (mt hasExact_concat.mpr inexact)
  have bestInexact : best.matchExact ≠ some true := fun exact => earlier ⟨best, List.argmin_mem leader, exact⟩
  have chosen : selectBestAttempt (history ++ [attempt]) = some attempt := by
    rw [selectBestAttempt_append, leader]
    exact if_pos lower
  have similar : best.similarity ≤ attempt.similarity := by
    rcases (rank_lt_iff_precedes own bestInexact).mp lower with more | ⟨same, _⟩
    · exact more.le
    · exact same.ge
  have kept : NeverRegresses history attempt ↔
      (statusFromBest (some best)).progress ≤ (statusFromBest (some attempt)).progress := by
    constructor
    · exact fun regress => regress.tieBreak best leader chosen
    · intro status
      refine ⟨by rw [leader, chosen]; exact status, fun _ _ percent known => ?_, fun other known _ => ?_⟩
      · rw [leader, Option.bind_some] at known
        rw [chosen, Option.bind_some]
        rw [statusFromBest_inexact bestInexact, statusFromBest_inexact own, known] at status
        cases compared : attempt.matchSimilarityPercent with
        | none =>
          rw [if_pos (show (some percent).isSome from rfl), compared, if_neg nofun] at status
          split at status <;> omega
        | some better =>
          unfold DecompilationAttempt.similarity at similar
          rw [known, compared] at similar
          exact ⟨better, rfl, similar⟩
      · cases leader.symm.trans known
        exact status
  rw [kept, statusFromBest_inexact bestInexact, statusFromBest_inexact own]
  cases best.matchSimilarityPercent <;> cases attempt.matchSimilarityPercent <;>
    cases best.candidateSha256 <;> cases attempt.candidateSha256 <;> simp

/-- The status and the similarity of the best attempt never fall, unless an attempt that came less far overtakes
the attempts of a history without an object that was compared. -/
theorem neverRegresses_iff (history : List DecompilationAttempt) (attempt : DecompilationAttempt) :
    NeverRegresses history attempt ↔ ¬Overtakes history attempt := by
  by_cases inexact : HasExact (history ++ [attempt])
  · refine iff_of_true ?_ fun overtakes => overtakes.inexact inexact
    rcases hasExact_concat.mp inexact with earlier | exact
    · by_cases exact : attempt.matchExact = some true
      · exact .exact exact
      · obtain ⟨best, selected, matched⟩ := selectBestAttempt_exact earlier
        refine .kept ?_
        rw [selectBestAttempt_append, selected]
        exact if_neg fun lower => exact (rank_exact matched (asymm lower))
    · exact .exact exact
  · obtain ⟨earlier, own⟩ := not_or.mp (mt hasExact_concat.mpr inexact)
    cases leader : selectBestAttempt history with
    | none =>
      have empty : history = [] := List.argmin_eq_none.mp leader
      refine iff_of_true ⟨?_, fun _ _ percent known => ?_, fun best known => ?_⟩ fun overtakes => ?_
      · rw [leader]
        exact Nat.zero_le _
      · rw [leader] at known
        cases known
      · rw [leader] at known
        cases known
      · obtain ⟨first, leads, _⟩ := overtakes.leader
        rw [(leads_iff earlier).mp leads] at leader
        cases leader
    | some best =>
      have bestInexact : best.matchExact ≠ some true := fun exact => earlier ⟨best, List.argmin_mem leader, exact⟩
      by_cases lower : rank attempt < rank best
      · rw [neverRegresses_displaced inexact leader lower, not_iff_not]
        constructor
        · rintro ⟨unmatched, further⟩
          exact ⟨inexact, unmatched, best, (leads_iff earlier).mpr leader, (rank_lt_iff_precedes own bestInexact).mp lower, further⟩
        · intro overtakes
          obtain ⟨first, leads, _, further⟩ := overtakes.leader
          cases leader.symm.trans ((leads_iff earlier).mp leads)
          exact ⟨overtakes.unmatched, further⟩
      · refine iff_of_true (.kept ?_) fun overtakes => ?_
        · rw [selectBestAttempt_append, leader]
          exact if_neg lower
        · obtain ⟨first, leads, before, _⟩ := overtakes.leader
          cases leader.symm.trans ((leads_iff earlier).mp leads)
          exact lower ((rank_lt_iff_precedes own bestInexact).mpr before)

end Order

section Displaced

/-- An attempt that ended without an object. -/
def failedAttempt (id : String) (outcome : AttemptOutcome) (candidate : Option String) : DecompilationAttempt where
  attemptId := id
  variantReason := "default"
  assemblySha256 := ""
  contextSha256 := []
  m2cCommand := ["m2c"]
  m2cVersion := none
  target := "mipsel-gcc-c"
  outcome := outcome.value
  candidateSha256 := candidate
  toolchainName := none
  toolchainIdentity := none
  objectSha256 := none
  matchRawScore := none
  matchMaxScore := none
  matchSimilarityPercent := none
  matchExact := none
  matchingRows := none
  changedRows := none
  addedRows := none
  removedRows := none
  referenceLacksRelocations := false
  diagnostics := []
  artifactPaths := []

def buildFailedAttempt : DecompilationAttempt := failedAttempt "90b1" .buildFailed (some "c0de")

def decompilationFailedAttempt : DecompilationAttempt := failedAttempt "1f3a" .decompilationFailed none

/-- A failed decompilation with a lower identity takes the place of a failed build. -/
theorem failedBuild_displaced : ¬NeverRegresses [buildFailedAttempt] decompilationFailedAttempt := by
  intro kept
  exact absurd kept.status (by decide)

end Displaced

end PspDisasm
