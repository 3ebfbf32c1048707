import PspDisasm.DataTyping.Inference
import Mathlib.Data.List.Dedup
import Mathlib.Data.List.MinMax

namespace PspDisasm
open Foundations

namespace DataTyping

section Unique
variable {records : List DataTypeRecord} {record : DataTypeRecord}

/-- A record stands for those with its fingerprint when it is the last of them. -/
theorem mem_uniqueRecords : record ∈ uniqueRecords records ↔
    ∃ key, (records.reverse.find? fun item => fingerprint item = key) = some record := by
  have unique : ∀ dict : Dict DataTypeRecord DataTypeRecord, dict.keys.Nodup →
      (records.foldl (fun unique record => Dict.set unique (fingerprint record) record) dict).keys.Nodup := by
    induction records with
    | nil => exact fun _ nodup => nodup
    | cons first rest ih => exact fun dict nodup => ih _ (Dict.nodup_set nodup)
  rw [uniqueRecords, Dict.mem_values (unique [] .nil)]
  simp only [Dict.get?_foldl_set, Dict.get?, Option.or_none]

theorem uniqueRecords_subset (member : record ∈ uniqueRecords records) : record ∈ records := by
  obtain ⟨key, found⟩ := mem_uniqueRecords.mp member
  exact List.mem_reverse.mp (List.mem_of_find?_eq_some found)

theorem uniqueRecords_standing (member : record ∈ records) :
    ∃ other ∈ uniqueRecords records, fingerprint other = fingerprint record := by
  have some : (records.reverse.find? fun item => fingerprint item = fingerprint record).isSome :=
    List.find?_isSome.mpr ⟨record, List.mem_reverse.mpr member, decide_eq_true rfl⟩
  obtain ⟨other, found⟩ := Option.isSome_iff_exists.mp some
  have same := List.find?_some found
  exact ⟨other, mem_uniqueRecords.mpr ⟨_, found⟩, of_decide_eq_true same⟩

theorem fingerprint_precedence {other : DataTypeRecord} (same : fingerprint other = fingerprint record) :
    other.typeName = record.typeName ∧ other.confidence = record.confidence := by
  have both := congrArg (fun item => (item.typeName, item.confidence)) same
  exact Prod.ext_iff.mp both

end Unique

section Tied
variable {records candidates : List DataTypeRecord} {record tied : DataTypeRecord} {address : Int}

def byCandidateKey (records : List DataTypeRecord) : List DataTypeRecord :=
  (uniqueRecords records).insertionSort fun first second => candidateKey first ≤ candidateKey second

theorem byCandidateKey_sorted :
    (byCandidateKey records).Pairwise fun first second => candidateKey first ≤ candidateKey second := by
  have : Std.Total fun first second : DataTypeRecord => candidateKey first ≤ candidateKey second := ⟨fun _ _ => le_total _ _⟩
  have : IsTrans DataTypeRecord fun first second => candidateKey first ≤ candidateKey second := ⟨fun _ _ _ => le_trans⟩
  exact List.pairwise_insertionSort _ _

theorem mem_byCandidateKey : record ∈ byCandidateKey records ↔ record ∈ uniqueRecords records := List.mem_insertionSort _

/-- The records that are left have the precedence of the head, and none of them has more confidence. -/
theorem mem_tiedRecords : tied ∈ tiedRecords records ↔ tied ∈ byCandidateKey records ∧
    some tied.typeName.precedence = (byCandidateKey records).head?.map (·.typeName.precedence) ∧
      ∀ other ∈ byCandidateKey records, some other.typeName.precedence = (byCandidateKey records).head?.map (·.typeName.precedence) →
        other.confidence ≤ tied.confidence := by
  rw [tiedRecords, List.mem_insertionSort]
  simp only [List.mem_filter, List.all_eq_true, decide_eq_true_eq, and_assoc, and_imp]
  rfl

theorem candidateKey_precedence {other : DataTypeRecord} (below : candidateKey record ≤ candidateKey other) :
    record.typeName.precedence ≤ other.typeName.precedence := by
  rcases Prod.Lex.le_iff.mp below with less | ⟨same, _⟩
  · exact less.le
  · exact same.le

/-- The head of the sorted records has the best precedence. -/
theorem head_best {first : DataTypeRecord} {rest : List DataTypeRecord} (sorted : byCandidateKey records = first :: rest)
    (member : record ∈ records) : first.typeName.precedence ≤ record.typeName.precedence := by
  obtain ⟨other, listed, same⟩ := uniqueRecords_standing member
  rw [← (fingerprint_precedence same).1]
  have order := @byCandidateKey_sorted records
  have inSorted := mem_byCandidateKey.mpr listed
  rw [sorted] at order inSorted
  rcases List.mem_cons.mp inSorted with rfl | later
  · exact le_rfl
  · exact candidateKey_precedence ((List.pairwise_cons.mp order).1 other later)

theorem tied_subset (member : tied ∈ tiedRecords records) : tied ∈ records :=
  uniqueRecords_subset (mem_byCandidateKey.mp (mem_tiedRecords.mp member).1)

theorem tied_best (member : tied ∈ tiedRecords records) (listed : record ∈ records) :
    tied.typeName.precedence ≤ record.typeName.precedence := by
  obtain ⟨inSorted, same, _⟩ := mem_tiedRecords.mp member
  cases sorted : byCandidateKey records with
  | nil =>
    rw [sorted] at inSorted
    cases inSorted
  | cons first rest =>
    rw [sorted] at same
    rw [Option.some.inj same]
    exact head_best sorted listed

/-- Where there are records, one of them is left. -/
theorem tied_nonempty (listed : record ∈ records) : tiedRecords records ≠ [] := by
  obtain ⟨other, unique, _⟩ := uniqueRecords_standing listed
  have inSorted := mem_byCandidateKey.mpr unique
  cases sorted : byCandidateKey records with
  | nil =>
    rw [sorted] at inSorted
    cases inSorted
  | cons first rest =>
    let best := (first :: rest).filter fun record => record.typeName.precedence = first.typeName.precedence
    have opens : first ∈ best := List.mem_filter.mpr ⟨List.mem_cons_self, decide_eq_true rfl⟩
    obtain ⟨top, chosen⟩ := Option.ne_none_iff_exists'.mp fun none : best.argmax (·.confidence) = none =>
      List.ne_nil_of_mem opens (List.argmax_eq_none.mp none)
    obtain ⟨inTop, same⟩ := List.mem_filter.mp (List.argmax_mem chosen)
    refine List.ne_nil_of_mem (mem_tiedRecords.mpr ⟨sorted ▸ inTop, ?_, ?_⟩ : top ∈ tiedRecords records)
    · rw [sorted]
      exact congrArg some (of_decide_eq_true same)
    · rw [sorted]
      intro rival listed level
      exact List.le_of_mem_argmax (List.mem_filter.mpr ⟨listed, decide_eq_true (Option.some.inj level)⟩) chosen

end Tied

section Chosen
variable {candidates : List DataTypeRecord} {record : DataTypeRecord} {address : Int}

theorem mem_candidatesAt : record ∈ candidatesAt candidates address ↔ record ∈ candidates ∧ record.address = address := by
  rw [candidatesAt, List.mem_filter, decide_eq_true_eq]

/-- The record that is chosen for its address. -/
theorem mem_chosenRecords :
    record ∈ chosenRecords candidates ↔ (tiedRecords (candidatesAt candidates record.address)).head? = some record := by
  rw [chosenRecords, List.mem_filterMap]
  constructor
  · rintro ⟨address, _, chosen⟩
    have here := (mem_candidatesAt.mp (tied_subset (List.mem_of_mem_head? chosen))).2
    rw [here]
    exact chosen
  · intro chosen
    refine ⟨record.address, ?_, chosen⟩
    rw [candidateAddresses, List.mem_insertionSort, List.mem_dedup]
    exact List.mem_map_of_mem (mem_candidatesAt.mp (tied_subset (List.mem_of_mem_head? chosen))).1

theorem chosenRecords_subset (chosen : record ∈ chosenRecords candidates) : record ∈ candidates :=
  (mem_candidatesAt.mp (tied_subset (List.mem_of_mem_head? (mem_chosenRecords.mp chosen)))).1

/-- Nothing that is found at the address of a chosen record takes precedence over it. -/
theorem chosenRecords_best {other : DataTypeRecord} (chosen : record ∈ chosenRecords candidates) (listed : other ∈ candidates)
    (same : other.address = record.address) : record.typeName.precedence ≤ other.typeName.precedence :=
  tied_best (List.mem_of_mem_head? (mem_chosenRecords.mp chosen)) (mem_candidatesAt.mpr ⟨listed, same⟩)

/-- For each address with a candidate, one is chosen. -/
theorem chosenRecords_exists (listed : record ∈ candidates) : ∃ chosen ∈ chosenRecords candidates, chosen.address = record.address := by
  have some := tied_nonempty (mem_candidatesAt.mpr ⟨listed, rfl⟩)
  obtain ⟨chosen, rest, opens⟩ := List.exists_cons_of_ne_nil some
  have inTied : chosen ∈ tiedRecords (candidatesAt candidates record.address) := opens ▸ List.mem_cons_self
  have here := (mem_candidatesAt.mp (tied_subset inTied)).2
  refine ⟨chosen, mem_chosenRecords.mpr ?_, here⟩
  rw [here, opens]
  rfl

/-- A candidate that is alone at its address is chosen. -/
theorem chosenRecords_alone (listed : record ∈ candidates)
    (alone : ∀ other ∈ candidates, other.address = record.address → other = record) : record ∈ chosenRecords candidates := by
  obtain ⟨chosen, member, same⟩ := chosenRecords_exists listed
  rw [← alone chosen (chosenRecords_subset member) same]
  exact member

theorem chosenRecords_nodup : ((chosenRecords candidates).map (·.address)).Nodup := by
  have distinct : (candidateAddresses candidates).Nodup := by
    rw [candidateAddresses, (List.perm_insertionSort _ _).nodup_iff]
    exact List.nodup_dedup _
  have at_ : ∀ address chosen, (tiedRecords (candidatesAt candidates address)).head? = some chosen → chosen.address = address :=
    fun address chosen opens => (mem_candidatesAt.mp (tied_subset (List.mem_of_mem_head? opens))).2
  have addresses : (chosenRecords candidates).map (·.address) =
      (candidateAddresses candidates).filter fun address => (tiedRecords (candidatesAt candidates address)).head?.isSome := by
    rw [chosenRecords, List.map_filterMap, ← List.filterMap_eq_filter]
    refine List.filterMap_congr fun address _ => ?_
    cases opens : (tiedRecords (candidatesAt candidates address)).head? with
    | none => simp [Option.guard, opens]
    | some chosen => simp [Option.guard, opens, at_ address chosen opens]
  rw [addresses]
  exact distinct.filter _

/-- The chosen records are kept, but for weak ones that start inside of a strong one. -/
theorem mem_resolveConflicts : record ∈ (resolveConflicts candidates).1 ↔ record ∈ chosenRecords candidates ∧
    (record.typeName ∈ strongRangeTypes ∨ ¬insideRanges record.address (strongObjectRanges (chosenRecords candidates)) = true) := by
  rw [resolveConflicts, List.mem_insertionSort, List.mem_filter, decide_eq_true_eq]

theorem resolveConflicts_nodup : ((resolveConflicts candidates).1.map (·.address)).Nodup := by
  rw [resolveConflicts, ((List.perm_insertionSort _ _).map _).nodup_iff]
  exact (List.filter_sublist.map _).nodup chosenRecords_nodup

theorem mem_strongObjectRanges {range : Span} {records : List DataTypeRecord} : range ∈ strongObjectRanges records ↔
    ∃ record ∈ records, record.typeName ∈ strongRangeTypes ∧ record.range = range := by
  rw [strongObjectRanges, List.mem_insertionSort, List.mem_map]
  simp only [strongRecordsOf, List.mem_filter, decide_eq_true_eq, and_assoc]

end Chosen

end DataTyping

end PspDisasm
