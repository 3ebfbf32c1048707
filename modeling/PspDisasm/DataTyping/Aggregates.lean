import PspDisasm.DataTyping.Conflicts
import PspDisasm.DataTyping.StandaloneLeaves

namespace PspDisasm
open Foundations

namespace DataTyping

section Strong
variable {records : List DataTypeRecord} {record : DataTypeRecord} {address : Int}

theorem mem_strongRecordsOf : record ∈ strongRecordsOf records ↔ record ∈ records ∧ record.typeName ∈ strongRangeTypes := by
  rw [strongRecordsOf, List.mem_filter, decide_eq_true_eq]

theorem mem_strongStarts : address ∈ strongStarts records ↔ ∃ record ∈ strongRecordsOf records, record.address = address := by
  rw [strongStarts, List.mem_insertionSort, List.mem_map]

theorem strongStarts_sorted : (strongStarts records).Pairwise (· ≤ ·) := List.pairwise_insertionSort _ _

theorem range_nonempty : record.range.1 < record.range.2 := by
  have positive : 1 ≤ max 1 record.size := le_max_left _ _
  dsimp only [DataTypeRecord.range]
  omega

/-- An address outside of the known objects is behind each one that does not start behind it. -/
theorem strong_behind (outside : ¬Inside (strongObjectRanges records) address) (strong : record ∈ strongRecordsOf records)
    (before : record.address ≤ address) : record.range.2 ≤ address := by
  by_contra reaches
  obtain ⟨listed, typed⟩ := mem_strongRecordsOf.mp strong
  exact outside (inside_iff.mpr ⟨_, mem_strongObjectRanges.mpr ⟨record, listed, typed, rfl⟩, before, Int.not_le.mp reaches⟩)

end Strong

section Structs
variable {elf : ElfImage} {leaves : Dict Int Leaf} {strongRecords : List DataTypeRecord} {record strong : DataTypeRecord} {sec : Section}
  {anchor upper : Int} {field : TypedFieldRecord}

/-- The space for a structure ends before the next known object. -/
theorem structUpper_le (listed : strong ∈ strongRecordsOf strongRecords) (behind : anchor < strong.address) :
    structUpper strongRecords sec anchor ≤ strong.address := by
  have start : strong.address ∈ strongStarts strongRecords := mem_strongStarts.mpr ⟨strong, listed, rfl⟩
  unfold structUpper
  dsimp only
  cases next : (strongStarts strongRecords).find? fun start =>
      anchor < start ∧ start < min (anchor + structLimit) (sec.addr + sec.size) with
  | none =>
    have passed := List.find?_eq_none.mp next strong.address start
    rw [decide_eq_true_eq, not_and] at passed
    exact Int.not_lt.mp (passed behind)
  | some first =>
    rw [Option.getD_some]
    by_contra later
    obtain ⟨fits, before, after, split, earlier⟩ := List.find?_eq_some_iff_append.mp next
    have sorted := @strongStarts_sorted strongRecords
    rw [split] at start sorted
    have above := (List.pairwise_cons.mp (List.pairwise_append.mp sorted).2.1).1
    rcases List.mem_append.mp start with old | here
    · have passed := earlier _ old
      have limit := of_decide_eq_true fits
      rw [Bool.not_eq_true', decide_eq_false_iff_not] at passed
      exact passed ⟨behind, by omega⟩
    · rcases List.mem_cons.mp here with same | rest
      · omega
      · have order := above _ rest
        omega

theorem mem_structFields (listed : field ∈ structFields leaves anchor upper) : 0 ≤ field.offset ∧ anchor + field.offset + 4 ≤ upper := by
  obtain ⟨address, _, typed⟩ := List.mem_filterMap.mp listed
  split at typed
  · cases typed
  · rename_i inside
    obtain ⟨leaf, _, rfl⟩ := Option.map_eq_some_iff.mp typed
    dsimp only [fieldOf]
    omega

theorem foldl_max_le {bound start : Int} {sizes : List Int} (below : start ≤ bound) (all : ∀ size ∈ sizes, size ≤ bound) :
    sizes.foldl max start ≤ bound := by
  induction sizes generalizing start with
  | nil => exact below
  | cons size sizes ih =>
    obtain ⟨first, rest⟩ := List.forall_mem_cons.mp all
    exact ih (max_le below first) rest

theorem le_foldl_max {start size : Int} {sizes : List Int} (listed : size = start ∨ size ∈ sizes) : size ≤ sizes.foldl max start := by
  induction sizes generalizing start size with
  | nil => exact (listed.resolve_right List.not_mem_nil).le
  | cons first sizes ih =>
    rw [List.foldl_cons]
    rcases listed with rfl | listed
    · exact (le_max_left _ _).trans (ih (Or.inl rfl))
    · rcases List.mem_cons.mp listed with rfl | later
      · exact (le_max_right _ _).trans (ih (Or.inl rfl))
      · exact ih (Or.inr later)

/-- A structure has room for a word, and ends before the next known object. -/
theorem structCandidate_spec (found : structCandidate elf leaves strongRecords anchor = some record) :
    record.address = anchor ∧ record.typeName = .structCandidate ∧ ¬Inside (strongObjectRanges strongRecords) anchor ∧
      anchor + 4 ≤ record.range.2 ∧ ∀ strong ∈ strongRecordsOf strongRecords, anchor < strong.address → record.range.2 ≤ strong.address := by
  unfold structCandidate at found
  split at found
  · cases found
  · rename_i sec _
    split at found
    · cases found
    · rename_i outside
      dsimp only at found
      split at found
      · cases found
      · rename_i enough
        cases found
        generalize bound : structUpper strongRecords sec anchor = upper at enough ⊢
        obtain ⟨field, rest, opens⟩ := List.exists_cons_of_length_pos (by omega : 0 < (structFields leaves anchor upper).length)
        have place : field ∈ structFields leaves anchor upper := opens ▸ List.mem_cons_self
        have word := mem_structFields place
        have least : 4 ≤ ((structFields leaves anchor upper).map (·.offset + 4)).foldl max 0 := by
          have listed : field.offset + 4 ∈ (structFields leaves anchor upper).map (·.offset + 4) :=
            List.mem_map.mpr ⟨field, place, rfl⟩
          have reached := @le_foldl_max 0 _ _ (Or.inr listed)
          omega
        have most : ((structFields leaves anchor upper).map (·.offset + 4)).foldl max 0 ≤ upper - anchor := by
          refine foldl_max_le (by omega) fun size listed => ?_
          obtain ⟨field, member, rfl⟩ := List.mem_map.mp listed
          have bounds := mem_structFields member
          omega
        refine ⟨rfl, rfl, outside, ?_, fun strong listed behind => ?_⟩
        · dsimp only [DataTypeRecord.range, structLimit]
          omega
        · have limit : upper ≤ strong.address := bound ▸ structUpper_le listed behind
          dsimp only [DataTypeRecord.range, structLimit]
          omega

theorem mem_inferStructCandidates {anchors : List Int} : record ∈ inferStructCandidates elf leaves strongRecords anchors ↔
    ∃ anchor ∈ anchors, structCandidate elf leaves strongRecords anchor = some record := by
  rw [inferStructCandidates, List.mem_filterMap]
  simp only [List.mem_insertionSort, List.mem_dedup]

/-- A structure and a known object are apart. -/
theorem structCandidate_apart (found : structCandidate elf leaves strongRecords anchor = some record)
    (listed : strong ∈ strongRecordsOf strongRecords) : record.range.Apart strong.range := by
  obtain ⟨place, _, outside, _, clipped⟩ := structCandidate_spec found
  by_cases before : strong.address ≤ anchor
  · refine Or.inr ((strong_behind outside listed before).trans (le_of_eq ?_))
    exact place.symm
  · exact Or.inl (clipped strong listed (Int.not_le.mp before))

end Structs

section Arrays
variable {elf : ElfImage} {leaves : Dict Int Leaf} {strongRecords : List DataTypeRecord} {record strong : DataTypeRecord} {sec : Section}
  {anchor start stop : Int} {elementSize count : Nat} {signature : List (Int × DataTypeName)} {confidences : List Rat}

theorem overlapsRanges_iff {ranges : List Span} : overlapsRanges start stop ranges = true ↔
    ∃ range ∈ ranges, start < range.2 ∧ range.1 < stop := by
  simp only [overlapsRanges, List.any_eq_true, decide_eq_true_eq]

/-- The elements from `count` on are apart from the known objects. -/
theorem elementLoop_spec : ∀ index, count ≤ index →
    index < (elementLoop leaves strongRecords sec anchor elementSize signature count confidences).1 →
      overlapsRanges (anchor + index * elementSize) (anchor + index * elementSize + elementSize) (strongObjectRanges strongRecords) = false := by
  induction count, confidences using elementLoop.induct leaves strongRecords sec anchor elementSize signature with
  | case1 count confidences start stop =>
    intro index lower upper
    rw [elementLoop, dif_pos stop] at upper
    exact absurd lower (Nat.not_le.mpr upper)
  | case2 count confidences start going hit =>
    intro index lower upper
    rw [elementLoop, dif_neg going, if_pos hit] at upper
    exact absurd lower (Nat.not_le.mpr upper)
  | case3 count confidences start going clear other =>
    intro index lower upper
    rw [elementLoop, dif_neg going, if_neg clear, if_pos other] at upper
    exact absurd lower (Nat.not_le.mpr upper)
  | case4 count confidences start going clear same ih =>
    intro index lower upper
    rw [elementLoop, dif_neg going, if_neg clear, if_neg same] at upper
    rcases Nat.eq_or_lt_of_le lower with rfl | later
    · exact Bool.eq_false_iff.mpr clear
    · exact ih index later upper

/-- An array has two elements at least, and the second one and those behind it are apart from the known objects. -/
theorem arrayCandidate_spec (found : arrayCandidate elf leaves strongRecords anchor elementSize = some record) :
    record.address = anchor ∧ record.typeName = .arrayCandidate ∧ record.elementSize = some elementSize ∧
      ∃ count : Nat, 2 ≤ count ∧ record.size = elementSize * count ∧ record.evidence = [
        s!"{count} consecutive records share typed-field signature", s!"fixed element size {elementSize}"] ∧
        ∀ index : Nat, 1 ≤ index → index < count → overlapsRanges (anchor + index * elementSize)
          (anchor + index * elementSize + elementSize) (strongObjectRanges strongRecords) = false := by
  unfold arrayCandidate at found
  split at found
  · cases found
  · split at found
    · cases found
    · dsimp only at found
      split at found
      · cases found
      · split at found
        · cases found
        · rename_i enough
          cases found
          exact ⟨rfl, rfl, rfl, _, Nat.not_lt.mp enough, rfl, rfl, elementLoop_spec⟩

theorem mem_inferArrayCandidates {structs : List DataTypeRecord} : record ∈ inferArrayCandidates elf leaves strongRecords structs ↔
    ∃ struct ∈ structs, ∃ elementSize ∈ arraySizes, arrayCandidate elf leaves strongRecords struct.address elementSize = some record := by
  simp only [inferArrayCandidates, List.mem_flatMap, List.mem_filterMap]

/-- What is left to an array is its first element: it is apart from a known object that does not start in there. -/
theorem arrayCandidate_apart (found : arrayCandidate elf leaves strongRecords anchor elementSize = some record)
    (outside : ¬Inside (strongObjectRanges strongRecords) anchor) (positive : 0 < elementSize)
    (listed : strong ∈ strongRecordsOf strongRecords) :
    record.range.Apart strong.range ↔ ¬(anchor < strong.address ∧ strong.address < anchor + elementSize) := by
  obtain ⟨place, _, _, count, enough, size, _, clear⟩ := arrayCandidate_spec found
  have long : 2 * (elementSize : Int) ≤ elementSize * count := by
    rw [Int.mul_comm]
    exact Int.mul_le_mul_of_nonneg_left (by omega) (by omega)
  have range : record.range = (anchor, anchor + elementSize * count) := by
    rw [DataTypeRecord.range, place, size]
    congr 2
    omega
  have wide := @range_nonempty strong
  rw [range]
  change (_ ≤ strong.address ∨ strong.range.2 ≤ anchor) ↔ _
  have opens : strong.range.1 = strong.address := rfl
  by_cases before : strong.address ≤ anchor
  · have behind := strong_behind outside listed before
    exact iff_of_true (Or.inr behind) (by omega)
  · constructor
    · rintro (first | second) inside <;> omega
    · intro later
      refine Or.inl ?_
      by_contra reaches
      -- The start lies in one of the elements behind the first one.
      let index := (strong.address - anchor) / elementSize
      have division := Int.emod_add_mul_ediv (strong.address - anchor) elementSize
      have lower := Int.emod_nonneg (strong.address - anchor) (b := elementSize) (by omega)
      have upper := Int.emod_lt_of_pos (strong.address - anchor) (b := elementSize) (by omega)
      have index_pos : 1 ≤ index := (Int.le_ediv_iff_mul_le (by omega)).mpr (by omega)
      have index_lt : index < count := (Int.ediv_lt_iff_lt_mul (by omega)).mpr (by rw [Int.mul_comm]; omega)
      obtain ⟨n, same⟩ := Int.eq_ofNat_of_zero_le (by omega : 0 ≤ index)
      have free := clear n (by omega) (by omega)
      obtain ⟨member, typed⟩ := mem_strongRecordsOf.mp listed
      refine Bool.eq_false_iff.mp free (overlapsRanges_iff.mpr ⟨_, mem_strongObjectRanges.mpr ⟨strong, member, typed, rfl⟩, ?_⟩)
      have product : (elementSize : Int) * index = n * elementSize := by rw [same, Int.mul_comm]
      dsimp only [index] at product
      omega

end Arrays

end DataTyping

end PspDisasm
