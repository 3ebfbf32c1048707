import Mathlib.Data.List.Basic
import Mathlib.Tactic.Common

namespace Foundations

/-- The positions of the complete records of `width` bytes in a range `(start, size)`. -/
def recordStarts (width : Nat) (range : Nat × Nat) : List Nat :=
  (List.range (range.2 / width)).map fun i => range.1 + i * width

/-- Records at these two positions share no byte. -/
def RecordApart (width p q : Nat) : Prop := p + width ≤ q ∨ q + width ≤ p

/-- The complete records of two ranges cover disjoint spans. -/
def TablesApart (width : Nat) (range other : Nat × Nat) : Prop :=
  range.2 / width = 0 ∨ other.2 / width = 0 ∨
    range.1 + range.2 / width * width ≤ other.1 ∨ other.1 + other.2 / width * width ≤ range.1

instance (width : Nat) (range other : Nat × Nat) : Decidable (TablesApart width range other) :=
  inferInstanceAs (Decidable (_ ∨ _ ∨ _ ∨ _))

variable {width p : Nat} {range other : Nat × Nat}

theorem mem_recordStarts : p ∈ recordStarts width range ↔ ∃ i < range.2 / width, range.1 + i * width = p := by
  simp only [recordStarts, List.mem_map, List.mem_range]

theorem recordStarts_bounds (member : p ∈ recordStarts width range) :
    range.1 ≤ p ∧ p + width ≤ range.1 + range.2 / width * width := by
  obtain ⟨i, inside, rfl⟩ := mem_recordStarts.mp member
  have room : (i + 1) * width ≤ range.2 / width * width := Nat.mul_le_mul_right width inside
  rw [Nat.add_mul, Nat.one_mul] at room
  omega

theorem recordStarts_pairwise : (recordStarts width range).Pairwise (RecordApart width) := by
  rw [recordStarts, List.pairwise_map]
  refine List.pairwise_lt_range.imp fun {i j} before => Or.inl ?_
  have room : (i + 1) * width ≤ j * width := Nat.mul_le_mul_right width before
  rw [Nat.add_mul, Nat.one_mul] at room
  omega

/-- The record of a table that holds a given byte of its span. -/
theorem exists_record (range : Nat × Nat) (width : Nat) {b : Nat} (lower : range.1 ≤ b) (upper : b < range.1 + range.2 / width * width) :
    ∃ p ∈ recordStarts width range, p ≤ b ∧ b < p + width := by
  have positive : 0 < width := Nat.pos_of_ne_zero fun zero => by
    rw [zero, Nat.mul_zero] at upper
    omega
  have inside : (b - range.1) / width < range.2 / width :=
    Nat.div_lt_of_lt_mul (by rw [Nat.mul_comm]; omega)
  refine ⟨_, mem_recordStarts.mpr ⟨_, inside, rfl⟩, ?_, ?_⟩
  · have below := Nat.div_mul_le_self (b - range.1) width
    omega
  · have above := Nat.lt_div_mul_add (a := b - range.1) positive
    omega

/-- Two tables have no records that overlap exactly when their spans are apart. -/
theorem tablesApart_iff : TablesApart width range other ↔
    ∀ p ∈ recordStarts width range, ∀ q ∈ recordStarts width other, RecordApart width p q := by
  constructor
  · intro apart p inRange q inOther
    have first := recordStarts_bounds inRange
    have second := recordStarts_bounds inOther
    obtain ⟨i, insideRange, _⟩ := mem_recordStarts.mp inRange
    obtain ⟨j, insideOther, _⟩ := mem_recordStarts.mp inOther
    unfold TablesApart at apart
    unfold RecordApart
    omega
  · intro apart
    by_contra overlap
    simp only [TablesApart, not_or, Nat.not_le] at overlap
    obtain ⟨someRange, someOther, before, after⟩ := overlap
    -- Both spans are not empty, so the later of the two starts lies in both of them.
    have room : 0 < width := Nat.pos_of_ne_zero fun zero => someRange (by rw [zero, Nat.div_zero])
    have rangeRoom := Nat.mul_pos (Nat.pos_of_ne_zero someRange) room
    have otherRoom := Nat.mul_pos (Nat.pos_of_ne_zero someOther) room
    obtain ⟨p, inRange, lower, upper⟩ := exists_record range width
      (b := max range.1 other.1) (by omega) (by omega)
    obtain ⟨q, inOther, lower', upper'⟩ := exists_record other width
      (b := max range.1 other.1) (by omega) (by omega)
    have away := apart p inRange q inOther
    unfold RecordApart at away
    omega

/-- The records of a list of tables are pairwise apart exactly when the tables are. -/
theorem recordStarts_flatMap_pairwise {ranges : List (Nat × Nat)} :
    (ranges.flatMap (recordStarts width)).Pairwise (RecordApart width) ↔ ranges.Pairwise (TablesApart width) := by
  rw [List.pairwise_flatMap]
  constructor
  · rintro ⟨_, across⟩
    exact across.imp tablesApart_iff.mpr
  · intro apart
    exact ⟨fun _ _ => recordStarts_pairwise, apart.imp tablesApart_iff.mp⟩

end Foundations
