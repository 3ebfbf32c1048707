import PspDisasm.Foundations.ByteWords

namespace Foundations

/-- For `size` bytes, one buffer from `start` on shows the same as the other from `base` on. -/
structure Mirrors (data : Bytes) (start : Nat) (other : Bytes) (base size : Nat) : Prop where
  within : start + size ≤ data.length
  otherWithin : base + size ≤ other.length
  same : ∀ i < size, data[start + i]? = other[base + i]?

namespace Mirrors
variable {data other : Bytes} {start base size i width : Nat}

theorem symm (mirrors : Mirrors data start other base size) : Mirrors other base data start size :=
  ⟨mirrors.otherWithin, mirrors.within, fun i inside => (mirrors.same i inside).symm⟩

theorem slice (mirrors : Mirrors data start other base size) (inside : i + width ≤ size) :
    slice data (start + i) width = slice other (base + i) width := by
  apply List.ext_getElem?
  intro j
  simp only [Foundations.slice, List.getElem?_take, List.getElem?_drop]
  split
  · rw [Nat.add_assoc, Nat.add_assoc]
    exact mirrors.same _ (by omega)
  · rfl

theorem first (mirrors : Mirrors data start other base size) (inside : width ≤ size) :
    Foundations.slice data start width = Foundations.slice other base width := by
  have same : Foundations.slice data (start + 0) width = Foundations.slice other (base + 0) width := mirrors.slice (by omega)
  exact same

theorem sliceAt {cursor : Nat} (mirrors : Mirrors data start other base size) (behind : start ≤ cursor)
    (inside : cursor + width ≤ start + size) :
    Foundations.slice data cursor width = Foundations.slice other (base + (cursor - start)) width := by
  obtain ⟨i, rfl⟩ := Nat.exists_eq_add_of_le behind
  rw [Nat.add_sub_cancel_left]
  exact mirrors.slice (by omega)

theorem byteAt {cursor : Nat} (mirrors : Mirrors data start other base size) (behind : start ≤ cursor)
    (inside : cursor < start + size) : data[cursor]? = other[base + (cursor - start)]? := by
  obtain ⟨i, rfl⟩ := Nat.exists_eq_add_of_le behind
  rw [Nat.add_sub_cancel_left]
  exact mirrors.same i (by omega)

/-- What is cut out of a buffer and followed by anything. -/
theorem cut (within : start + size ≤ data.length) (suffix : Bytes) :
    Mirrors data start (Foundations.slice data start size ++ suffix) 0 size := by
  have length := slice_length within
  refine ⟨within, by rw [List.length_append, length]; omega, fun i inside => ?_⟩
  rw [Nat.zero_add, List.getElem?_append_left (by omega), Foundations.slice, List.getElem?_take_of_lt inside,
    List.getElem?_drop]

/-- A part of a buffer, as it lies inside of the whole one. -/
theorem part {from_ length : Nat} (inside : start + size ≤ length) (within : from_ + length ≤ data.length) :
    Mirrors (Foundations.slice data from_ length) start data (from_ + start) size := by
  refine ⟨by rw [slice_length within]; exact inside, by omega, fun i below => ?_⟩
  rw [Foundations.slice, List.getElem?_take_of_lt (by omega), List.getElem?_drop, Nat.add_assoc]

end Mirrors

end Foundations
