import PspDisasm.Foundations.ByteWords

namespace Foundations

/-- The `width` bytes that spell a number in the given byte order. -/
def Endianness.bytes (order : Endianness) (width n : Nat) : Bytes :=
  match order with
  | .little => littleBytes width n
  | .big => (littleBytes width n).reverse

theorem littleBytes_littleValue (bytes : Bytes) : littleBytes bytes.length (littleValue bytes) = bytes := by
  induction bytes with
  | nil => rfl
  | cons b bytes ih =>
    have small := b.toNat_lt
    have low : UInt8.ofNat (b.toNat + 256 * littleValue bytes) = b := by
      apply UInt8.toNat_inj.mp
      simp
    have high : (b.toNat + 256 * littleValue bytes) / 256 = littleValue bytes := by omega
    rw [List.length_cons, littleValue, littleBytes, low, high, ih]

namespace Endianness
variable {order : Endianness} {bytes : Bytes} {width n : Nat}

@[simp] theorem bytes_length : (order.bytes width n).length = width := by
  cases order <;> simp [Endianness.bytes]

theorem value_bytes : order.value (order.bytes width n) = n % 256 ^ width := by
  cases order with
  | little => exact littleValue_littleBytes width n
  | big => rw [Endianness.bytes, Endianness.value, List.reverse_reverse, littleValue_littleBytes]

theorem bytes_value (order : Endianness) (bytes : Bytes) : order.bytes bytes.length (order.value bytes) = bytes := by
  cases order with
  | little => exact littleBytes_littleValue bytes
  | big =>
    have back := congrArg List.reverse (littleBytes_littleValue bytes.reverse)
    rwa [List.length_reverse, List.reverse_reverse] at back

theorem value_lt (order : Endianness) (bytes : Bytes) : order.value bytes < 256 ^ bytes.length := by
  cases order with
  | little => exact littleValue_lt bytes
  | big =>
    have below := littleValue_lt bytes.reverse
    rwa [List.length_reverse] at below

/-- A number that fits is read from some bytes just when they spell it. -/
theorem value_eq_iff (length : bytes.length = width) : order.value bytes = n ↔ n < 256 ^ width ∧ bytes = order.bytes width n := by
  subst length
  constructor
  · rintro rfl
    exact ⟨order.value_lt bytes, (order.bytes_value bytes).symm⟩
  · rintro ⟨fits, spelled⟩
    rw [spelled, value_bytes, Nat.mod_eq_of_lt fits]

end Endianness

/-- A number of a record, and how many bytes it takes. -/
structure Field where
  width : Nat
  value : Int

def Field.Fits (field : Field) : Prop := 0 ≤ field.value ∧ field.value.toNat < 256 ^ field.width

def recordWidth (fields : List Field) : Nat := (fields.map (·.width)).sum

def packFields (order : Endianness) (fields : List Field) : Bytes :=
  fields.flatMap fun field => order.bytes field.width field.value.toNat

/-- Numbers of the given widths, read one behind the other. -/
def readFields (order : Endianness) (data : Bytes) : Nat → List Nat → List Int
  | _, [] => []
  | start, width :: widths => (order.value (slice data start width) : Int) :: readFields order data (start + width) widths

/-- A record stands in a buffer, with all its numbers in their ranges. -/
structure Stored (order : Endianness) (data : Bytes) (start : Nat) (fields : List Field) : Prop where
  within : start + recordWidth fields ≤ data.length
  fits : ∀ field ∈ fields, field.Fits
  bytes : slice data start (recordWidth fields) = packFields order fields

section Records
variable {order : Endianness} {data : Bytes} {start : Nat} {fields : List Field}

theorem packFields_length : (packFields order fields).length = recordWidth fields := by
  simp [packFields, recordWidth, List.length_flatMap]

/-- Reading the numbers of a record gives its values just when the record stands there. -/
theorem readFields_iff (within : start + recordWidth fields ≤ data.length) :
    readFields order data start (fields.map (·.width)) = fields.map (·.value) ↔
      (∀ field ∈ fields, field.Fits) ∧ slice data start (recordWidth fields) = packFields order fields := by
  induction fields generalizing start with
  | nil => simp [readFields, recordWidth, packFields, slice]
  | cons field fields ih =>
    have total : recordWidth (field :: fields) = field.width + recordWidth fields := List.sum_cons
    have packed : packFields order (field :: fields) = order.bytes field.width field.value.toNat ++ packFields order fields :=
      List.flatMap_cons
    rw [total] at within
    have length : (slice data start field.width).length = field.width := slice_length (by omega)
    have first : ((order.value (slice data start field.width) : Nat) : Int) = field.value ↔
        field.Fits ∧ slice data start field.width = order.bytes field.width field.value.toNat := by
      rw [Field.Fits, and_assoc, ← Endianness.value_eq_iff length]
      constructor
      · intro same
        omega
      · rintro ⟨positive, same⟩
        omega
    rw [List.map_cons, List.map_cons, readFields, List.cons.injEq, first, ih (by omega), List.forall_mem_cons, total, slice_add,
      packed]
    constructor
    · rintro ⟨⟨fits, here⟩, rest, there⟩
      exact ⟨⟨fits, rest⟩, by rw [here, there]⟩
    · rintro ⟨⟨fits, rest⟩, whole⟩
      obtain ⟨here, there⟩ := List.append_inj whole (by rw [length, Endianness.bytes_length])
      exact ⟨⟨fits, here⟩, rest, there⟩

theorem stored_iff : Stored order data start fields ↔
    start + recordWidth fields ≤ data.length ∧ readFields order data start (fields.map (·.width)) = fields.map (·.value) := by
  constructor
  · rintro ⟨within, fits, bytes⟩
    exact ⟨within, (readFields_iff within).mpr ⟨fits, bytes⟩⟩
  · rintro ⟨within, read⟩
    obtain ⟨fits, bytes⟩ := (readFields_iff within).mp read
    exact ⟨within, fits, bytes⟩

/-- A record that is written over a part of a buffer stands there. -/
theorem Stored.of_slice (within : start + recordWidth fields ≤ data.length) (fits : ∀ field ∈ fields, field.Fits)
    (written : slice data start (packFields order fields).length = packFields order fields) : Stored order data start fields :=
  ⟨within, fits, by rwa [packFields_length] at written⟩

end Records

end Foundations
