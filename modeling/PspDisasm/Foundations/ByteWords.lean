import Mathlib.Data.List.Basic
import Mathlib.Tactic.Ring

namespace Foundations

abbrev Bytes := List UInt8

/-- The bytes `data[start : start + size]`. -/
def slice (data : Bytes) (start size : Nat) : Bytes :=
  (data.drop start).take size

theorem slice_length {data : Bytes} {start size : Nat} (within : start + size ≤ data.length) :
    (slice data start size).length = size := by
  simp only [slice, List.length_take, List.length_drop]
  omega

theorem getElem?_slice {data : Bytes} {start size i : Nat} (below : i < size) : (slice data start size)[i]? = data[start + i]? := by
  rw [slice, List.getElem?_take_of_lt below, List.getElem?_drop]

theorem slice_slice {data : Bytes} {start size offset width : Nat} (inside : offset + width ≤ size) :
    slice (slice data start size) offset width = slice data (start + offset) width := by
  rw [slice, slice, slice, List.drop_take, List.take_take, List.drop_drop, Nat.min_eq_left (by omega)]

theorem slice_add (data : Bytes) (start size more : Nat) :
    slice data start (size + more) = slice data start size ++ slice data (start + size) more := by
  rw [slice, slice, slice, List.take_add, List.drop_drop]

theorem slice_of_drop (back : Bytes) {data front : Bytes} {start : Nat} (rest : data.drop start = front ++ back) :
    slice data start front.length = front := by
  simp [slice, rest]

/-- A part that begins and ends in the middle one of three pieces. -/
theorem slice_middle {front data back : Bytes} {start size : Nat} (within : start + size ≤ data.length) :
    slice (front ++ (data ++ back)) (front.length + start) size = slice data start size := by
  rw [slice, slice, List.drop_length_add_append, List.drop_append_of_le_length (by omega), List.take_append_of_le_length]
  rw [List.length_drop]
  omega

theorem slice_congr {data other : Bytes} {start size : Nat}
    (same : ∀ i, start ≤ i → i < start + size → data[i]? = other[i]?) :
    slice data start size = slice other start size := by
  apply List.ext_getElem?
  intro i
  simp only [slice, List.getElem?_take, List.getElem?_drop]
  split
  · exact same _ (by omega) (by omega)
  · rfl

/-- One of the records of a table whose records have one width. -/
theorem slice_flatMap {α : Type*} {f : α → Bytes} {width : Nat} (each : ∀ a, (f a).length = width) {items : List α} {i : Nat} {a : α}
    (given : items[i]? = some a) : slice (items.flatMap f) (width * i) width = f a := by
  induction items generalizing i with
  | nil => cases given
  | cons first rest ih =>
    cases i with
    | zero =>
      obtain rfl : first = a := Option.some.inj given
      rw [← each first]
      exact slice_of_drop (rest.flatMap f) rfl
    | succ i =>
      have later := ih given
      have behind : width * (i + 1) = (f first).length + width * i := by rw [each, Nat.mul_succ, Nat.add_comm]
      rw [slice] at later ⊢
      rw [List.flatMap_cons, behind, List.drop_length_add_append]
      exact later

inductive Endianness
  | little
  | big
deriving DecidableEq, Repr

def littleValue : Bytes → Nat
  | [] => 0
  | b :: bytes => b.toNat + 256 * littleValue bytes

/-- The unsigned number that a byte string spells in the given byte order. -/
def Endianness.value : Endianness → Bytes → Nat
  | .little, bytes => littleValue bytes
  | .big, bytes => littleValue bytes.reverse

/-- The `width` low bytes of a number, least significant first. -/
def littleBytes : Nat → Nat → Bytes
  | 0, _ => []
  | width + 1, n => UInt8.ofNat n :: littleBytes width (n / 256)

@[simp] theorem littleBytes_length (width n : Nat) : (littleBytes width n).length = width := by
  induction width generalizing n with
  | zero => rfl
  | succ width ih => simp only [littleBytes, List.length_cons, ih]

theorem littleValue_littleBytes (width n : Nat) : littleValue (littleBytes width n) = n % 256 ^ width := by
  induction width generalizing n with
  | zero => simp only [littleBytes, littleValue, Nat.pow_zero, Nat.mod_one]
  | succ width ih =>
    have low : (UInt8.ofNat n).toNat = n % 256 := by simp
    rw [littleBytes, littleValue, ih, low, Nat.pow_succ, Nat.mul_comm (256 ^ width), Nat.mod_mul]

theorem littleValue_lt (bytes : Bytes) : littleValue bytes < 256 ^ bytes.length := by
  induction bytes with
  | nil => simp [littleValue]
  | cons b bytes ih =>
    have top := b.toNat_lt
    simp only [littleValue, List.length_cons, Nat.pow_succ]
    omega

/-- The bytes of `data` with those from `start` on overwritten by `bytes`. -/
def splice (data : Bytes) (start : Nat) (bytes : Bytes) : Bytes :=
  data.take start ++ bytes ++ data.drop (start + bytes.length)

theorem splice_length {data bytes : Bytes} {start : Nat} (within : start + bytes.length ≤ data.length) :
    (splice data start bytes).length = data.length := by
  simp only [splice, List.length_append, List.length_take, List.length_drop]
  omega

theorem splice_outside {data bytes : Bytes} {start i : Nat} (within : start + bytes.length ≤ data.length)
    (outside : i < start ∨ start + bytes.length ≤ i) : (splice data start bytes)[i]? = data[i]? := by
  unfold splice
  rcases outside with before | after
  · rw [List.append_assoc, List.getElem?_append_left (by simp; omega), List.getElem?_take_of_lt before]
  · have length : (data.take start ++ bytes).length = start + bytes.length := by simp; omega
    rw [List.getElem?_append_right (by omega), length, List.getElem?_drop]
    congr 1
    omega

theorem slice_splice {data bytes : Bytes} {start : Nat} (within : start + bytes.length ≤ data.length) :
    slice (splice data start bytes) start bytes.length = bytes := by
  apply slice_of_drop (data.drop (start + bytes.length))
  have length : (data.take start).length = start := by simp; omega
  rw [splice, List.append_assoc, List.drop_append, length, Nat.sub_self, List.drop_zero,
    List.drop_eq_nil_of_le (by omega), List.nil_append]

/-- A block of bytes to be stored at a position of a buffer. -/
structure Write where
  start : Nat
  bytes : Bytes

namespace Write

def stop (w : Write) : Nat := w.start + w.bytes.length

def apply (w : Write) (data : Bytes) : Bytes := splice data w.start w.bytes

def Covers (w : Write) (i : Nat) : Prop := w.start ≤ i ∧ i < w.stop

def Apart (w other : Write) : Prop := w.stop ≤ other.start ∨ other.stop ≤ w.start

end Write

/-- The buffer after all writes, made one after the other. -/
def writeAll (writes : List Write) (data : Bytes) : Bytes :=
  writes.foldl (fun buffer w => w.apply buffer) data

section WriteAll
variable {writes before after : List Write} {w : Write} {data : Bytes} {i : Nat}

theorem writeAll_append : writeAll (before ++ after) data = writeAll after (writeAll before data) := by
  simp only [writeAll, List.foldl_append]

theorem writeAll_length (fits : ∀ w ∈ writes, w.stop ≤ data.length) : (writeAll writes data).length = data.length := by
  induction writes generalizing data with
  | nil => rfl
  | cons w writes ih =>
    have first : (w.apply data).length = data.length := splice_length (fits w (List.mem_cons_self ..))
    have rest : (writeAll writes (w.apply data)).length = (w.apply data).length :=
      ih fun other member => first.symm ▸ fits other (List.mem_cons_of_mem _ member)
    exact rest.trans first

theorem writeAll_outside (fits : ∀ w ∈ writes, w.stop ≤ data.length)
    (outside : ∀ w ∈ writes, ¬w.Covers i) : (writeAll writes data)[i]? = data[i]? := by
  induction writes generalizing data with
  | nil => rfl
  | cons w writes ih =>
    have within := fits w (List.mem_cons_self ..)
    have first : (w.apply data).length = data.length := splice_length within
    have rest : (writeAll writes (w.apply data))[i]? = (w.apply data)[i]? := ih
      (fun other member => first.symm ▸ fits other (List.mem_cons_of_mem _ member))
      (fun other member => outside other (List.mem_cons_of_mem _ member))
    refine rest.trans (splice_outside within ?_)
    have away := outside w (List.mem_cons_self ..)
    simp only [Write.Covers, Write.stop] at away
    omega

/-- Writes apart from a block leave the block as it was. -/
theorem writeAll_slice (fits : ∀ w ∈ writes, w.stop ≤ data.length)
    (apart : ∀ other ∈ writes, w.Apart other) :
    slice (writeAll writes data) w.start w.bytes.length = slice data w.start w.bytes.length := by
  apply slice_congr
  intro i lower upper
  refine writeAll_outside fits fun other member covered => ?_
  have away := apart other member
  simp only [Write.Apart, Write.Covers, Write.stop] at away covered
  omega

/-- A write that no later write meets is what its block holds in the end. -/
theorem writeAll_isolated (fits : ∀ other ∈ before ++ w :: after, other.stop ≤ data.length)
    (apart : ∀ other ∈ after, w.Apart other) :
    slice (writeAll (before ++ w :: after) data) w.start w.bytes.length = w.bytes := by
  have fitsBefore : ∀ other ∈ before, other.stop ≤ data.length := fun other member => fits other (by simp [member])
  have within : w.stop ≤ data.length := fits w (by simp)
  have length := writeAll_length fitsBefore
  have stored : (w.apply (writeAll before data)).length = data.length :=
    (splice_length (length.symm ▸ within)).trans length
  have split : writeAll (before ++ w :: after) data = writeAll after (w.apply (writeAll before data)) := by
    rw [writeAll_append]
    rfl
  rw [split, writeAll_slice (fun other member => stored.symm ▸ fits other (by simp [member])) apart]
  exact slice_splice (length.symm ▸ within)

/-- Writes that are apart from each other all stand in the end. -/
theorem writeAll_stands (fits : ∀ w ∈ writes, w.stop ≤ data.length) (apart : writes.Pairwise Write.Apart) (listed : w ∈ writes) :
    slice (writeAll writes data) w.start w.bytes.length = w.bytes := by
  obtain ⟨before, after, split⟩ := List.append_of_mem listed
  rw [split] at fits apart ⊢
  exact writeAll_isolated fits (List.pairwise_cons.mp (List.pairwise_append.mp apart).2.1).1

end WriteAll

end Foundations
