import PspDisasm.Elf32

namespace PspDisasm
open Foundations

/-- A cursor into the byte range of one segment, which lies in the input. -/
structure StreamReader where
  data : Bytes
  start : Nat
  stop : Nat
  pos : Nat
  lower : start ≤ pos
  upper : pos ≤ stop
  inData : stop ≤ data.length

namespace StreamReader
variable {r next : StreamReader} {size : Nat} {what : String} {bytes : Bytes}

def bounded (data : Bytes) (start size : Nat) : Except Failure StreamReader :=
  if inside : start + size ≤ data.length then
    .ok ⟨data, start, start + size, start, le_rfl, Nat.le_add_right .., inside⟩
  else .error (.parseError "PT_PRXRELOC2 segment extends beyond the input")

def remaining (r : StreamReader) : Nat := r.stop - r.pos

/-- Consume `size` bytes; the cursor never passes the end of its range. -/
def take (r : StreamReader) (size : Nat) (what : String) : Except Failure (Bytes × StreamReader) :=
  if room : r.pos + size ≤ r.stop then
    .ok (slice r.data r.pos size,
      { r with pos := r.pos + size, lower := r.lower.trans (Nat.le_add_right ..), upper := room })
  else .error (.parseError s!"truncated PT_PRXRELOC2 {what}")

def require (r : StreamReader) (size : Nat) (what : String) : Except Failure Unit :=
  raiseIf (r.stop < r.pos + size) (.parseError s!"truncated PT_PRXRELOC2 {what}")

def readWord (r : StreamReader) (width : Nat) (what : String) : Except Failure (Nat × StreamReader) := do
  let (bytes, next) ← r.take width what
  return (littleValue bytes, next)

def readU8 (r : StreamReader) (what : String) : Except Failure (Nat × StreamReader) := r.readWord 1 what

def readU16 (r : StreamReader) (what : String) : Except Failure (Nat × StreamReader) := r.readWord 2 what

def readU32 (r : StreamReader) (what : String) : Except Failure (Nat × StreamReader) := r.readWord 4 what

/-- A table starts with its own byte length, which counts that byte. -/
def readTable (r : StreamReader) (what : String) : Except Failure (Bytes × StreamReader) := do
  r.require 1 s!"{what} table"
  let size := littleValue (slice r.data r.pos 1)
  raiseIf (size < 1) (.parseError s!"invalid PT_PRXRELOC2 {what} table size 0")
  r.take size s!"{what} table"

/-- The bytes that are still to be read. -/
def rest (r : StreamReader) : Bytes := slice r.data r.pos r.remaining

theorem rest_length : r.rest.length = r.remaining := by
  have order := r.upper
  have inside := r.inData
  exact slice_length (by unfold remaining; omega)

/-- `next` is a later cursor into the same range. -/
structure Advances (r next : StreamReader) (size : Nat) : Prop where
  data : next.data = r.data
  start : next.start = r.start
  stop : next.stop = r.stop
  pos : r.pos + size ≤ next.pos

theorem Advances.trans {later : StreamReader} {more : Nat} (first : r.Advances next size)
    (second : next.Advances later more) : r.Advances later (size + more) where
  data := second.data.trans first.data
  start := second.start.trans first.start
  stop := second.stop.trans first.stop
  pos := by
    have before := first.pos
    have after := second.pos
    omega

theorem Advances.weaken {less : Nat} (advance : r.Advances next size) (fewer : less ≤ size) :
    r.Advances next less :=
  { advance with pos := (Nat.add_le_add_left fewer _).trans advance.pos }

theorem Advances.refl : r.Advances r 0 := ⟨rfl, rfl, rfl, le_rfl⟩

theorem Advances.remaining_lt (advance : r.Advances next size) (positive : 0 < size) :
    next.remaining < r.remaining := by
  have moved := advance.pos
  have same := advance.stop
  have upper := next.upper
  unfold remaining
  omega

theorem take_advances (taken : r.take size what = .ok (bytes, next)) : r.Advances next size := by
  unfold take at taken
  split at taken
  · cases taken
    exact ⟨rfl, rfl, rfl, le_rfl⟩
  · cases taken

theorem readWord_advances {value : Nat} (read : r.readWord size what = .ok (value, next)) :
    r.Advances next size := by
  obtain ⟨⟨bytes, reader⟩, taken, same⟩ := bind_ok.mp read
  cases same
  exact take_advances taken

/-- Reading what stands in front of the cursor leaves the cursor in front of what follows. -/
theorem take_append (what : String) {front back : Bytes} (ahead : r.rest = front ++ back) :
    ∃ next, r.take front.length what = .ok (front, next) ∧ next.rest = back ∧
      r.Advances next front.length ∧ next.pos = r.pos + front.length := by
  have order := r.upper
  have inside := r.inData
  have length : r.remaining = front.length + back.length := by
    rw [← rest_length, ahead, List.length_append]
  unfold remaining at length
  have room : r.pos + front.length ≤ r.stop := by omega
  have found : slice r.data r.pos front.length = front := by
    have cut : slice r.data r.pos front.length = r.rest.take front.length := by
      rw [rest, slice, slice, List.take_take]
      congr 1
      unfold remaining
      omega
    rw [cut, ahead, List.take_left]
  refine ⟨{ r with pos := r.pos + front.length, lower := r.lower.trans (Nat.le_add_right ..), upper := room },
    by rw [take, dif_pos room, found], ?_, ⟨rfl, rfl, rfl, le_rfl⟩, rfl⟩
  have tail : r.rest.drop front.length = back := by rw [ahead, List.drop_left]
  rw [← tail, rest, rest, slice, slice, List.drop_take, List.drop_drop]
  congr 1
  unfold remaining
  dsimp only
  omega

theorem readWord_append (what : String) {width value : Nat} {back : Bytes}
    (ahead : r.rest = littleBytes width value ++ back) (fits : value < 256 ^ width) :
    ∃ next, r.readWord width what = .ok (value, next) ∧ next.rest = back ∧ r.Advances next width ∧
      next.pos = r.pos + width := by
  obtain ⟨next, taken, rest, advance, pos⟩ := take_append what ahead
  rw [littleBytes_length] at taken advance pos
  refine ⟨next, ?_, rest, advance, pos⟩
  rw [readWord, taken]
  simp only [bind, Except.bind, pure, Except.pure, littleValue_littleBytes, Nat.mod_eq_of_lt fits]

/-- A table stored with its length as its first byte is read back whole. -/
theorem readTable_append (what : String) {table back : Bytes} (ahead : r.rest = table ++ back)
    (positive : 0 < table.length) (sized : ∀ b, table[0]? = some b → b.toNat = table.length) :
    ∃ next, r.readTable what = .ok (table, next) ∧ next.rest = back ∧ r.Advances next table.length ∧
      next.pos = r.pos + table.length := by
  obtain ⟨next, taken, rest, advance, pos⟩ := take_append s!"{what} table" ahead
  refine ⟨next, ?_, rest, advance, pos⟩
  obtain ⟨b, others, rfl⟩ := List.exists_cons_of_length_pos positive
  have size : littleValue (slice r.data r.pos 1) = (b :: others).length := by
    have first : slice r.data r.pos 1 = [b] := by
      have single : r.rest = [b] ++ (others ++ back) := ahead
      obtain ⟨_, one, _⟩ := take_append what single
      unfold take at one
      split at one
      · exact congrArg Prod.fst (Except.ok.inj one)
      · cases one
    simpa only [first, littleValue, Nat.mul_zero, Nat.add_zero] using sized b rfl
  have room := advance.pos.trans (advance.stop ▸ next.upper)
  have one : r.require 1 s!"{what} table" = .ok () :=
    raiseIf_ok.mpr (by simp only [List.length_cons] at room; omega)
  rw [readTable, one, size]
  have nonzero : raiseIf ((b :: others).length < 1)
      (Failure.parseError s!"invalid PT_PRXRELOC2 {what} table size 0") = .ok () := raiseIf_ok.mpr (by simp)
  simp only [bind, Except.bind, nonzero]
  exact taken

end StreamReader

end PspDisasm
