import PspDisasm.Foundations.TwoRuns
import PspDisasm.Prxreloc2

namespace PspDisasm
open Foundations

/-- Two readers at the same place of ranges with the same bytes, whatever surrounds the ranges. -/
structure StreamReader.SameView (r other : StreamReader) : Prop where
  start : other.start = r.start
  stop : other.stop = r.stop
  pos : other.pos = r.pos
  bytes : ∀ i, r.start ≤ i → i < r.stop → r.data[i]? = other.data[i]?

/-- A result that comes with a reader is the same, and the readers have the same view. -/
def SameRead {α : Type} (x y : α × StreamReader) : Prop := x.1 = y.1 ∧ x.2.SameView y.2

/-- Two states of the decoder that differ only outside the stream. -/
structure DecodeState.SameView (s t : DecodeState) : Prop where
  reader : s.reader.SameView t.reader
  source : t.sourceSegmentIndex = s.sourceSegmentIndex
  base : t.relocationBase = s.relocationBase
  relocations : t.relocations = s.relocations

namespace StreamReader
variable {r other : StreamReader} {size width : Nat} {what : String}

/-- A read within the range sees the same bytes. -/
theorem SameView.slice_eq (same : r.SameView other) (inside : r.pos + size ≤ r.stop) :
    slice r.data r.pos size = slice other.data other.pos size := by
  rw [same.pos]
  apply slice_congr
  intro i low high
  exact same.bytes i (r.lower.trans low) (by omega)

theorem take_alike (same : r.SameView other) : Alike SameRead (r.take size what) (other.take size what) := by
  unfold take
  by_cases room : r.pos + size ≤ r.stop
  · have there : other.pos + size ≤ other.stop := by
      rw [same.pos, same.stop]
      exact room
    rw [dif_pos room, dif_pos there]
    refine .returned ⟨same.slice_eq room, ?_⟩
    exact ⟨same.start, same.stop, congrArg (· + size) same.pos, same.bytes⟩
  · have there : ¬other.pos + size ≤ other.stop := by
      rw [same.pos, same.stop]
      exact room
    rw [dif_neg room, dif_neg there]
    exact .raised _

theorem readWord_alike (same : r.SameView other) : Alike SameRead (r.readWord width what) (other.readWord width what) := by
  refine (take_alike same).bind ?_
  rintro ⟨bytes, next⟩ ⟨_, after⟩ ⟨rfl, further⟩
  exact .returned ⟨rfl, further⟩

theorem require_same (same : r.SameView other) : other.require size what = r.require size what := by
  rw [require, require, same.pos, same.stop]

/-- The length byte of a table is looked at only after it is known to lie in the range. -/
theorem readTable_alike (same : r.SameView other) : Alike SameRead (r.readTable what) (other.readTable what) := by
  unfold readTable
  rw [require_same same]
  cases checked : r.require 1 s!"{what} table" with
  | error failure => exact .raised failure
  | ok done =>
    have inside := raiseIf_ok.mp checked
    rw [ok_bind, ok_bind, ← same.slice_eq (by omega : r.pos + 1 ≤ r.stop)]
    exact .bind_same fun _ => take_alike same

end StreamReader

section Commands
variable {format : StreamFormat} {elf : ElfImage} {flag compactType command segmentIndex streamOffset : Nat}
variable {reader other : StreamReader} {s t : DecodeState}

theorem stateCommand_alike (same : reader.SameView other) (states : s.SameView t) :
    Alike DecodeState.SameView (stateCommand format flag command segmentIndex reader s)
      (stateCommand format flag command segmentIndex other t) := by
  unfold stateCommand
  dsimp only
  split
  · exact .returned ⟨same, rfl, rfl, states.relocations⟩
  · split
    · refine (StreamReader.readWord_alike same).bind ?_
      rintro ⟨base, next⟩ ⟨_, after⟩ ⟨rfl, further⟩
      exact .returned ⟨further, rfl, rfl, states.relocations⟩
    · exact .raised _

theorem nextOffset_alike {base : Int} (same : reader.SameView other) :
    Alike SameRead (nextOffset format flag command base reader) (nextOffset format flag command base other) := by
  unfold nextOffset
  dsimp only
  split
  · exact .returned ⟨rfl, same⟩
  · split
    · refine (StreamReader.readWord_alike same).bind ?_
      rintro ⟨half, next⟩ ⟨_, after⟩ ⟨rfl, further⟩
      exact .returned ⟨rfl, further⟩
    · split
      · refine (StreamReader.readWord_alike same).bind ?_
        rintro ⟨word, next⟩ ⟨_, after⟩ ⟨rfl, further⟩
        exact .returned ⟨rfl, further⟩
      · exact .raised _

theorem lowHalfAddend_alike (same : reader.SameView other) :
    Alike SameRead (lowHalfAddend flag reader) (lowHalfAddend flag other) := by
  unfold lowHalfAddend
  dsimp only
  split
  · exact .returned ⟨rfl, same⟩
  · split
    · refine (StreamReader.readWord_alike same).bind ?_
      rintro ⟨half, next⟩ ⟨_, after⟩ ⟨rfl, further⟩
      exact .returned ⟨rfl, further⟩
    · split
      · exact .returned ⟨rfl, same⟩
      · exact .raised _

theorem relocationCommand_alike (same : reader.SameView other) (states : s.SameView t) :
    Alike DecodeState.SameView (relocationCommand format elf flag compactType command segmentIndex streamOffset reader s)
      (relocationCommand format elf flag compactType command segmentIndex streamOffset other t) := by
  unfold relocationCommand
  rw [states.source, states.base, states.relocations]
  refine .bind_same fun normalizedType => .bind_same fun source => .bind_same fun _ => ?_
  refine (nextOffset_alike same).bind ?_
  rintro ⟨base, next⟩ ⟨_, after⟩ ⟨rfl, further⟩
  refine .bind_same fun _ => (lowHalfAddend_alike further).bind ?_
  rintro ⟨addend, last⟩ ⟨_, lastOther⟩ ⟨rfl, furthest⟩
  refine .bind_same fun typeName => .bind_same fun _ => ?_
  exact .returned ⟨furthest, rfl, rfl, rfl⟩

theorem decodeCommand_alike (states : s.SameView t) :
    Alike DecodeState.SameView (decodeCommand format elf s) (decodeCommand format elf t) := by
  unfold decodeCommand
  rw [states.reader.pos, states.reader.start]
  refine (StreamReader.readWord_alike states.reader).bind ?_
  rintro ⟨command, next⟩ ⟨_, after⟩ ⟨rfl, further⟩
  refine .bind_same fun flag => .bind_same fun compactType => ?_
  split
  · exact stateCommand_alike further states
  · exact relocationCommand_alike further states

end Commands

theorem readStreamFormat_alike {index : Nat} {reader other : StreamReader} (same : reader.SameView other) :
    Alike SameRead (readStreamFormat index reader) (readStreamFormat index other) := by
  unfold readStreamFormat
  rw [StreamReader.require_same same]
  refine .bind_same fun _ => (StreamReader.readWord_alike same).bind ?_
  rintro ⟨_, first⟩ ⟨_, firstOther⟩ ⟨rfl, same⟩
  refine (StreamReader.readWord_alike same).bind ?_
  rintro ⟨_, second⟩ ⟨_, secondOther⟩ ⟨rfl, same⟩
  refine (StreamReader.readWord_alike same).bind ?_
  rintro ⟨flagBits, third⟩ ⟨_, thirdOther⟩ ⟨rfl, same⟩
  refine (StreamReader.readWord_alike same).bind ?_
  rintro ⟨typeBits, fourth⟩ ⟨_, fourthOther⟩ ⟨rfl, same⟩
  refine .bind_same fun _ => (StreamReader.readTable_alike same).bind ?_
  rintro ⟨flagTable, fifth⟩ ⟨_, fifthOther⟩ ⟨rfl, same⟩
  refine (StreamReader.readTable_alike same).bind ?_
  rintro ⟨typeTable, sixth⟩ ⟨_, sixthOther⟩ ⟨rfl, same⟩
  exact .returned ⟨rfl, same⟩

/-- Two inputs have the same bytes in the file range of a segment, or both end before its end. -/
structure SameSegment (segment : ProgramHeader) (data other : Bytes) : Prop where
  inFile : segment.offset + segment.filesz ≤ data.length ↔ segment.offset + segment.filesz ≤ other.length
  bytes : ∀ i, segment.offset ≤ i → i < segment.offset + segment.filesz → data[i]? = other[i]?

/-- The decoder reads nothing of its input but the bytes of the selected segment. -/
theorem decodePrxreloc2_local {data other : Bytes} {elf : ElfImage} {index : Nat}
    (same : ∀ segment, elf.programHeaders[index]? = some segment → SameSegment segment data other) :
    decodePrxreloc2 data elf index = decodePrxreloc2 other elf index := by
  apply Alike.eq
  refine .bind_same fun _ => ?_
  cases selected : elf.programHeaders[index]? with
  | none => exact .raised _
  | some segment =>
    have agree := same segment selected
    refine .bind_same fun _ => ?_
    have opened : Alike StreamReader.SameView (StreamReader.bounded data segment.offset segment.filesz)
        (StreamReader.bounded other segment.offset segment.filesz) := by
      unfold StreamReader.bounded
      by_cases inside : segment.offset + segment.filesz ≤ data.length
      · rw [dif_pos inside, dif_pos (agree.inFile.mp inside)]
        exact .returned ⟨rfl, rfl, rfl, agree.bytes⟩
      · rw [dif_neg inside, dif_neg (mt agree.inFile.mpr inside)]
        exact .raised _
    refine opened.bind fun reader readerOther view => (readStreamFormat_alike view).bind ?_
    rintro ⟨format, next⟩ ⟨_, after⟩ ⟨rfl, further⟩
    have turns : Alike DecodeState.SameView ((decodeLoop format elf).run ⟨next, 0, 0, []⟩)
        ((decodeLoop format elf).run ⟨after, 0, 0, []⟩) := by
      refine WhileLoop.run_alike ?_ (fun s t states => decodeCommand_alike states) ⟨further, rfl, rfl, rfl⟩
      intro s t states
      change decide (s.reader.pos < s.reader.stop) = decide (t.reader.pos < t.reader.stop)
      rw [states.reader.pos, states.reader.stop]
    refine turns.bind fun final finalOther states => ?_
    rw [states.relocations]
    exact .returned rfl

end PspDisasm
