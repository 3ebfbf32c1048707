import PspDisasm.Foundations.HalfWords
import PspDisasm.Foundations.WhileLoop
import PspDisasm.StreamReader

namespace PspDisasm
open Foundations

def ptLoad : Nat := 1
def ptPrxreloc2 : Nat := 0x700000A1
def maxDecodedRelocations : Nat := 1000000

def prxreloc2RelocNames : List (Nat × String) :=
  [(0, "R_MIPS_NONE"), (1, "R_MIPS_16"), (2, "R_MIPS_32"), (4, "R_MIPS_26"), (5, "R_MIPS_HI16"),
    (6, "R_MIPS_LO16"), (7, "R_MIPS_GPREL16"), (13, "R_MIPS_X_HI16"), (14, "R_MIPS_X_J26"),
    (15, "R_MIPS_X_JAL26")]

def compactTypeMap : List (Nat × Nat) :=
  [(0, 0), (1, 1), (2, 2), (3, 4), (4, 5), (5, 6), (6, 14), (7, 15)]

/-- The loaded segment with this index, for a message that starts with `what`. -/
def selectSegment (what : String) (elf : ElfImage) (index : Nat) (role : String) :
    Except Failure ProgramHeader :=
  match elf.programHeaders[index]? with
  | none => .error (.parseError s!"{what} {role} segment index {index} is out of range")
  | some segment =>
    if segment.type ≠ ptLoad then .error (.parseError s!"{what} {role} segment {index} is not PT_LOAD")
    else .ok segment

theorem selectSegment_ok {what role : String} {elf : ElfImage} {index : Nat} {segment : ProgramHeader} :
    selectSegment what elf index role = .ok segment ↔
      elf.programHeaders[index]? = some segment ∧ segment.type = ptLoad := by
  unfold selectSegment
  split
  · simp_all
  · rename_i found atIndex
    split
    · rename_i other
      simp only [atIndex, reduceCtorEq, Option.some.injEq, false_iff, not_and]
      rintro rfl
      exact other
    · rename_i load
      simp only [atIndex, Except.ok.injEq, Option.some.injEq]
      constructor
      · rintro rfl
        exact ⟨rfl, not_not.mp load⟩
      · exact fun same => same.1

def prxreloc2Segment : ElfImage → Nat → String → Except Failure ProgramHeader :=
  selectSegment "PT_PRXRELOC2"

def lookup (table : Bytes) (index : Nat) (what : String) : Except Failure Nat :=
  match table[index]? with
  | none =>
    .error (.parseError s!"PT_PRXRELOC2 {what} table index {index} is out of range for size {table.length}")
  | some entry => .ok entry.toNat

def mask (bits : Nat) : Nat := if bits ≠ 0 then (1 <<< bits) - 1 else 0

theorem mask_eq (bits : Nat) : mask bits = 2 ^ bits - 1 := by
  unfold mask
  split
  · rw [Nat.one_shiftLeft]
  · rename_i zero
    rw [not_not.mp zero, Nat.pow_zero]

def signedCompactDelta (command shift : Nat) : Int := signedHalf command >>> shift

/-- The sixteen low bits of the shifted high part are clear, so the low half is added into them. -/
def signedExtendedDelta (command shift lowHalf : Nat) : Int :=
  signedCompactDelta command shift * 0x10000 + lowHalf

/-- One normalized relocation applied to a 32-bit word, for a target base chosen by the caller. -/
def applyPspRelocationWord (word : Nat) (relocation : Relocation) (targetBase : Int) (lo16 : Option Int) :
    Except Failure Nat :=
  let word := word &&& 0xFFFFFFFF
  let base := (targetBase % 2 ^ 32).toNat
  if relocation.type ∈ [0, 7] then .ok word
  else if relocation.type = 2 then .ok ((word + base) &&& 0xFFFFFFFF)
  else if relocation.type ∈ [1, 6] then
    let lowHalf := ((word &&& 0xFFFF) + base) &&& 0xFFFF
    .ok (word &&& 0xFFFF0000 ||| lowHalf)
  else if relocation.type ∈ [4, 14, 15] then
    let jumpField := ((word &&& 0x03FFFFFF) + base >>> 2) &&& 0x03FFFFFF
    if relocation.type = 14 then .ok (0x08000000 ||| jumpField)
    else if relocation.type = 15 then .ok (0x0C000000 ||| jumpField)
    else .ok (word &&& 0xFC000000 ||| jumpField)
  else if relocation.type = 5 then
    match lo16.or relocation.addend with
    | none => .error (.parseError
        "R_MIPS_HI16 relocation has unresolved low-half state; provide lo16 explicitly")
    | some lowHalf =>
      let address := ((((word &&& 0xFFFF) <<< 16 : Nat) + lowHalf + base) % 2 ^ 32).toNat
      let address := if address &&& 0x8000 ≠ 0 then (address + 0x10000) &&& 0xFFFFFFFF else address
      .ok (word &&& 0xFFFF0000 ||| (address >>> 16) &&& 0xFFFF)
  else .error (.parseError s!"unsupported PSP relocation type {relocation.type}")

/-- The smallest positive width that `1 << width` does not keep below the segment's own index. -/
def growSegBits (index bits : Nat) : Nat :=
  if 1 <<< bits < index then growSegBits index (bits + 1) else bits
termination_by index - bits
decreasing_by
  rename_i below
  have small := @Nat.lt_two_pow_self bits
  rw [Nat.one_shiftLeft] at below
  omega

def segBits (relocationSegmentIndex : Nat) : Nat := growSegBits relocationSegmentIndex 1

/-- What the stream header fixes for all commands of one relocation segment. -/
@[ext] structure StreamFormat where
  relocationSegmentIndex : Nat
  flagBits : Nat
  typeBits : Nat
  flagTable : Bytes
  typeTable : Bytes
deriving DecidableEq, Repr

namespace StreamFormat

def segBits (format : StreamFormat) : Nat := PspDisasm.segBits format.relocationSegmentIndex

def typeShift (format : StreamFormat) : Nat := format.flagBits + format.segBits

def payloadShift (format : StreamFormat) : Nat := format.typeShift + format.typeBits

end StreamFormat

structure DecodeState where
  reader : StreamReader
  sourceSegmentIndex : Nat
  relocationBase : Int
  relocations : List Relocation

def stateCommand (format : StreamFormat) (flag command segmentIndex : Nat) (reader : StreamReader)
    (s : DecodeState) : Except Failure DecodeState :=
  let offsetMode := flag &&& 0x06
  if offsetMode = 0x00 then
    .ok { s with
      reader, sourceSegmentIndex := segmentIndex,
      relocationBase := (command >>> (format.flagBits + format.segBits) : Nat) }
  else if offsetMode = 0x04 then do
    let (base, reader) ← reader.readU32 "absolute state base"
    return { s with reader, sourceSegmentIndex := segmentIndex, relocationBase := base }
  else .error (.parseError s!"unsupported PT_PRXRELOC2 state offset mode 0x{hexPadded 2 offsetMode}")

/-- The source offset after a relocation command's displacement. -/
def nextOffset (format : StreamFormat) (flag command : Nat) (base : Int) (reader : StreamReader) :
    Except Failure (Int × StreamReader) :=
  let offsetMode := flag &&& 0x06
  if offsetMode = 0x00 then .ok (base + signedCompactDelta command format.payloadShift, reader)
  else if offsetMode = 0x02 then do
    let (lowHalf, reader) ← reader.readU16 "extended relocation delta"
    return (base + signedExtendedDelta command format.payloadShift lowHalf, reader)
  else if offsetMode = 0x04 then do
    let (offset, reader) ← reader.readU32 "absolute relocation offset"
    return (offset, reader)
  else .error (.parseError s!"unsupported PT_PRXRELOC2 relocation offset mode 0x{hexPadded 2 offsetMode}")

def lowHalfAddend (flag : Nat) (reader : StreamReader) : Except Failure (Option Int × StreamReader) :=
  let lo16Mode := flag &&& 0x38
  if lo16Mode = 0x00 then .ok (some 0, reader)
  else if lo16Mode = 0x10 then do
    let (half, reader) ← reader.readU16 "HI16 low-half addend"
    return (some (signedHalf half), reader)
  else if lo16Mode = 0x08 then .ok (none, reader)
  else .error (.parseError s!"unsupported PT_PRXRELOC2 lo16 mode 0x{hexPadded 2 lo16Mode}")

def normalizeType (compactType : Nat) : Except Failure Nat :=
  match compactTypeMap.lookup compactType with
  | none => .error (.parseError s!"unsupported PT_PRXRELOC2 compact relocation type {compactType}")
  | some normalizedType => .ok normalizedType

def prxreloc2RelocName (normalizedType : Nat) : Except Failure String :=
  match prxreloc2RelocNames.lookup normalizedType with
  | none => .error (.keyError (toString normalizedType))
  | some name => .ok name

/-- The record of one decoded relocation command. -/
def decodedRelocation (format : StreamFormat) (flag normalizedType sourceIndex targetIndex offset : Nat)
    (typeName : String) (streamOffset : Nat) (addend : Option Int) : Relocation :=
  let info := normalizedType ||| sourceIndex <<< 8 ||| targetIndex <<< 16
  { sectionName := s!"PT_PRXRELOC2[{format.relocationSegmentIndex}]", offset, info, type := normalizedType,
    typeName, symbolIndex := info >>> 8, targetSectionIndex := none, source := .programHeaderRel2,
    sourceSegmentIndex := some sourceIndex, targetSegmentIndex := some targetIndex,
    streamOffset := some streamOffset, addend, encodingFlags := some flag }

def relocationCommand (format : StreamFormat) (elf : ElfImage) (flag compactType command segmentIndex streamOffset : Nat)
    (reader : StreamReader) (s : DecodeState) : Except Failure DecodeState := do
  let normalizedType ← normalizeType compactType
  let sourceSegment ← prxreloc2Segment elf s.sourceSegmentIndex "source"
  let _ ← prxreloc2Segment elf segmentIndex "target"
  let (base, reader) ← nextOffset format flag command s.relocationBase reader
  raiseIf (base < 0 ∨ sourceSegment.memsz < base + 4) (.parseError
    s!"PT_PRXRELOC2 source offset 0x{hex base} cannot address a 32-bit word inside PT_LOAD segment {s.sourceSegmentIndex} (memsz=0x{hex sourceSegment.memsz})")
  let (addend, reader) ← lowHalfAddend flag reader
  let typeName ← prxreloc2RelocName normalizedType
  let relocations := s.relocations ++ [decodedRelocation format flag normalizedType s.sourceSegmentIndex
    segmentIndex base.toNat typeName streamOffset addend]
  raiseIf (maxDecodedRelocations < relocations.length) (.parseError
    s!"PT_PRXRELOC2 decoded relocation count exceeds {maxDecodedRelocations}")
  return { s with reader, relocationBase := base, relocations }

/-- One turn of the decoder's loop: a command word and whatever it brings along. -/
def decodeCommand (format : StreamFormat) (elf : ElfImage) (s : DecodeState) : Except Failure DecodeState := do
  let commandStreamOffset := s.reader.pos - s.reader.start
  let (command, reader) ← s.reader.readU16 "command"
  let flagIndex := command &&& mask format.flagBits
  let segmentIndex := (command >>> format.flagBits) &&& mask format.segBits
  let typeIndex := (command >>> format.typeShift) &&& mask format.typeBits
  let flag ← lookup format.flagTable flagIndex "flag"
  let compactType ← lookup format.typeTable typeIndex "type"
  if flag &&& 0x01 = 0 then stateCommand format flag command segmentIndex reader s
  else relocationCommand format elf flag compactType command segmentIndex commandStreamOffset reader s

theorem stateCommand_advances {format : StreamFormat} {flag command segmentIndex : Nat} {reader : StreamReader}
    {s t : DecodeState} (run : stateCommand format flag command segmentIndex reader s = .ok t) :
    reader.Advances t.reader 0 ∧ t.relocations = s.relocations := by
  unfold stateCommand at run
  dsimp only at run
  split at run
  · cases run
    exact ⟨.refl, rfl⟩
  · split at run
    · obtain ⟨⟨base, next⟩, read, same⟩ := bind_ok.mp run
      cases same
      exact ⟨(StreamReader.readWord_advances read).weaken (Nat.zero_le _), rfl⟩
    · cases run

theorem nextOffset_advances {format : StreamFormat} {flag command : Nat} {base offset : Int}
    {reader next : StreamReader} (run : nextOffset format flag command base reader = .ok (offset, next)) :
    reader.Advances next 0 := by
  unfold nextOffset at run
  dsimp only at run
  split at run
  · cases run
    exact .refl
  · split at run
    · obtain ⟨⟨half, after⟩, read, same⟩ := bind_ok.mp run
      cases same
      exact (StreamReader.readWord_advances read).weaken (Nat.zero_le _)
    · split at run
      · obtain ⟨⟨word, after⟩, read, same⟩ := bind_ok.mp run
        cases same
        exact (StreamReader.readWord_advances read).weaken (Nat.zero_le _)
      · cases run

theorem lowHalfAddend_advances {flag : Nat} {addend : Option Int} {reader next : StreamReader}
    (run : lowHalfAddend flag reader = .ok (addend, next)) : reader.Advances next 0 := by
  unfold lowHalfAddend at run
  dsimp only at run
  split at run
  · cases run
    exact .refl
  · split at run
    · obtain ⟨⟨half, after⟩, read, same⟩ := bind_ok.mp run
      cases same
      exact (StreamReader.readWord_advances read).weaken (Nat.zero_le _)
    · split at run
      · cases run
        exact .refl
      · cases run

/-- A relocation command moves the cursor on and appends exactly one record. -/
theorem relocationCommand_appends {format : StreamFormat} {elf : ElfImage}
    {flag compactType command segmentIndex streamOffset : Nat} {reader : StreamReader} {s t : DecodeState}
    (run : relocationCommand format elf flag compactType command segmentIndex streamOffset reader s = .ok t) :
    reader.Advances t.reader 0 ∧
      ∃ record, record.source = .programHeaderRel2 ∧ t.relocations = s.relocations ++ [record] := by
  simp only [relocationCommand, bind_ok] at run
  obtain ⟨_, _, _, _, _, _, ⟨base, afterOffset⟩, moved, _, _, ⟨addend, afterLow⟩, low, typeName, _, _, _, same⟩ := run
  cases same
  exact ⟨(nextOffset_advances moved).trans (lowHalfAddend_advances low), _, rfl, rfl⟩

/-- Every turn consumes its command word and only ever extends the records. -/
theorem decodeCommand_advances {format : StreamFormat} {elf : ElfImage} {s t : DecodeState}
    (run : decodeCommand format elf s = .ok t) :
    s.reader.Advances t.reader 2 ∧ s.relocations <+: t.relocations := by
  simp only [decodeCommand, bind_ok] at run
  obtain ⟨⟨command, reader⟩, read, flag, _, compactType, _, rest⟩ := run
  have first := StreamReader.readWord_advances read
  dsimp only at rest
  split at rest
  · obtain ⟨advance, same⟩ := stateCommand_advances rest
    exact ⟨first.trans advance, same ▸ List.prefix_rfl⟩
  · obtain ⟨advance, record, _, same⟩ := relocationCommand_appends rest
    exact ⟨first.trans advance, same ▸ List.prefix_append ..⟩

/-- Every record of the decoder says where it comes from. -/
theorem decodeCommand_sources {format : StreamFormat} {elf : ElfImage} {s t : DecodeState}
    (run : decodeCommand format elf s = .ok t) (sources : ∀ record ∈ s.relocations, record.source = .programHeaderRel2) :
    ∀ record ∈ t.relocations, record.source = .programHeaderRel2 := by
  simp only [decodeCommand, bind_ok] at run
  obtain ⟨_, _, flag, _, compactType, _, rest⟩ := run
  split at rest
  · rw [(stateCommand_advances rest).2]
    exact sources
  · obtain ⟨_, record, source, same⟩ := relocationCommand_appends rest
    rw [same]
    intro other member
    rcases List.mem_append.mp member with earlier | new
    · exact sources other earlier
    · rw [List.mem_singleton.mp new]
      exact source

def decodeLoop (format : StreamFormat) (elf : ElfImage) : WhileLoop Failure DecodeState where
  test s := s.reader.pos < s.reader.stop
  body := decodeCommand format elf
  measure s := s.reader.remaining
  shrinks _ run := (decodeCommand_advances run).1.remaining_lt (by decide)

/-- The header of the stream: two reserved bytes, the field widths and the two tables. -/
def readStreamFormat (relocationSegmentIndex : Nat) (reader : StreamReader) :
    Except Failure (StreamFormat × StreamReader) := do
  reader.require 4 "header"
  let (_, reader) ← reader.readU8 "header reserved byte 0"
  let (_, reader) ← reader.readU8 "header reserved byte 1"
  let (flagBits, reader) ← reader.readU8 "flag-bit count"
  let (typeBits, reader) ← reader.readU8 "type-bit count"
  let segBits := segBits relocationSegmentIndex
  raiseIf (16 < flagBits + segBits + typeBits) (.parseError
    s!"PT_PRXRELOC2 command bit widths exceed 16 bits: flag={flagBits}, segment={segBits}, type={typeBits}")
  let (flagTable, reader) ← reader.readTable "flag"
  let (typeTable, reader) ← reader.readTable "type"
  return ({ relocationSegmentIndex, flagBits, typeBits, flagTable, typeTable }, reader)

def decodePrxreloc2 (data : Bytes) (elf : ElfImage) (relocationSegmentIndex : Nat) :
    Except Failure (List Relocation) := do
  raiseIf (elf.endianness ≠ .little) (.parseError "PT_PRXRELOC2 decoding requires a little-endian ELF")
  match elf.programHeaders[relocationSegmentIndex]? with
  | none => .error (.parseError s!"PT_PRXRELOC2 program-header index {relocationSegmentIndex} is out of range")
  | some relocationSegment =>
    raiseIf (relocationSegment.type ≠ ptPrxreloc2)
      (.parseError s!"program header {relocationSegmentIndex} is not PT_PRXRELOC2")
    let reader ← StreamReader.bounded data relocationSegment.offset relocationSegment.filesz
    let (format, reader) ← readStreamFormat relocationSegmentIndex reader
    let final ← (decodeLoop format elf).run ⟨reader, 0, 0, []⟩
    return final.relocations

theorem decodePrxreloc2_sources {data : Bytes} {elf : ElfImage} {index : Nat} {relocations : List Relocation}
    (decoded : decodePrxreloc2 data elf index = .ok relocations) :
    ∀ record ∈ relocations, record.source = .programHeaderRel2 := by
  unfold decodePrxreloc2 at decoded
  obtain ⟨_, _, rest⟩ := bind_ok.mp decoded
  split at rest
  · cases rest
  · simp only [bind_ok] at rest
    obtain ⟨_, _, _, _, _, _, final, ran, same⟩ := rest
    cases same
    exact (WhileLoop.run_invariant (fun s => ∀ record ∈ s.relocations, record.source = .programHeaderRel2)
      (fun _ _ _ turn => decodeCommand_sources turn) (List.forall_mem_nil _) ran).1

end PspDisasm
