import PspDisasm.Prxreloc2Errors
import PspDisasm.Prxreloc2Grammar
import PspDisasm.Prxreloc2Locality

namespace PspDisasm
open Foundations

namespace StreamReader
variable {r next later : StreamReader} {size more : Nat} {what : String} {bytes : Bytes}

/-- The bytes of the whole range of a reader. -/
def stream (r : StreamReader) : Bytes := slice r.data r.start (r.stop - r.start)

/-- The position of a reader in its own range. -/
def place (r : StreamReader) : Nat := r.pos - r.start

theorem stream_length : r.stream.length = r.stop - r.start := by
  have order := r.lower.trans r.upper
  have inside := r.inData
  exact slice_length (by omega)

theorem place_le : r.place ≤ r.stream.length := by
  have upper := r.upper
  rw [stream_length]
  unfold place
  omega

/-- `next` reads the same range and stands `size` bytes further. -/
structure Consumes (r next : StreamReader) (size : Nat) : Prop where
  stream : next.stream = r.stream
  place : next.place = r.place + size

theorem Consumes.refl : r.Consumes r 0 := ⟨rfl, rfl⟩

theorem Consumes.trans (first : r.Consumes next size) (second : next.Consumes later more) :
    r.Consumes later (size + more) where
  stream := second.stream.trans first.stream
  place := by rw [second.place, first.place, Nat.add_assoc]

theorem take_reads (taken : r.take size what = .ok (bytes, next)) :
    bytes = slice r.stream r.place size ∧ r.Consumes next size := by
  unfold take at taken
  split at taken
  · rename_i room
    cases taken
    have lower := r.lower
    constructor
    · have same : r.start + (r.pos - r.start) = r.pos := by omega
      rw [stream, place, slice_slice (by omega), same]
    · refine ⟨rfl, ?_⟩
      unfold place
      dsimp only
      omega
  · cases taken

theorem readWord_reads {value : Nat} (read : r.readWord size what = .ok (value, next)) :
    value = littleValue (slice r.stream r.place size) ∧ r.Consumes next size := by
  obtain ⟨⟨bytes, reader⟩, taken, same⟩ := bind_ok.mp read
  obtain ⟨cut, consumes⟩ := take_reads taken
  cases same
  exact ⟨cut ▸ rfl, consumes⟩

end StreamReader

/-- A command as it stands in a stream: its place, its word, and the entries of
the two tables that the word selects. -/
structure StreamCommand where
  position : Nat
  word : Nat
  flag : Nat
  compactType : Nat
deriving DecidableEq, Repr

namespace StreamCommand
variable (format : StreamFormat) (stream : Bytes) (c : StreamCommand)

/-- The stream has this command at its place. -/
structure StandsIn : Prop where
  word : c.word = littleValue (slice stream c.position 2)
  flag : (format.flagTable[c.word &&& mask format.flagBits]?).map UInt8.toNat = some c.flag
  compactType : (format.typeTable[(c.word >>> format.typeShift) &&& mask format.typeBits]?).map UInt8.toNat =
    some c.compactType

def IsState : Prop := c.flag &&& 0x01 = 0

instance : Decidable c.IsState := inferInstanceAs (Decidable (_ = _))

def segment : Nat := (c.word >>> format.flagBits) &&& mask format.segBits

/-- The size of the number after the word: an absolute offset, or the low half of a delta. -/
def operandSize : Nat :=
  if c.flag &&& 0x06 = 0x04 then 4 else if ¬c.IsState ∧ c.flag &&& 0x06 = 0x02 then 2 else 0

def operand : Nat := littleValue (slice stream (c.position + 2) c.operandSize)

def lowHalfSize : Nat := if ¬c.IsState ∧ c.flag &&& 0x38 = 0x10 then 2 else 0

def size : Nat := 2 + c.operandSize + c.lowHalfSize

def addend : Option Int :=
  if c.flag &&& 0x38 = 0x10 then some (signedHalf (littleValue (slice stream (c.position + 2 + c.operandSize) 2)))
  else if c.flag &&& 0x38 = 0x08 then none
  else some 0

def sourceAfter (source : Nat) : Nat := if c.IsState then c.segment format else source

/-- The running offset after a command: a state command sets it, a relocation moves or sets it. -/
def baseAfter (base : Int) : Int :=
  if c.flag &&& 0x06 = 0x04 then c.operand stream
  else if c.IsState then (c.word >>> format.typeShift : Nat)
  else if c.flag &&& 0x06 = 0x02 then base + signedExtendedDelta c.word format.payloadShift (c.operand stream)
  else base + signedCompactDelta c.word format.payloadShift

/-- The source segment and the running offset after the commands, from segment 0 and offset 0 on. -/
def fold (commands : List StreamCommand) : Nat × Int :=
  commands.foldl (fun before c => (c.sourceAfter format before.1, c.baseAfter format stream before.2)) (0, 0)

theorem fold_append (commands : List StreamCommand) :
    fold format stream (commands ++ [c]) = (c.sourceAfter format (fold format stream commands).1,
      c.baseAfter format stream (fold format stream commands).2) := by
  rw [fold, List.foldl_append]
  rfl

/-- The commands follow each other without a gap from `start` to `stop`. -/
def Consecutive : Nat → Nat → List StreamCommand → Prop
  | start, stop, [] => start = stop
  | start, stop, c :: commands => c.position = start ∧ Consecutive (start + c.size) stop commands

theorem Consecutive.append {c : StreamCommand} {start stop : Nat} {commands : List StreamCommand}
    (consecutive : Consecutive start stop commands) (place : c.position = stop) :
    Consecutive start (stop + c.size) (commands ++ [c]) := by
  induction commands generalizing start with
  | nil => exact ⟨place.trans consecutive.symm, congrArg (· + c.size) consecutive⟩
  | cons first commands ih => exact ⟨consecutive.1, ih consecutive.2⟩

end StreamCommand

/-- The record of a relocation command that stands after the given source
segment was set and leaves the given running offset. -/
structure Describes (elf : ElfImage) (format : StreamFormat) (stream : Bytes) (c : StreamCommand) (sourceIndex : Nat)
    (base : Int) (record : Relocation) : Prop where
  kind : ¬c.IsState
  type : compactTypeMap.lookup c.compactType = some record.type
  offset : (record.offset : Int) = base
  source : record.sourceSegmentIndex = some sourceIndex
  target : record.targetSegmentIndex = some (c.segment format)
  room : ∃ segment, elf.programHeaders[sourceIndex]? = some segment ∧ segment.type = ptLoad ∧
    record.offset + 4 ≤ segment.memsz
  targetLoaded : ∃ segment, elf.programHeaders[c.segment format]? = some segment ∧ segment.type = ptLoad
  addend : record.addend = c.addend stream
  addendRange : ∀ addend ∈ record.addend, -0x8000 ≤ addend ∧ addend < 0x8000
  streamOffset : record.streamOffset = some c.position

/-- A record of one of the commands: its source segment and its offset are what
all commands up to it come to. -/
def DescribesOne (elf : ElfImage) (format : StreamFormat) (stream : Bytes) (commands : List StreamCommand)
    (record : Relocation) : Prop :=
  ∃ earlier c later, commands = earlier ++ c :: later ∧
    Describes elf format stream c (StreamCommand.fold format stream earlier).1
      (StreamCommand.fold format stream (earlier ++ [c])).2 record

def StreamBefore (record later : Relocation) : Prop :=
  ∃ i j, record.streamOffset = some i ∧ later.streamOffset = some j ∧ i < j

/-- What the decoder has made of the stream up to `stop`. -/
structure DecodedUpTo (elf : ElfImage) (format : StreamFormat) (stream : Bytes) (start stop : Nat)
    (commands : List StreamCommand) (relocations : List Relocation) : Prop where
  consecutive : StreamCommand.Consecutive start stop commands
  standsIn : ∀ c ∈ commands, c.StandsIn format stream
  records : ∀ record ∈ relocations, DescribesOne elf format stream commands record
  behind : ∀ record ∈ relocations, ∃ i, record.streamOffset = some i ∧ i < stop
  ordered : relocations.Pairwise StreamBefore
  every : relocations.length = (commands.filter fun c => ¬c.IsState).length
  count : relocations.length ≤ maxDecodedRelocations

section Commands
variable {format : StreamFormat} {elf : ElfImage} {c : StreamCommand} {reader next : StreamReader} {s t : DecodeState}

theorem signedHalf_range {half : Nat} (within : half < 0x10000) : -0x8000 ≤ signedHalf half ∧ signedHalf half < 0x8000 := by
  by_cases small : half < 0x8000
  · rw [signedHalf_of_lt small]
    omega
  · rw [signedHalf_of_ge (by omega) within]
    omega

theorem nextOffset_folds {base offset : Int} (kind : ¬c.IsState) (place : reader.place = c.position + 2)
    (ran : nextOffset format c.flag c.word base reader = .ok (offset, next)) :
    offset = c.baseAfter format reader.stream base ∧ reader.Consumes next c.operandSize := by
  unfold nextOffset at ran
  dsimp only at ran
  split at ran
  · rename_i mode
    cases ran
    simp only [StreamCommand.baseAfter, StreamCommand.operandSize, mode, kind]
    exact ⟨rfl, .refl⟩
  · split at ran
    · rename_i mode
      obtain ⟨⟨half, after⟩, read, same⟩ := bind_ok.mp ran
      cases same
      obtain ⟨value, consumes⟩ := StreamReader.readWord_reads read
      simp only [StreamCommand.baseAfter, StreamCommand.operand, StreamCommand.operandSize, mode, kind]
      rw [place] at value
      exact ⟨by rw [value]; rfl, consumes⟩
    · split at ran
      · rename_i mode
        obtain ⟨⟨word, after⟩, read, same⟩ := bind_ok.mp ran
        cases same
        obtain ⟨value, consumes⟩ := StreamReader.readWord_reads read
        simp only [StreamCommand.baseAfter, StreamCommand.operand, StreamCommand.operandSize, mode]
        rw [place] at value
        exact ⟨by rw [value]; rfl, consumes⟩
      · cases ran

theorem lowHalfAddend_folds {addend : Option Int} (kind : ¬c.IsState)
    (place : reader.place = c.position + 2 + c.operandSize)
    (ran : lowHalfAddend c.flag reader = .ok (addend, next)) :
    addend = c.addend reader.stream ∧ (∀ low ∈ addend, -0x8000 ≤ low ∧ low < 0x8000) ∧
      reader.Consumes next c.lowHalfSize := by
  unfold lowHalfAddend at ran
  dsimp only at ran
  split at ran
  · rename_i mode
    cases ran
    simp only [StreamCommand.addend, StreamCommand.lowHalfSize, mode, kind]
    exact ⟨rfl, by simp, .refl⟩
  · split at ran
    · rename_i mode
      obtain ⟨⟨half, after⟩, read, same⟩ := bind_ok.mp ran
      cases same
      obtain ⟨value, consumes⟩ := StreamReader.readWord_reads read
      rw [place] at value
      simp only [StreamCommand.addend, StreamCommand.lowHalfSize, mode, kind]
      refine ⟨by rw [value]; rfl, ?_, consumes⟩
      have short : (slice reader.stream (c.position + 2 + c.operandSize) 2).length ≤ 2 := List.length_take_le ..
      have within : half < 0x10000 := by
        have bound := littleValue_lt (slice reader.stream (c.position + 2 + c.operandSize) 2)
        have power := Nat.pow_le_pow_right (by decide : 0 < 256) short
        omega
      simpa using signedHalf_range within
    · split at ran
      · rename_i mode
        cases ran
        simp only [StreamCommand.addend, StreamCommand.lowHalfSize, mode, kind]
        exact ⟨rfl, by simp, .refl⟩
      · cases ran

/-- A state command takes the source segment and the offset from its own bits and its operand. -/
theorem stateCommand_folds (kind : c.IsState) (place : reader.place = c.position + 2)
    (ran : stateCommand format c.flag c.word (c.segment format) reader s = .ok t) :
    t.sourceSegmentIndex = c.sourceAfter format s.sourceSegmentIndex ∧
      t.relocationBase = c.baseAfter format reader.stream s.relocationBase ∧ t.relocations = s.relocations ∧
      reader.Consumes t.reader (c.operandSize + c.lowHalfSize) := by
  have noLow : c.lowHalfSize = 0 := by simp [StreamCommand.lowHalfSize, kind]
  unfold stateCommand at ran
  dsimp only at ran
  rw [noLow, StreamCommand.sourceAfter, if_pos kind]
  split at ran
  · rename_i mode
    have nothing : c.operandSize = 0 := by simp [StreamCommand.operandSize, mode, kind]
    cases ran
    rw [nothing]
    exact ⟨rfl, by simp [StreamCommand.baseAfter, mode, kind, StreamFormat.typeShift], rfl, .refl⟩
  · split at ran
    · rename_i mode
      obtain ⟨⟨base, after⟩, read, same⟩ := bind_ok.mp ran
      cases same
      obtain ⟨value, consumes⟩ := StreamReader.readWord_reads read
      have word : c.operandSize = 4 := by simp [StreamCommand.operandSize, mode]
      rw [place] at value
      rw [word]
      exact ⟨rfl, by simp [StreamCommand.baseAfter, StreamCommand.operand, mode, word, value], rfl, consumes⟩
    · cases ran

theorem relocationCommand_folds (kind : ¬c.IsState) (place : reader.place = c.position + 2)
    (ran : relocationCommand format elf c.flag c.compactType c.word (c.segment format) c.position reader s = .ok t) :
    t.sourceSegmentIndex = c.sourceAfter format s.sourceSegmentIndex ∧
      t.relocationBase = c.baseAfter format reader.stream s.relocationBase ∧
      (∃ record, t.relocations = s.relocations ++ [record] ∧
        Describes elf format reader.stream c s.sourceSegmentIndex t.relocationBase record) ∧
      t.relocations.length ≤ maxDecodedRelocations ∧ reader.Consumes t.reader (c.operandSize + c.lowHalfSize) := by
  simp only [relocationCommand, bind_ok] at ran
  obtain ⟨type, normalized, source, sourceFound, target, targetFound, ⟨base, afterBase⟩, moved, _, bounded,
    ⟨addend, afterLow⟩, low, typeName, _, _, counted, same⟩ := ran
  cases same
  obtain ⟨offset, first⟩ := nextOffset_folds kind place moved
  obtain ⟨lowHalf, range, second⟩ := lowHalfAddend_folds kind (by rw [first.place, place]) low
  rw [first.stream] at lowHalf
  obtain ⟨atSource, sourceLoad⟩ := selectSegment_ok.mp sourceFound
  have inside := raiseIf_ok.mp bounded
  have few := raiseIf_ok.mp counted
  dsimp only at inside
  refine ⟨by rw [StreamCommand.sourceAfter, if_neg kind], offset, ⟨_, rfl, ?_⟩, by simpa using few, first.trans second⟩
  exact {
    kind := kind
    type := by
      unfold normalizeType at normalized
      split at normalized
      · cases normalized
      · rename_i found
        cases normalized
        exact found
    offset := Int.toNat_of_nonneg (by omega)
    source := rfl
    target := rfl
    room := ⟨source, atSource, sourceLoad, by dsimp only [decodedRelocation]; omega⟩
    targetLoaded := ⟨target, selectSegment_ok.mp targetFound⟩
    addend := lowHalf
    addendRange := range
    streamOffset := rfl }

theorem lookup_entry {table : Bytes} {index entry : Nat} {what : String} (found : lookup table index what = .ok entry) :
    (table[index]?).map UInt8.toNat = some entry := by
  unfold lookup at found
  split at found
  · cases found
  · rename_i atIndex
    cases found
    rw [atIndex]
    rfl

/-- One turn of the decoder carries out the command that stands at its place. -/
theorem decodeCommand_folds (ran : decodeCommand format elf s = .ok t) :
    ∃ c : StreamCommand, c.position = s.reader.place ∧ c.StandsIn format s.reader.stream ∧
      s.reader.Consumes t.reader c.size ∧ t.sourceSegmentIndex = c.sourceAfter format s.sourceSegmentIndex ∧
      t.relocationBase = c.baseAfter format s.reader.stream s.relocationBase ∧
      (c.IsState → t.relocations = s.relocations) ∧
      (¬c.IsState → t.relocations.length ≤ maxDecodedRelocations ∧ ∃ record, t.relocations = s.relocations ++ [record] ∧
        Describes elf format s.reader.stream c s.sourceSegmentIndex t.relocationBase record) := by
  simp only [decodeCommand, bind_ok] at ran
  obtain ⟨⟨word, reader⟩, read, flag, flagFound, compactType, typeFound, rest⟩ := ran
  obtain ⟨value, first⟩ := StreamReader.readWord_reads read
  dsimp only at flagFound typeFound rest
  refine ⟨⟨s.reader.place, word, flag, compactType⟩, rfl, ⟨value, lookup_entry flagFound, lookup_entry typeFound⟩, ?_⟩
  generalize command : (⟨s.reader.place, word, flag, compactType⟩ : StreamCommand) = c
  have place : reader.place = c.position + 2 := by rw [first.place, ← command]
  have sizes : c.size = 2 + (c.operandSize + c.lowHalfSize) := Nat.add_assoc ..
  by_cases kind : c.IsState
  · have state : stateCommand format c.flag c.word (c.segment format) reader s = .ok t := by
      rw [← command] at kind ⊢
      rwa [if_pos (show flag &&& 0x01 = 0 from kind)] at rest
    obtain ⟨source, base, records, second⟩ := stateCommand_folds kind place state
    rw [first.stream] at base
    exact ⟨sizes ▸ first.trans second, source, base, fun _ => records, fun other => absurd kind other⟩
  · have relocation : relocationCommand format elf c.flag c.compactType c.word (c.segment format) c.position reader s =
        .ok t := by
      rw [← command] at kind ⊢
      rwa [if_neg (show ¬flag &&& 0x01 = 0 from kind)] at rest
    obtain ⟨source, base, appended, count, second⟩ := relocationCommand_folds kind place relocation
    rw [first.stream] at base appended
    exact ⟨sizes ▸ first.trans second, source, base, fun state => absurd state kind, fun _ => ⟨count, appended⟩⟩

end Commands

section Header
variable {r next : StreamReader} {what : String}

/-- A byte that is read stands in the stream. -/
theorem readU8_stands {value : Nat} (read : r.readU8 what = .ok (value, next)) :
    slice r.stream r.place 1 = [UInt8.ofNat value] ∧ r.Consumes next 1 := by
  obtain ⟨word, consumes⟩ := StreamReader.readWord_reads read
  have room := next.place_le
  rw [consumes.stream, consumes.place] at room
  obtain ⟨b, single⟩ := List.length_eq_one_iff.mp (slice_length room)
  refine ⟨?_, consumes⟩
  rw [word, single, littleValue, littleValue, Nat.mul_zero, Nat.add_zero, UInt8.ofNat_toNat]

theorem readTable_stands {table : Bytes} (read : r.readTable what = .ok (table, next)) :
    slice r.stream r.place table.length = table ∧ LengthPrefixed table ∧ r.Consumes next table.length := by
  obtain ⟨_, _, rest⟩ := bind_ok.mp read
  obtain ⟨_, positive, taken⟩ := bind_ok.mp rest
  have nonempty := raiseIf_ok.mp positive
  obtain ⟨cut, consumes⟩ := StreamReader.take_reads taken
  have room := next.place_le
  rw [consumes.stream, consumes.place] at room
  have length := slice_length room
  rw [← cut] at length
  refine ⟨by rw [length]; exact cut.symm, ?_, length ▸ consumes⟩
  -- The first byte of the table is the one that was taken for its length.
  obtain ⟨b, others, same⟩ := List.exists_cons_of_length_pos (by omega : 0 < table.length)
  refine ⟨b, by rw [same]; rfl, ?_⟩
  have first : slice r.data r.pos 1 = [b] := by
    have whole : table = slice r.data r.pos (littleValue (slice r.data r.pos 1)) := by
      unfold StreamReader.take at taken
      split at taken
      · exact (congrArg Prod.fst (Except.ok.inj taken)).symm
      · cases taken
    have front : slice r.data r.pos 1 = table.take 1 := by
      generalize littleValue (slice r.data r.pos 1) = size at whole nonempty
      rw [whole, slice, slice, List.take_take, Nat.min_eq_left (Nat.not_lt.mp nonempty)]
    rw [front, same]
    rfl
  rw [length, first, littleValue, littleValue, Nat.mul_zero, Nat.add_zero]

/-- The header of a stream: its first `size` bytes fix the format of the commands. -/
structure HeaderOf (stream : Bytes) (index : Nat) (format : StreamFormat) (size : Nat) : Prop where
  bytes : ∃ reserved, slice stream 0 size = format.header reserved
  index : format.relocationSegmentIndex = index
  widths : format.payloadShift ≤ 16
  flagTable : LengthPrefixed format.flagTable
  typeTable : LengthPrefixed format.typeTable

theorem readStreamFormat_stands {index : Nat} {format : StreamFormat} (start : r.place = 0)
    (read : readStreamFormat index r = .ok (format, next)) :
    HeaderOf r.stream index format next.place ∧ next.stream = r.stream := by
  simp only [readStreamFormat, bind_ok] at read
  obtain ⟨_, _, ⟨reserved, first⟩, readFirst, ⟨other, second⟩, readSecond, ⟨flagBits, third⟩, readThird,
    ⟨typeBits, fourth⟩, readFourth, _, widths, ⟨flagTable, fifth⟩, readFlags, ⟨typeTable, sixth⟩, readTypes, same⟩ := read
  cases same
  obtain ⟨byte0, to1⟩ := readU8_stands readFirst
  obtain ⟨byte1, to2⟩ := readU8_stands readSecond
  obtain ⟨byte2, to3⟩ := readU8_stands readThird
  obtain ⟨byte3, to4⟩ := readU8_stands readFourth
  obtain ⟨flags, flagsSized, to5⟩ := readTable_stands readFlags
  obtain ⟨types, typesSized, to6⟩ := readTable_stands readTypes
  have at2 := to1.trans to2
  have at3 := at2.trans to3
  have at4 := at3.trans to4
  have at5 := at4.trans to5
  have at6 := at5.trans to6
  rw [start] at byte0
  rw [to1.stream, to1.place, start] at byte1
  rw [at2.stream, at2.place, start] at byte2
  rw [at3.stream, at3.place, start] at byte3
  rw [at4.stream, at4.place, start] at flags
  rw [at5.stream, at5.place, start] at types
  have fits := raiseIf_ok.mp widths
  refine ⟨⟨⟨(UInt8.ofNat reserved, UInt8.ofNat other), ?_⟩, rfl, Nat.not_lt.mp fits, flagsSized, typesSized⟩, at6.stream⟩
  have size : sixth.place = 1 + 1 + 1 + 1 + flagTable.length + typeTable.length := by rw [at6.place, start, Nat.zero_add]
  rw [size, slice_add, slice_add, slice_add, slice_add, slice_add, byte0, byte1, byte2, byte3, flags, types]
  rfl

end Header

section Decoding
variable {data : Bytes} {elf : ElfImage} {index : Nat} {format : StreamFormat} {stream : Bytes} {start stop : Nat}
variable {commands : List StreamCommand} {relocations : List Relocation} {c : StreamCommand}

theorem DescribesOne.later {record : Relocation} (describes : DescribesOne elf format stream commands record) :
    DescribesOne elf format stream (commands ++ [c]) record := by
  obtain ⟨earlier, own, later, rfl, content⟩ := describes
  exact ⟨earlier, own, later ++ [c], by rw [List.append_assoc, List.cons_append], content⟩

/-- A state command is decoded without a record. -/
theorem DecodedUpTo.state (decoded : DecodedUpTo elf format stream start stop commands relocations)
    (place : c.position = stop) (stands : c.StandsIn format stream) (kind : c.IsState) :
    DecodedUpTo elf format stream start (stop + c.size) (commands ++ [c]) relocations where
  consecutive := decoded.consecutive.append place
  standsIn := by
    intro other member
    rcases List.mem_append.mp member with before | own
    · exact decoded.standsIn other before
    · rwa [List.mem_singleton.mp own]
  records record member := (decoded.records record member).later
  behind := by
    intro record member
    obtain ⟨i, offset, below⟩ := decoded.behind record member
    exact ⟨i, offset, by omega⟩
  ordered := decoded.ordered
  every := by
    rw [List.filter_append, List.length_append, decoded.every]
    simp [kind]
  count := decoded.count

/-- A relocation command is decoded to one record, which comes after all others. -/
theorem DecodedUpTo.relocation {record : Relocation}
    (decoded : DecodedUpTo elf format stream start stop commands relocations)
    (place : c.position = stop) (stands : c.StandsIn format stream)
    (describes : Describes elf format stream c (StreamCommand.fold format stream commands).1
      (StreamCommand.fold format stream (commands ++ [c])).2 record)
    (count : (relocations ++ [record]).length ≤ maxDecodedRelocations) :
    DecodedUpTo elf format stream start (stop + c.size) (commands ++ [c]) (relocations ++ [record]) where
  consecutive := decoded.consecutive.append place
  standsIn := by
    intro other member
    rcases List.mem_append.mp member with before | own
    · exact decoded.standsIn other before
    · rwa [List.mem_singleton.mp own]
  records := by
    intro other member
    rcases List.mem_append.mp member with before | own
    · exact (decoded.records other before).later
    · rw [List.mem_singleton.mp own]
      exact ⟨commands, c, [], rfl, describes⟩
  behind := by
    have positive : 0 < c.size := by
      unfold StreamCommand.size
      omega
    intro other member
    rcases List.mem_append.mp member with before | own
    · obtain ⟨i, offset, below⟩ := decoded.behind other before
      exact ⟨i, offset, by omega⟩
    · rw [List.mem_singleton.mp own]
      exact ⟨c.position, describes.streamOffset, by omega⟩
  ordered := by
    refine List.pairwise_append.mpr ⟨decoded.ordered, List.pairwise_singleton _ _, ?_⟩
    intro other before own member
    obtain ⟨i, offset, below⟩ := decoded.behind other before
    rw [List.mem_singleton.mp member]
    exact ⟨i, c.position, offset, describes.streamOffset, by omega⟩
  every := by
    rw [List.filter_append, List.length_append, List.length_append, decoded.every]
    simp [describes.kind]
  count := count

/-- Where the decoder's loop stands: it has decoded the stream up to its reader. -/
structure Decoding (elf : ElfImage) (format : StreamFormat) (stream : Bytes) (start : Nat) (s : DecodeState) : Prop where
  view : s.reader.stream = stream
  decoded : ∃ commands, DecodedUpTo elf format stream start s.reader.place commands s.relocations ∧
    (s.sourceSegmentIndex, s.relocationBase) = StreamCommand.fold format stream commands

theorem Decoding.turn {s t : DecodeState} (decoding : Decoding elf format stream start s)
    (ran : decodeCommand format elf s = .ok t) : Decoding elf format stream start t := by
  obtain ⟨view, commands, decoded, folded⟩ := decoding
  obtain ⟨c, place, stands, consumes, source, base, state, relocation⟩ := decodeCommand_folds ran
  rw [view] at stands base relocation
  have foldedSource : (StreamCommand.fold format stream commands).1 = s.sourceSegmentIndex := by rw [← folded]
  have foldedBase : (StreamCommand.fold format stream commands).2 = s.relocationBase := by rw [← folded]
  have next : (t.sourceSegmentIndex, t.relocationBase) = StreamCommand.fold format stream (commands ++ [c]) := by
    rw [StreamCommand.fold_append, foldedSource, foldedBase, source, base]
  refine ⟨consumes.stream.trans view, commands ++ [c], ?_, next⟩
  rw [consumes.place]
  by_cases kind : c.IsState
  · rw [state kind]
    exact decoded.state place stands kind
  · obtain ⟨count, record, appended, describes⟩ := relocation kind
    have moved : t.relocationBase = (StreamCommand.fold format stream (commands ++ [c])).2 := by rw [← next]
    rw [← foldedSource, moved] at describes
    rw [appended] at count ⊢
    exact decoded.relocation place stands describes count

/-- The records of a decoded segment: its stream has a header and then
commands up to its end, and the records are those of the commands. -/
def SoundDecoding (data : Bytes) (elf : ElfImage) (index : Nat) (relocations : List Relocation) : Prop :=
  ∃ segment format start commands, elf.programHeaders[index]? = some segment ∧
    segment.offset + segment.filesz ≤ data.length ∧
    HeaderOf (slice data segment.offset segment.filesz) index format start ∧
    DecodedUpTo elf format (slice data segment.offset segment.filesz) start segment.filesz commands relocations

theorem decodePrxreloc2_decodes (decoded : decodePrxreloc2 data elf index = .ok relocations) :
    SoundDecoding data elf index relocations := by
  obtain ⟨_, _, rest⟩ := bind_ok.mp decoded
  split at rest
  · cases rest
  · rename_i segment selected
    simp only [bind_ok] at rest
    obtain ⟨_, _, reader, opened, ⟨format, next⟩, headed, final, ran, same⟩ := rest
    cases same
    unfold StreamReader.bounded at opened
    split at opened
    · rename_i inside
      cases opened
      have size : segment.offset + segment.filesz - segment.offset = segment.filesz := Nat.add_sub_cancel_left ..
      obtain ⟨header, view⟩ := readStreamFormat_stands (Nat.sub_self _) headed
      unfold StreamReader.stream at header view
      dsimp only at header view
      rw [size] at header view
      have start : Decoding elf format (slice data segment.offset segment.filesz) next.place ⟨next, 0, 0, []⟩ :=
        ⟨view, [], ⟨rfl, by simp, by simp, by simp, .nil, rfl, Nat.zero_le _⟩, rfl⟩
      obtain ⟨⟨finalView, commands, complete, _⟩, stopped⟩ :=
        WhileLoop.run_invariant (Decoding elf format _ next.place) (fun _ _ _ turn decoding => decoding.turn turn) start ran
      have ended : final.reader.place = segment.filesz := by
        have atEnd : ¬final.reader.pos < final.reader.stop := of_decide_eq_false stopped
        have upper := final.reader.upper
        have whole := final.reader.stream_length
        rw [finalView, slice_length inside] at whole
        unfold StreamReader.place
        omega
      rw [ended] at complete
      exact ⟨segment, format, next.place, commands, selected, inside, header, complete⟩
    · cases opened

/-- Other inputs with the same bytes in the selected segment are decoded to the same result. -/
def ReadsOnlySegment (data : Bytes) (elf : ElfImage) (index : Nat) : Prop :=
  ∀ other, (∀ segment, elf.programHeaders[index]? = some segment → SameSegment segment data other) →
    decodePrxreloc2 data elf index = decodePrxreloc2 other elf index

/-- The decoder is sound on every input: it raises a parse error, or its
records are those of the commands of the stream. -/
theorem decodePrxreloc2_sound (data : Bytes) (elf : ElfImage) (index : Nat) :
    ((∃ message, decodePrxreloc2 data elf index = .error (.parseError message)) ∨
      ∃ relocations, decodePrxreloc2 data elf index = .ok relocations ∧ SoundDecoding data elf index relocations) ∧
    ReadsOnlySegment data elf index := by
  refine ⟨?_, fun other same => decodePrxreloc2_local same⟩
  cases outcome : decodePrxreloc2 data elf index with
  | ok relocations => exact Or.inr ⟨relocations, rfl, decodePrxreloc2_decodes outcome⟩
  | error failure =>
    have parse := decodePrxreloc2_parseErrors data elf index failure outcome
    cases failure with
    | parseError message => exact Or.inl ⟨message, rfl⟩
    | _ => cases parse

end Decoding

end PspDisasm
