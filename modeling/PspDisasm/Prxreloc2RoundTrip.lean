import PspDisasm.Prxreloc2Simulation

namespace PspDisasm
open Foundations

section Run
variable {format : StreamFormat} {elf : ElfImage} {cursor : StreamCursor} {command : Command}
  {commands : List Command} {s t : DecodeState}

theorem InStep.going (step : InStep format cursor (command :: commands) s) : (decodeLoop format elf).test s = true := by
  have length : s.reader.rest.length = s.reader.remaining := StreamReader.rest_length
  have order := s.reader.upper
  rw [step.rest, List.flatMap_cons, Command.encode, List.length_append, List.length_append,
    littleBytes_length] at length
  unfold StreamReader.remaining at length
  simp only [decodeLoop, decide_eq_true_eq]
  omega

theorem InStep.finished (step : InStep format cursor [] s) : (decodeLoop format elf).test s = false := by
  have length : s.reader.rest.length = s.reader.remaining := StreamReader.rest_length
  have order := s.reader.upper
  rw [step.rest] at length
  simp only [List.flatMap_nil, List.length_nil, StreamReader.remaining] at length
  simp only [decodeLoop, decide_eq_false_iff_not]
  omega

/-- One turn of the decoder on an unambiguous command carries out the
documented meaning of that command. -/
theorem decodeCommand_simulates (widths : format.payloadShift ≤ 16)
    (step : InStep format cursor (command :: commands) s) (fits : command.Fits format)
    (allowed : cursor.Allows elf command)
    (count : (s.relocations ++ cursor.emits format command).length ≤ maxDecodedRelocations)
    (unambiguous : command.Unambiguous format) :
    ∃ t, decodeCommand format elf s = .ok t ∧ t.relocations = s.relocations ++ cursor.emits format command ∧
      InStep format (cursor.after format command) commands t := by
  cases command with
  | state flagIndex segment base =>
    have turn := decodeCommand_state elf widths step fits
    have inside : base.upper % 2 ^ format.typeBits < format.typeTable.length := unambiguous
    rw [if_pos inside] at turn
    simpa only [StreamCursor.emits, List.append_nil] using turn
  | relocation flagIndex typeIndex segment displacement lowHalf =>
    obtain ⟨source, offset, next, atSource, reaches, exactly, turn⟩ :=
      decodeCommand_relocation widths step fits allowed
    obtain ⟨⟨found, atFound, _, lower, upper⟩, _⟩ := allowed
    cases Option.some.inj (atSource.symm.trans atFound)
    have same := exactly.mpr unambiguous
    simp only [StreamCursor.emits, List.length_append, List.length_singleton] at count
    rw [if_pos (by omega)] at turn
    refine ⟨_, turn, by rw [same]; rfl, reaches.rest, step.source, same, ?_⟩
    simp only [StreamCursor.after, reaches.pos, reaches.start, step.position]
    omega

/-- A turn on an ambiguous command that does not raise appends a record other
than the one the command stands for. -/
theorem decodeCommand_misreads (widths : format.payloadShift ≤ 16)
    (step : InStep format cursor (command :: commands) s) (fits : command.Fits format)
    (allowed : cursor.Allows elf command) (ambiguous : ¬command.Unambiguous format)
    (turn : decodeCommand format elf s = .ok t) :
    ∃ right wrong, cursor.emits format command = [right] ∧ t.relocations = s.relocations ++ [wrong] ∧ right ≠ wrong := by
  cases command with
  | state flagIndex segment base =>
    have outcome := decodeCommand_state elf widths step fits
    have outside : ¬base.upper % 2 ^ format.typeBits < format.typeTable.length := ambiguous
    rw [if_neg outside] at outcome
    obtain ⟨failure, refused⟩ := outcome
    cases refused.symm.trans turn
  | relocation flagIndex typeIndex segment displacement lowHalf =>
    obtain ⟨source, offset, next, atSource, _, exactly, outcome⟩ :=
      decodeCommand_relocation widths step fits allowed
    obtain ⟨⟨_, _, _, lower, _⟩, _⟩ := allowed
    split at outcome
    · rename_i room
      cases outcome.symm.trans turn
      refine ⟨_, _, rfl, rfl, fun same => ambiguous (exactly.mp ?_)⟩
      have offsets := congrArg Relocation.offset same
      simp only [StreamCursor.record, decodedRelocation] at offsets
      omega
    · obtain ⟨failure, refused⟩ := outcome
      cases refused.symm.trans turn

theorem run_extends (run : (decodeLoop format elf).run s = .ok t) : s.relocations <+: t.relocations :=
  (WhileLoop.run_invariant (fun u => s.relocations <+: u.relocations)
    (fun _ _ _ turn grown => grown.trans (decodeCommand_advances turn).2) List.prefix_rfl run).1

/-- From a state in step with the commands, the run yields their relocations
exactly when the decoder misreads none of them. -/
theorem run_decodes_iff (widths : format.payloadShift ≤ 16) (step : InStep format cursor commands s)
    (fits : ∀ command ∈ commands, command.Fits format) (allowed : cursor.AllowsAll elf format commands)
    (count : (s.relocations ++ cursor.relocations format commands).length ≤ maxDecodedRelocations) :
    (∃ t, (decodeLoop format elf).run s = .ok t ∧ t.relocations = s.relocations ++ cursor.relocations format commands)
      ↔ ∀ command ∈ commands, command.Unambiguous format := by
  induction commands generalizing cursor s with
  | nil =>
    simp only [List.not_mem_nil, false_implies, implies_true, iff_true]
    exact ⟨s, WhileLoop.run_done step.finished, by simp [StreamCursor.relocations]⟩
  | cons command commands ih =>
    obtain ⟨allowedFirst, allowedRest⟩ := allowed
    have fitsFirst := fits command (List.mem_cons_self ..)
    rw [StreamCursor.relocations, ← List.append_assoc] at count ⊢
    rw [List.forall_mem_cons]
    by_cases unambiguous : command.Unambiguous format
    · have countFirst : (s.relocations ++ cursor.emits format command).length ≤ maxDecodedRelocations :=
        (Nat.le_add_right _ _).trans (List.length_append.symm.le.trans count)
      obtain ⟨next, turn, records, inStep⟩ :=
        decodeCommand_simulates widths step fitsFirst allowedFirst countFirst unambiguous
      rw [WhileLoop.run_turn step.going turn, ← records]
      rw [← records] at count
      have rest := ih inStep (fun other member => fits other (List.mem_cons_of_mem _ member)) allowedRest count
      rw [rest]
      simp [unambiguous]
    · simp only [unambiguous, false_and, iff_false, not_exists, not_and]
      intro t run same
      cases turn : decodeCommand format elf s with
      | error failure =>
        rw [WhileLoop.run_raise step.going turn] at run
        cases run
      | ok next =>
        rw [WhileLoop.run_turn step.going turn] at run
        obtain ⟨right, wrong, emitted, appended, different⟩ :=
          decodeCommand_misreads widths step fitsFirst allowedFirst unambiguous turn
        obtain ⟨tail, grown⟩ := run_extends run
        rw [same, appended, emitted, List.append_assoc, List.append_assoc] at grown
        have heads := List.append_cancel_left grown
        exact different (List.cons.inj heads).1.symm

end Run

section Stream
variable {elf : ElfImage} {index : Nat} {data : Bytes} {segment : ProgramHeader}

theorem LengthPrefixed.positive {table : Bytes} (prefixed : LengthPrefixed table) : 0 < table.length := by
  obtain ⟨b, first, _⟩ := prefixed
  exact (List.getElem?_eq_some_iff.mp first).1

theorem LengthPrefixed.first {table : Bytes} (prefixed : LengthPrefixed table) (b : UInt8)
    (first : table[0]? = some b) : b.toNat = table.length := by
  obtain ⟨other, atZero, sized⟩ := prefixed
  rw [Option.some.inj (first.symm.trans atZero), sized]

theorem StreamReader.readU8_reaches (what : String) {r : StreamReader} {value : Nat} {tail : Bytes}
    (ahead : r.rest = UInt8.ofNat value :: tail) (fits : value < 256) :
    ∃ next, r.readU8 what = .ok (value, next) ∧ r.Reaches next 1 tail := by
  have word : r.rest = littleBytes 1 value ++ tail := ahead
  exact readWord_reaches what word (by omega)

theorem StreamReader.readTable_reaches (what : String) {r : StreamReader} {table tail : Bytes}
    (ahead : r.rest = table ++ tail) (prefixed : LengthPrefixed table) :
    ∃ next, r.readTable what = .ok (table, next) ∧ r.Reaches next table.length tail := by
  obtain ⟨next, read, rest, advance, pos⟩ := readTable_append what ahead prefixed.positive prefixed.first
  exact ⟨next, read, rest, advance.start, pos⟩

/-- The header of a stored stream is read back as its format. -/
theorem readStreamFormat_header (stream : RelocationStream elf index) {reader : StreamReader} {tail : Bytes}
    (ahead : reader.rest = stream.format.header stream.reserved ++ tail) :
    ∃ next, readStreamFormat index reader = .ok (stream.format, next) ∧
      reader.Reaches next (stream.format.header stream.reserved).length tail := by
  have widths := stream.widths
  have ownIndex := stream.ownIndex
  have total : stream.format.flagBits + segBits index + stream.format.typeBits ≤ 16 := by
    simpa only [StreamFormat.payloadShift, StreamFormat.typeShift, StreamFormat.segBits, ownIndex] using widths
  have long : reader.remaining = (stream.format.header stream.reserved).length + tail.length := by
    rw [← StreamReader.rest_length, ahead, List.length_append]
  have order := reader.upper
  have enough : reader.require 4 "header" = .ok () := by
    refine raiseIf_ok.mpr ?_
    simp only [StreamReader.remaining, StreamFormat.header, List.length_append, List.length_cons] at long
    omega
  rw [StreamFormat.header, List.append_assoc, List.append_assoc,
    ← UInt8.ofNat_toNat (x := stream.reserved.1), ← UInt8.ofNat_toNat (x := stream.reserved.2)] at ahead
  obtain ⟨r₁, read₁, reach₁⟩ := StreamReader.readU8_reaches "header reserved byte 0" ahead
    stream.reserved.1.toNat_lt
  obtain ⟨r₂, read₂, reach₂⟩ := StreamReader.readU8_reaches "header reserved byte 1" reach₁.rest
    stream.reserved.2.toNat_lt
  obtain ⟨r₃, read₃, reach₃⟩ := StreamReader.readU8_reaches "flag-bit count" reach₂.rest (by omega)
  obtain ⟨r₄, read₄, reach₄⟩ := StreamReader.readU8_reaches "type-bit count" reach₃.rest (by omega)
  have flags : r₄.rest = stream.format.flagTable ++ (stream.format.typeTable ++ tail) := reach₄.rest
  obtain ⟨r₅, read₅, reach₅⟩ := StreamReader.readTable_reaches "flag" flags stream.flagTable
  obtain ⟨r₆, read₆, reach₆⟩ := StreamReader.readTable_reaches "type" reach₅.rest stream.typeTable
  refine ⟨r₆, ?_, ?_⟩
  · simp only [readStreamFormat, enough, read₁, read₂, read₃, read₄, read₅, read₆, bind, Except.bind, raiseIf,
      if_neg (Nat.not_lt.mpr total), pure, Except.pure]
    have same : StreamFormat.mk index stream.format.flagBits stream.format.typeBits stream.format.flagTable
        stream.format.typeTable = stream.format := StreamFormat.ext ownIndex.symm rfl rfl rfl rfl
    rw [same]
  · have whole := ((((reach₁.trans reach₂).trans reach₃).trans reach₄).trans reach₅).trans reach₆
    have length : (stream.format.header stream.reserved).length =
        1 + 1 + 1 + 1 + stream.format.flagTable.length + stream.format.typeTable.length := by
      simp only [StreamFormat.header, List.length_append, List.length_cons, List.length_nil]
    rwa [length]

/-- Decoding a stream of the documented grammar gives back its relocations
exactly when no command has an ambiguous word: every state command's upper
bits are also a type index in range, and no signed displacement is stored in
a field of no bits under a word whose top bit is set. -/
theorem decodePrxreloc2_stream_iff (little : elf.endianness = .little) (stream : RelocationStream elf index)
    (decodable : stream.Decodable) (stored : stream.StoredIn data segment) :
    decodePrxreloc2 data elf index = .ok stream.relocations ↔
      ∀ command ∈ stream.commands, command.Unambiguous stream.format := by
  obtain ⟨atIndex, kind, inFile, content⟩ := stored
  have ahead : StreamReader.rest ⟨data, segment.offset, segment.offset + segment.filesz, segment.offset, le_rfl,
      Nat.le_add_right .., inFile⟩ =
        stream.format.header stream.reserved ++ stream.commands.flatMap (·.encode stream.format) := by
    rw [StreamReader.rest, StreamReader.remaining, Nat.add_sub_cancel_left, content]
    rfl
  obtain ⟨next, header, reaches⟩ := readStreamFormat_header stream ahead
  have step : InStep stream.format stream.start stream.commands ⟨next, 0, 0, []⟩ :=
    ⟨reaches.rest, rfl, rfl, by rw [reaches.pos, reaches.start]; rfl⟩
  have decodes := run_decodes_iff stream.widths step stream.fits decodable.allowed decodable.count
  rw [← decodes]
  simp only [decodePrxreloc2, raiseIf, little, ne_eq, not_true, if_false, atIndex, kind, StreamReader.bounded,
    inFile, dif_pos, header, bind, Except.bind, List.nil_append]
  constructor
  · intro decoded
    split at decoded
    · cases decoded
    · rename_i final ran
      exact ⟨final, ran, Except.ok.inj decoded⟩
  · rintro ⟨final, ran, records⟩
    rw [ran]
    exact congrArg Except.ok records

end Stream

/-- Two loaded segments of 32 bytes, and a relocation segment of the given size at the start of the file. -/
def sampleElf (size : Nat) : ElfImage where
  header := ⟨0xFFA0, 8, 1, 0, 0x34, 0, 0, 0x34, 0x20, 3, 0x28, 0, 0⟩
  endianness := .little
  programHeaders := [⟨0, ptLoad, 0, 0, 0, 0, 0x20, 5, 4⟩, ⟨1, ptLoad, 0, 0x20, 0x20, 0, 0x20, 6, 4⟩,
    ⟨2, ptPrxreloc2, 0, 0, 0, size, 0, 0, 4⟩]
  sections := []
  rawData := []
  numbered := .of_indices rfl

def sampleFormat (typeBits : Nat) : StreamFormat := ⟨2, 2, typeBits, [3, 0, 1], [2, 2]⟩

/-- A state command, and an `R_MIPS_32` relocation of the word that many bytes after its base. -/
def sampleCommands (base : Nat) (delta : Int) : List Command :=
  [.state 1 0 (.compact base), .relocation 2 1 1 (.compact delta) .zero]

section Sample
variable {typeBits base : Nat} {delta : Int}

theorem sampleFormat_widths (narrow : typeBits ≤ 13) : (sampleFormat typeBits).payloadShift ≤ 16 := by
  have oneBit : segBits 2 = 1 := by decide +kernel
  simp only [StreamFormat.payloadShift, StreamFormat.typeShift, StreamFormat.segBits, sampleFormat, oneBit]
  omega

theorem sampleCommands_fit (baseFits : base < 2 ^ 13) (deltaFits : FitsSigned (13 - typeBits) delta)
    (typed : 1 ≤ typeBits) : ∀ command ∈ sampleCommands base delta, command.Fits (sampleFormat typeBits) := by
  have oneBit : segBits 2 = 1 := by decide +kernel
  have index : 2 ^ 1 ≤ 2 ^ typeBits := Nat.pow_le_pow_right (by decide) typed
  have upper : 16 - (2 + 1 + typeBits) = 13 - typeBits := by omega
  simp only [sampleCommands, sampleFormat, List.forall_mem_cons, Command.Fits, StreamFormat.segBits,
    StreamFormat.upperWidth, StreamFormat.payloadWidth, StreamFormat.payloadShift, StreamFormat.typeShift, oneBit,
    upper]
  exact ⟨⟨by decide, by decide, baseFits, 0, rfl, rfl, rfl⟩, ⟨by decide, by decide, by omega, deltaFits, trivial,
    ⟨1, rfl, rfl, rfl, rfl⟩, 2, rfl, by decide⟩, List.forall_mem_nil _⟩

end Sample

def sampleStream (typeBits base : Nat) (delta : Int) (widths : typeBits ≤ 13)
    (baseFits : base < 2 ^ 13) (deltaFits : FitsSigned (13 - typeBits) delta) (typed : 1 ≤ typeBits) :
    RelocationStream (sampleElf 13) 2 where
  reserved := (0, 0)
  format := sampleFormat typeBits
  commands := sampleCommands base delta
  ownIndex := rfl
  widths := sampleFormat_widths widths
  flagTable := ⟨3, rfl, rfl⟩
  typeTable := ⟨2, rfl, rfl⟩
  fits := sampleCommands_fit baseFits deltaFits typed

def plainStream : RelocationStream (sampleElf 13) 2 :=
  sampleStream 1 0 4 (by decide) (by decide) (by simp [FitsSigned]) (by decide)

/-- The base of its state command looks like a type index past the table. -/
def ambiguousStream : RelocationStream (sampleElf 13) 2 :=
  sampleStream 2 2 0 (by decide) (by decide) (by simp [FitsSigned]) (by decide)

theorem plainStream_decodable : plainStream.Decodable where
  allowed := ⟨trivial, ⟨⟨_, rfl, rfl, by decide, by decide⟩, _, rfl, rfl⟩, trivial⟩
  count := by decide

theorem ambiguousStream_decodable : ambiguousStream.Decodable where
  allowed := ⟨trivial, ⟨⟨_, rfl, rfl, by decide, by decide⟩, _, rfl, rfl⟩, trivial⟩
  count := by decide

theorem plainStream_stored : plainStream.StoredIn [0, 0, 2, 1, 3, 0, 1, 2, 2, 0x01, 0, 0x4E, 0]
    ⟨2, ptPrxreloc2, 0, 0, 0, 13, 0, 0, 4⟩ :=
  ⟨rfl, rfl, by decide, by decide +kernel⟩

theorem ambiguousStream_stored : ambiguousStream.StoredIn [0, 0, 2, 2, 3, 0, 1, 2, 2, 0x11, 0, 0x0E, 0]
    ⟨2, ptPrxreloc2, 0, 0, 0, 13, 0, 0, 4⟩ :=
  ⟨rfl, rfl, by decide, by decide +kernel⟩

theorem decodePrxreloc2_plain : decodePrxreloc2 [0, 0, 2, 1, 3, 0, 1, 2, 2, 0x01, 0, 0x4E, 0] (sampleElf 13) 2 =
    .ok plainStream.relocations :=
  (decodePrxreloc2_stream_iff rfl plainStream plainStream_decodable plainStream_stored).mpr (by decide +kernel)

/-- A well-formed stream is rejected: its state command's base is taken for a type index. -/
theorem decodePrxreloc2_rejects_stream :
    ¬∀ (data : Bytes) (elf : ElfImage) (index : Nat) (segment : ProgramHeader) (stream : RelocationStream elf index),
      elf.endianness = .little → stream.Decodable → stream.StoredIn data segment →
        decodePrxreloc2 data elf index = .ok stream.relocations := by
  intro roundTrip
  have decoded := roundTrip _ _ _ _ ambiguousStream rfl ambiguousStream_decodable ambiguousStream_stored
  have rejected : decodePrxreloc2 [0, 0, 2, 2, 3, 0, 1, 2, 2, 0x11, 0, 0x0E, 0] (sampleElf 13) 2 =
      .error (.parseError "PT_PRXRELOC2 type table index 2 is out of range for size 2") := by decide +kernel
  cases rejected.symm.trans decoded

end PspDisasm
