import Mathlib.Tactic.IntervalCases
import PspDisasm.Prxreloc2Words

namespace PspDisasm
open Foundations

/-- The one reading that the decoder gets wrong when it is taken from the wrong
bits: the type lookup made for a state command too, and the sign of a
displacement field that has no bits. -/
def Command.Unambiguous (format : StreamFormat) (command : Command) : Prop :=
  match command with
  | .state _ _ base => base.upper % 2 ^ format.typeBits < format.typeTable.length
  | .relocation _ _ _ displacement _ =>
    displacement.isSigned = true → format.payloadShift = 16 → command.word format < 0x8000

instance (format : StreamFormat) : (command : Command) → Decidable (command.Unambiguous format)
  | .state .. => inferInstanceAs (Decidable (_ < _))
  | .relocation .. => inferInstanceAs (Decidable (_ → _ → _))

/-- The decoder stands in front of the given commands, with the documented running state. -/
structure InStep (format : StreamFormat) (cursor : StreamCursor) (commands : List Command) (s : DecodeState) : Prop where
  rest : s.reader.rest = commands.flatMap (·.encode format)
  source : s.sourceSegmentIndex = cursor.source
  base : s.relocationBase = cursor.base
  position : s.reader.pos = s.reader.start + cursor.position

/-- `next` stands `size` bytes further, in front of `tail`. -/
structure StreamReader.Reaches (r next : StreamReader) (size : Nat) (tail : Bytes) : Prop where
  rest : next.rest = tail
  start : next.start = r.start
  pos : next.pos = r.pos + size

theorem StreamReader.Reaches.trans {r next later : StreamReader} {size more : Nat} {tail rest : Bytes}
    (first : r.Reaches next size tail) (second : next.Reaches later more rest) :
    r.Reaches later (size + more) rest where
  rest := second.rest
  start := second.start.trans first.start
  pos := by rw [second.pos, first.pos, Nat.add_assoc]

theorem StreamReader.Reaches.refl {r : StreamReader} {tail : Bytes} (ahead : r.rest = tail) : r.Reaches r 0 tail :=
  ⟨ahead, rfl, rfl⟩

theorem StreamReader.readWord_reaches (what : String) {r : StreamReader} {width value : Nat} {tail : Bytes}
    (ahead : r.rest = littleBytes width value ++ tail) (fits : value < 256 ^ width) :
    ∃ next, r.readWord width what = .ok (value, next) ∧ r.Reaches next width tail := by
  obtain ⟨next, read, rest, advance, pos⟩ := readWord_append what ahead fits
  exact ⟨next, read, rest, advance.start, pos⟩

theorem lookup_found {table : Bytes} {index : Nat} {entry : UInt8} {what : String}
    (found : table[index]? = some entry) : lookup table index what = .ok entry.toNat := by
  simp [lookup, found]

theorem lookup_outside (what : String) {table : Bytes} {index : Nat} (outside : table.length ≤ index) :
    ∃ failure, lookup table index what = .error failure := by
  rw [lookup, List.getElem?_eq_none outside]
  exact ⟨_, rfl⟩

section States
variable {format : StreamFormat} {flag segment : Nat} {base : StateBase} {reader : StreamReader} {tail : Bytes}

/-- A state command sets the source segment and the base that it encodes. -/
theorem stateCommand_reads {word : Nat} (s : DecodeState) (segment : Nat)
    (upper : word >>> (format.flagBits + format.segBits) = base.upper)
    (fits : base.Fits format.upperWidth) (mode : flag &&& 0x06 = base.mode)
    (ahead : reader.rest = base.extension ++ tail) :
    ∃ next, reader.Reaches next base.extension.length tail ∧
      stateCommand format flag word segment reader s =
        .ok { s with reader := next, sourceSegmentIndex := segment, relocationBase := base.value } := by
  cases base with
  | compact base =>
    refine ⟨reader, .refl ahead, ?_⟩
    simp only [stateCommand, mode, upper, StateBase.mode, StateBase.upper, StateBase.value, if_true]
  | absolute spare base =>
    obtain ⟨next, read, reaches⟩ := StreamReader.readWord_reaches "absolute state base" ahead fits.2
    refine ⟨next, by simpa only [StateBase.extension, littleBytes_length] using reaches, ?_⟩
    rw [← StreamReader.readU32] at read
    simp [stateCommand, mode, StateBase.mode, StateBase.value, read, bind, Except.bind, pure, Except.pure]

end States

section Relocations
variable {format : StreamFormat} {flag word low : Nat} {displacement : Displacement} {lowHalf : LowHalf}
  {reader : StreamReader} {tail : Bytes}

theorem FitsSigned.zero_width {n : Int} (fits : FitsSigned 0 n) : n = 0 := by
  obtain ⟨lower, upper⟩ := fits
  rw [pow_zero] at lower upper
  omega

/-- The high part of a displacement is read as encoded, except from a field of
no bits under a word whose top bit is set. -/
theorem signedCompactDelta_word {high : Int} (widths : format.payloadShift ≤ 16) (within : word < 0x10000)
    (small : low < 2 ^ format.payloadShift)
    (split : word = low + 2 ^ format.payloadShift * (high % 2 ^ format.payloadWidth).toNat)
    (fits : FitsSigned format.payloadWidth high) :
    signedCompactDelta word format.payloadShift = high ↔ (format.payloadShift = 16 → word < 0x8000) := by
  have total : format.payloadShift + format.payloadWidth = 16 := by
    unfold StreamFormat.payloadWidth
    omega
  by_cases full : format.payloadShift = 16
  · have empty : format.payloadWidth = 0 := by omega
    rw [empty] at fits
    rw [fits.zero_width, full, signedCompactDelta_empty within]
    split <;> simp_all
  · rw [split, signedCompactDelta_field small total (by omega) fits]
    simp [full]

/-- What the displacement of a relocation command is read as. -/
theorem nextOffset_reads (base : Int) (widths : format.payloadShift ≤ 16) (within : word < 0x10000)
    (small : low < 2 ^ format.payloadShift)
    (split : word = low + 2 ^ format.payloadShift * (displacement.high % 2 ^ format.payloadWidth).toNat)
    (fits : displacement.Fits format.payloadWidth) (mode : flag &&& 0x06 = displacement.mode)
    (ahead : reader.rest = displacement.extension ++ tail) :
    ∃ offset next, reader.Reaches next displacement.extension.length tail ∧
      nextOffset format flag word base reader = .ok (offset, next) ∧
      (offset = displacement.moves base ↔
        (displacement.isSigned = true → format.payloadShift = 16 → word < 0x8000)) := by
  cases displacement with
  | compact delta =>
    have reading := signedCompactDelta_word widths within small split fits
    refine ⟨base + signedCompactDelta word format.payloadShift, reader, .refl ahead,
      by simp [nextOffset, mode, Displacement.mode], ?_⟩
    simpa [Displacement.moves, Displacement.isSigned, Displacement.high] using reading
  | extended delta =>
    have reading := signedCompactDelta_word widths within small split fits
    have half : (delta % 0x10000).toNat < 256 ^ 2 := by omega
    obtain ⟨next, read, reaches⟩ :=
      StreamReader.readWord_reaches "extended relocation delta" ahead half
    rw [← StreamReader.readU16] at read
    refine ⟨base + signedExtendedDelta word format.payloadShift (delta % 0x10000).toNat, next,
      by simpa only [Displacement.extension, littleBytes_length] using reaches,
      by simp [nextOffset, mode, Displacement.mode, read, bind, Except.bind, pure, Except.pure], ?_⟩
    simp only [Displacement.isSigned, forall_const, ← reading, Displacement.moves, Displacement.high,
      signedExtendedDelta]
    omega
  | absolute spare offset =>
    obtain ⟨next, read, reaches⟩ :=
      StreamReader.readWord_reaches "absolute relocation offset" ahead fits.2
    rw [← StreamReader.readU32] at read
    refine ⟨offset, next, by simpa only [Displacement.extension, littleBytes_length] using reaches,
      by simp [nextOffset, mode, Displacement.mode, read, bind, Except.bind, pure, Except.pure], ?_⟩
    simp [Displacement.moves, Displacement.isSigned]

theorem lowHalfAddend_reads (fits : lowHalf.Fits) (mode : flag &&& 0x38 = lowHalf.mode)
    (ahead : reader.rest = lowHalf.extension ++ tail) :
    ∃ next, reader.Reaches next lowHalf.extension.length tail ∧
      lowHalfAddend flag reader = .ok (lowHalf.addend, next) := by
  cases lowHalf with
  | zero =>
    exact ⟨reader, .refl ahead, by simp [lowHalfAddend, mode, LowHalf.mode, LowHalf.addend]⟩
  | explicit half =>
    have small : (half % 0x10000).toNat < 256 ^ 2 := by omega
    obtain ⟨next, read, reaches⟩ := StreamReader.readWord_reaches "HI16 low-half addend" ahead small
    rw [← StreamReader.readU16] at read
    refine ⟨next, by simpa only [LowHalf.extension, littleBytes_length] using reaches, ?_⟩
    simp [lowHalfAddend, mode, LowHalf.mode, LowHalf.addend, read, bind, Except.bind, pure, Except.pure,
      signedHalf_toNat fits.1 fits.2]
  | reuse =>
    exact ⟨reader, .refl ahead, by simp [lowHalfAddend, mode, LowHalf.mode, LowHalf.addend]⟩

theorem normalizeType_compact {compactType : Nat} (known : compactType ≤ 7) :
    normalizeType compactType = .ok (StreamCursor.normalized compactType).1 ∧
      prxreloc2RelocName (StreamCursor.normalized compactType).1 = .ok (StreamCursor.normalized compactType).2 := by
  interval_cases compactType <;> exact ⟨rfl, rfl⟩

end Relocations

section Commands
variable {format : StreamFormat} {elf : ElfImage} {cursor : StreamCursor} {command : Command}
  {commands : List Command} {s : DecodeState}

/-- The fields that the decoder cuts out of a command word are the encoded ones.
Its type index is taken from the upper bits of every command. -/
theorem decodeCommand_fields (elf : ElfImage) (widths : format.payloadShift ≤ 16)
    (step : InStep format cursor (command :: commands) s) (fits : command.Fits format) {flag : UInt8}
    (flagEntry : format.flagTable[command.flagIndex]? = some flag) :
    ∃ reader, s.reader.Reaches reader 2 (command.extension ++ commands.flatMap (·.encode format)) ∧
      decodeCommand format elf s =
        (lookup format.typeTable (command.upper format % 2 ^ format.typeBits) "type" >>= fun compactType =>
          if flag.toNat &&& 0x01 = 0 then
            stateCommand format flag.toNat (command.word format) command.segment reader s
          else relocationCommand format elf flag.toNat compactType (command.word format) command.segment
            cursor.position reader s) := by
  have ahead : s.reader.rest = littleBytes 2 (command.word format)
      ++ (command.extension ++ commands.flatMap (·.encode format)) := by
    rw [step.rest, List.flatMap_cons, Command.encode, List.append_assoc]
  obtain ⟨reader, read, reaches⟩ :=
    StreamReader.readWord_reaches "command" ahead (Command.word_lt widths fits)
  rw [← StreamReader.readU16] at read
  refine ⟨reader, reaches, ?_⟩
  have position : s.reader.pos - s.reader.start = cursor.position := by
    rw [step.position, Nat.add_sub_cancel_left]
  rw [decodeCommand, position, read]
  simp only [bind, Except.bind, Command.word_flag fits, Command.word_segment fits, Command.word_type fits,
    lookup_found flagEntry]

/-- A state command is carried out when its upper bits happen to be a type
index in range, and is refused otherwise. -/
theorem decodeCommand_state (elf : ElfImage) {flagIndex segment : Nat} {base : StateBase}
    (widths : format.payloadShift ≤ 16)
    (step : InStep format cursor (.state flagIndex segment base :: commands) s)
    (fits : (Command.state flagIndex segment base).Fits format) :
    if base.upper % 2 ^ format.typeBits < format.typeTable.length then
      ∃ t, decodeCommand format elf s = .ok t ∧ t.relocations = s.relocations ∧
        InStep format (cursor.after format (.state flagIndex segment base)) commands t
    else ∃ failure, decodeCommand format elf s = .error failure := by
  obtain ⟨_, _, baseFits, flag, flagEntry, isState, mode⟩ := id fits
  obtain ⟨reader, reaches, run⟩ := decodeCommand_fields elf widths step fits flagEntry
  rw [run, show (Command.state flagIndex segment base).upper format = base.upper from rfl]
  split
  · rename_i inside
    rw [lookup_found (List.getElem?_eq_getElem inside)]
    have upper := Command.word_upper fits
    obtain ⟨next, reachesNext, state⟩ := stateCommand_reads s segment upper baseFits mode reaches.rest
    simp only [bind, Except.bind]
    refine ⟨_, state, rfl, reachesNext.rest, rfl, rfl, ?_⟩
    have moved := reaches.trans reachesNext
    simp only [StreamCursor.after, moved.pos, moved.start, step.position, Command.encode, Command.extension,
      List.length_append, littleBytes_length]
    omega
  · rename_i outside
    obtain ⟨failure, refused⟩ := lookup_outside "type" (Nat.not_lt.mp outside)
    exact ⟨failure, by rw [refused]; rfl⟩

/-- A relocation command appends the documented record with the offset that
its displacement is read as, unless that offset leaves the source segment. -/
theorem decodeCommand_relocation {flagIndex typeIndex segment : Nat} {displacement : Displacement}
    {lowHalf : LowHalf} (widths : format.payloadShift ≤ 16)
    (step : InStep format cursor (.relocation flagIndex typeIndex segment displacement lowHalf :: commands) s)
    (fits : (Command.relocation flagIndex typeIndex segment displacement lowHalf).Fits format)
    (allowed : cursor.Allows elf (.relocation flagIndex typeIndex segment displacement lowHalf)) :
    ∃ source offset next,
      elf.programHeaders[cursor.source]? = some source ∧
      s.reader.Reaches next ((Command.relocation flagIndex typeIndex segment displacement lowHalf).encode format).length
        (commands.flatMap (·.encode format)) ∧
      (offset = displacement.moves cursor.base ↔
        (Command.relocation flagIndex typeIndex segment displacement lowHalf).Unambiguous format) ∧
      if 0 ≤ offset ∧ offset + 4 ≤ source.memsz ∧ s.relocations.length < maxDecodedRelocations then
        decodeCommand format elf s = .ok { s with
          reader := next, relocationBase := offset,
          relocations := s.relocations ++ [cursor.record format flagIndex typeIndex segment lowHalf offset] }
      else ∃ failure, decodeCommand format elf s = .error failure := by
  obtain ⟨_, _, typeFits, displacementFits, lowFits, ⟨flag, flagEntry, isRelocation, mode, lowMode⟩,
    compactType, typeEntry, known⟩ := id fits
  obtain ⟨⟨source, atSource, sourceLoad, _⟩, target, atTarget, targetLoad⟩ := allowed
  obtain ⟨reader, reaches, run⟩ := decodeCommand_fields elf widths step fits flagEntry
  have typeIndexed : (Command.relocation flagIndex typeIndex segment displacement lowHalf).upper format
      % 2 ^ format.typeBits = typeIndex := by
    rw [Command.upper, Nat.add_mul_mod_self_left, Nat.mod_eq_of_lt typeFits]
  have below : flagIndex + 2 ^ format.flagBits * segment + 2 ^ format.typeShift * typeIndex
      < 2 ^ format.payloadShift :=
    pack_lt (pack_lt fits.flagIndex_lt fits.segment_lt) typeFits
  have split : (Command.relocation flagIndex typeIndex segment displacement lowHalf).word format
      = (flagIndex + 2 ^ format.flagBits * segment + 2 ^ format.typeShift * typeIndex)
        + 2 ^ format.payloadShift * (displacement.high % 2 ^ format.payloadWidth).toNat := by
    rw [Command.word_split, StreamFormat.payloadShift, Nat.pow_add, Command.upper]
    simp only [Command.flagIndex, Command.segment]
    ring
  have ahead : reader.rest = displacement.extension ++ (lowHalf.extension ++ commands.flatMap (·.encode format)) := by
    rw [reaches.rest, Command.extension, List.append_assoc]
  obtain ⟨offset, afterOffset, reachesOffset, moved, exactly⟩ := nextOffset_reads s.relocationBase widths
    (Command.word_lt widths fits) below split displacementFits mode ahead
  obtain ⟨next, reachesLow, low⟩ := lowHalfAddend_reads lowFits lowMode reachesOffset.rest
  have sourceSegment : prxreloc2Segment elf cursor.source "source" = .ok source :=
    selectSegment_ok.mpr ⟨atSource, sourceLoad⟩
  have targetSegment : prxreloc2Segment elf segment "target" = .ok target :=
    selectSegment_ok.mpr ⟨atTarget, targetLoad⟩
  obtain ⟨normal, name⟩ := normalizeType_compact known
  refine ⟨source, offset, next, atSource, ?_, step.base ▸ exactly, ?_⟩
  · have whole := (reaches.trans reachesOffset).trans reachesLow
    simpa only [Command.encode, Command.extension, List.length_append, littleBytes_length, Nat.add_assoc] using whole
  · have notState : ¬flag.toNat &&& 0x01 = 0 := by omega
    have record : decodedRelocation format flag.toNat (StreamCursor.normalized compactType.toNat).1 cursor.source
        segment offset.toNat (StreamCursor.normalized compactType.toNat).2 cursor.position lowHalf.addend
          = cursor.record format flagIndex typeIndex segment lowHalf offset := by
      simp only [StreamCursor.record, List.getD_eq_getElem?_getD, typeEntry, Option.getD_some]
      rw [show format.flagTable[flagIndex]? = some flag from flagEntry, Option.getD_some]
    rw [run, typeIndexed, lookup_found typeEntry]
    simp only [bind, Except.bind, if_neg notState, relocationCommand, normal, Command.segment, sourceSegment,
      targetSegment, moved, low, name, step.source, record, raiseIf]
    by_cases outside : offset < 0 ∨ (source.memsz : Int) < offset + 4
    · rw [if_neg (by omega), if_pos outside]
      exact ⟨_, rfl⟩
    · rw [if_neg outside]
      by_cases full : s.relocations.length < maxDecodedRelocations
      · rw [if_pos (by omega), if_neg (by simp only [List.length_append, List.length_singleton]; omega)]
        rfl
      · rw [if_neg (by omega), if_pos (by simp only [List.length_append, List.length_singleton]; omega)]
        exact ⟨_, rfl⟩

end Commands

end PspDisasm
