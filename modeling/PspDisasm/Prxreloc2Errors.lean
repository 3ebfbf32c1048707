import PspDisasm.Prxreloc2

namespace PspDisasm
open Foundations

/-- The exceptions that a caller's `except ParseError` handles. -/
def ParseErrorsOnly {α : Type} (x : Except Failure α) : Prop := RaisesOnly (fun failure => failure.isParseError) x

namespace StreamReader
variable {r : StreamReader} {size width : Nat} {what : String}

theorem take_parseErrors : ParseErrorsOnly (r.take size what) := by
  unfold take
  split
  · exact raisesOnly_value _
  · exact raisesOnly_error.mpr rfl

theorem readWord_parseErrors : ParseErrorsOnly (r.readWord width what) :=
  raisesOnly_bind take_parseErrors fun _ _ => raisesOnly_value _

theorem readTable_parseErrors : ParseErrorsOnly (r.readTable what) :=
  raisesOnly_bind (raisesOnly_raiseIf rfl) fun _ _ =>
    raisesOnly_bind (raisesOnly_raiseIf rfl) fun _ _ => take_parseErrors

theorem bounded_parseErrors {data : Bytes} {start : Nat} : ParseErrorsOnly (bounded data start size) := by
  unfold bounded
  split
  · exact raisesOnly_value _
  · exact raisesOnly_error.mpr rfl

end StreamReader

theorem selectSegment_parseErrors {what role : String} {elf : ElfImage} {index : Nat} :
    ParseErrorsOnly (selectSegment what elf index role) := by
  unfold selectSegment
  split
  · exact raisesOnly_error.mpr rfl
  · split
    · exact raisesOnly_error.mpr rfl
    · exact raisesOnly_value _

theorem lookup_parseErrors {table : Bytes} {index : Nat} {what : String} :
    ParseErrorsOnly (lookup table index what) := by
  unfold lookup
  split
  · exact raisesOnly_error.mpr rfl
  · exact raisesOnly_value _

section Commands
variable {format : StreamFormat} {flag command segmentIndex : Nat} {reader : StreamReader} {s : DecodeState}

theorem stateCommand_parseErrors : ParseErrorsOnly (stateCommand format flag command segmentIndex reader s) := by
  unfold stateCommand
  dsimp only
  split
  · exact raisesOnly_value _
  · split
    · exact raisesOnly_bind StreamReader.readWord_parseErrors fun _ _ => raisesOnly_value _
    · exact raisesOnly_error.mpr rfl

theorem nextOffset_parseErrors {base : Int} : ParseErrorsOnly (nextOffset format flag command base reader) := by
  unfold nextOffset
  dsimp only
  split
  · exact raisesOnly_value _
  · split
    · exact raisesOnly_bind StreamReader.readWord_parseErrors fun _ _ => raisesOnly_value _
    · split
      · exact raisesOnly_bind StreamReader.readWord_parseErrors fun _ _ => raisesOnly_value _
      · exact raisesOnly_error.mpr rfl

theorem lowHalfAddend_parseErrors : ParseErrorsOnly (lowHalfAddend flag reader) := by
  unfold lowHalfAddend
  dsimp only
  split
  · exact raisesOnly_value _
  · split
    · exact raisesOnly_bind StreamReader.readWord_parseErrors fun _ _ => raisesOnly_value _
    · split
      · exact raisesOnly_value _
      · exact raisesOnly_error.mpr rfl

theorem normalizeType_parseErrors {compactType : Nat} : ParseErrorsOnly (normalizeType compactType) := by
  unfold normalizeType
  split
  · exact raisesOnly_error.mpr rfl
  · exact raisesOnly_value _

/-- Every normalized type has a name, so the name table never raises a `KeyError`. -/
theorem prxreloc2RelocName_named {compactType normalizedType : Nat}
    (normalized : normalizeType compactType = .ok normalizedType) :
    ∃ name, prxreloc2RelocName normalizedType = .ok name := by
  have named : ∀ pair ∈ compactTypeMap, (prxreloc2RelocNames.lookup pair.2).isSome := by decide
  unfold normalizeType at normalized
  split at normalized
  · cases normalized
  · rename_i found
    cases normalized
    obtain ⟨_, _, split, _⟩ := List.lookup_eq_some_iff.mp found
    obtain ⟨name, known⟩ := Option.isSome_iff_exists.mp (named (compactType, normalizedType) (by rw [split]; simp))
    exact ⟨name, by simp only [prxreloc2RelocName, known]⟩

theorem relocationCommand_parseErrors {elf : ElfImage} {compactType streamOffset : Nat} :
    ParseErrorsOnly (relocationCommand format elf flag compactType command segmentIndex streamOffset reader s) := by
  unfold relocationCommand
  refine raisesOnly_bind normalizeType_parseErrors fun type normalized => ?_
  refine raisesOnly_bind selectSegment_parseErrors fun _ _ => raisesOnly_bind selectSegment_parseErrors fun _ _ => ?_
  refine raisesOnly_bind nextOffset_parseErrors fun _ _ => raisesOnly_bind (raisesOnly_raiseIf rfl) fun _ _ => ?_
  refine raisesOnly_bind lowHalfAddend_parseErrors fun _ _ => ?_
  obtain ⟨name, known⟩ := prxreloc2RelocName_named normalized
  rw [known]
  exact raisesOnly_bind (raisesOnly_value _) fun _ _ =>
    raisesOnly_bind (raisesOnly_raiseIf rfl) fun _ _ => raisesOnly_value _

theorem decodeCommand_parseErrors {elf : ElfImage} : ParseErrorsOnly (decodeCommand format elf s) := by
  unfold decodeCommand
  refine raisesOnly_bind StreamReader.readWord_parseErrors fun _ _ => ?_
  refine raisesOnly_bind lookup_parseErrors fun _ _ => raisesOnly_bind lookup_parseErrors fun _ _ => ?_
  split
  · exact stateCommand_parseErrors
  · exact relocationCommand_parseErrors

end Commands

theorem readStreamFormat_parseErrors {index : Nat} {reader : StreamReader} :
    ParseErrorsOnly (readStreamFormat index reader) := by
  unfold readStreamFormat
  refine raisesOnly_bind (raisesOnly_raiseIf rfl) fun _ _ => ?_
  refine raisesOnly_bind StreamReader.readWord_parseErrors fun _ _ => ?_
  refine raisesOnly_bind StreamReader.readWord_parseErrors fun _ _ => ?_
  refine raisesOnly_bind StreamReader.readWord_parseErrors fun _ _ => ?_
  refine raisesOnly_bind StreamReader.readWord_parseErrors fun _ _ => ?_
  refine raisesOnly_bind (raisesOnly_raiseIf rfl) fun _ _ => ?_
  refine raisesOnly_bind StreamReader.readTable_parseErrors fun _ _ => ?_
  exact raisesOnly_bind StreamReader.readTable_parseErrors fun _ _ => raisesOnly_value _

/-- The decoder raises nothing but its documented error, whatever the stream holds. -/
theorem decodePrxreloc2_parseErrors (data : Bytes) (elf : ElfImage) (index : Nat) :
    ParseErrorsOnly (decodePrxreloc2 data elf index) := by
  unfold decodePrxreloc2
  refine raisesOnly_bind (raisesOnly_raiseIf rfl) fun _ _ => ?_
  split
  · exact raisesOnly_error.mpr rfl
  · refine raisesOnly_bind (raisesOnly_raiseIf rfl) fun _ _ => ?_
    refine raisesOnly_bind StreamReader.bounded_parseErrors fun _ _ => ?_
    refine raisesOnly_bind readStreamFormat_parseErrors fun _ _ => ?_
    exact raisesOnly_bind (WhileLoop.run_raisesOnly fun _ => decodeCommand_parseErrors) fun _ _ => raisesOnly_value _

end PspDisasm
