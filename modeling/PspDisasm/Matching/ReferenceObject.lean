import PspDisasm.Decompile.ProjectReaders
import PspDisasm.Disc.SfoLayout
import PspDisasm.Elf32
import PspDisasm.Foundations.AddressSpans

namespace PspDisasm
open Foundations

namespace Matching

inductive MatchFailure
  | matching (message : String)
  | structError
deriving DecidableEq

/-- `_align`. -/
def align (value alignment : Nat) : Nat := (alignUp value alignment).toNat

/-- `struct.pack` under the format `<I`. -/
def packWord (n : Int) : Except MatchFailure Bytes :=
  if 0 ≤ n ∧ n < 2 ^ 32 then .ok (littleBytes 4 n.toNat) else .error .structError

def packWords (words : List Int) : Except MatchFailure Bytes := do
  return (← words.mapM packWord).flatten

/-- The loop over the instructions, with `expected_address` and `index`. -/
def requireContiguous (name : String) : Int → Nat → List MatchInstruction → Except MatchFailure Unit
  | _, _, [] => .ok ()
  | expected, index, instruction :: rest => do
    raiseIf (instruction.address ≠ expected) (.matching
      s!"Function {name} instruction {index} is not contiguous: expected 0x{addressDigits expected}, got 0x{addressDigits instruction.address}.")
    requireContiguous name (expected + 4) (index + 1) rest

def shstrtab : Bytes := utf8Bytes "\x00.text\x00.symtab\x00.strtab\x00.shstrtab\x00"

def stringTable (symbolName : Bytes) : Bytes := [0] ++ symbolName ++ [0]

/-- The offsets of the parts of the object. -/
structure ObjectLayout where
  text : Nat
  symtab : Nat
  strtab : Nat
  shstrtab : Nat
  sectionHeaders : Nat

def objectLayout (textSize strtabSize : Nat) : ObjectLayout :=
  let text := align 52 4
  let symtab := align (text + textSize) 4
  let strtab := symtab + 32
  let shstr := strtab + strtabSize
  ⟨text, symtab, strtab, shstr, align (shstr + shstrtab.length) 4⟩

/-- The symbol of the function, behind the null symbol: global, of type function, in section 1. -/
def packSymbols (textSize : Nat) : Except MatchFailure Bytes := do
  let words ← packWords [1, 0, textSize]
  return List.replicate 16 0 ++ (words ++ [18, 0] ++ littleBytes 2 1)

def elfIdent : Bytes := [0x7F, 0x45, 0x4C, 0x46, 1, 1, 1] ++ List.replicate 9 0

def packHeader (sectionHeaders : Nat) : Except MatchFailure Bytes := do
  let words ← packWords [1, 0, 0, sectionHeaders, 0]
  return elfIdent ++ littleBytes 2 1 ++ littleBytes 2 8 ++ words ++ littleBytes 2 52 ++ littleBytes 2 0 ++ littleBytes 2 0 ++
    littleBytes 2 40 ++ littleBytes 2 5 ++ littleBytes 2 4

def sectionTable (layout : ObjectLayout) (textSize strtabSize : Nat) : List RawSection :=
  [⟨0, 0, 0, 0, 0, 0, 0, 0, 0, 0⟩,
    ⟨1, 1, 6, 0, layout.text, textSize, 0, 0, 4, 0⟩,
    ⟨7, 2, 0, 0, layout.symtab, 32, 3, 1, 4, 16⟩,
    ⟨15, 3, 0, 0, layout.strtab, strtabSize, 0, 0, 1, 0⟩,
    ⟨23, 3, 0, 0, layout.shstrtab, shstrtab.length, 0, 0, 1, 0⟩]

def fields (raw : RawSection) : List Nat :=
  [raw.nameOffset, raw.type, raw.flags, raw.addr, raw.offset, raw.size, raw.link, raw.info, raw.addralign, raw.entsize]

def packSections (sections : List RawSection) : Except MatchFailure Bytes := do
  return (← sections.mapM fun raw => packWords ((fields raw).map Int.ofNat)).flatten

def buildReferenceObject (function : MatchFunction) : Except MatchFailure Bytes := do
  raiseIf (function.instructions = [])
    (.matching s!"Function {function.name} has no instruction words for reference-object generation.")
  requireContiguous function.name function.address 0 function.instructions
  let text ← packWords (function.instructions.map (·.word))
  let symbolName := utf8Bytes function.name
  raiseIf (0 ∈ symbolName) (.matching "Function names containing NUL cannot be emitted into an ELF string table.")
  let strtab := stringTable symbolName
  let layout := objectLayout text.length strtab.length
  let symtab ← packSymbols text.length
  let header ← packHeader layout.sectionHeaders
  let sectionHeaders ← packSections (sectionTable layout text.length strtab.length)
  return writeAll [⟨0, header⟩, ⟨layout.text, text⟩, ⟨layout.symtab, symtab⟩, ⟨layout.strtab, strtab⟩,
    ⟨layout.shstrtab, shstrtab⟩, ⟨layout.sectionHeaders, sectionHeaders⟩]
    (List.replicate (layout.sectionHeaders + sectionHeaders.length) 0)

/-- A function that the builder takes: its words fill a range of addresses, and its name fits into a string table. -/
structure Buildable (function : MatchFunction) : Prop where
  nonempty : function.instructions ≠ []
  contiguous : ∀ (i : Nat) instruction, function.instructions[i]? = some instruction → instruction.address = function.address + 4 * i
  words : ∀ instruction ∈ function.instructions, 0 ≤ instruction.word ∧ instruction.word < 2 ^ 32
  named : 0 ∉ utf8Bytes function.name

def textBytes (function : MatchFunction) : Bytes := function.instructions.flatMap fun instruction => littleBytes 4 instruction.word.toNat

def layoutOf (function : MatchFunction) : ObjectLayout :=
  objectLayout (textBytes function).length (stringTable (utf8Bytes function.name)).length

def symbolBytes (textSize : Nat) : Bytes :=
  List.replicate 16 0 ++ (([1, 0, textSize].flatMap (littleBytes 4)) ++ [18, 0] ++ littleBytes 2 1)

def headerBytes (sectionHeaders : Nat) : Bytes :=
  elfIdent ++ littleBytes 2 1 ++ littleBytes 2 8 ++ [1, 0, 0, sectionHeaders, 0].flatMap (littleBytes 4) ++ littleBytes 2 52 ++
    littleBytes 2 0 ++ littleBytes 2 0 ++ littleBytes 2 40 ++ littleBytes 2 5 ++ littleBytes 2 4

def sectionBytes (raw : RawSection) : Bytes := (fields raw).flatMap (littleBytes 4)

def sectionsOf (function : MatchFunction) : List RawSection :=
  sectionTable (layoutOf function) (textBytes function).length (stringTable (utf8Bytes function.name)).length

/-- The parts of the object, each with the place where it goes. -/
def objectWrites (function : MatchFunction) : List Write :=
  [⟨0, headerBytes (layoutOf function).sectionHeaders⟩, ⟨(layoutOf function).text, textBytes function⟩,
    ⟨(layoutOf function).symtab, symbolBytes (textBytes function).length⟩,
    ⟨(layoutOf function).strtab, stringTable (utf8Bytes function.name)⟩, ⟨(layoutOf function).shstrtab, shstrtab⟩,
    ⟨(layoutOf function).sectionHeaders, (sectionsOf function).flatMap sectionBytes⟩]

def referenceObject (function : MatchFunction) : Bytes :=
  writeAll (objectWrites function) (List.replicate ((layoutOf function).sectionHeaders + 200) 0)

section Packing

theorem packWord_ok {n : Int} (lower : 0 ≤ n) (upper : n < 2 ^ 32) : packWord n = .ok (littleBytes 4 n.toNat) :=
  if_pos ⟨lower, upper⟩

theorem packWords_ok {words : List Int} (fit : ∀ n ∈ words, 0 ≤ n ∧ n < 2 ^ 32) :
    packWords words = .ok (words.flatMap fun n => littleBytes 4 n.toNat) := by
  have packed : words.mapM packWord = .ok (words.map fun n => littleBytes 4 n.toNat) :=
    mapM_ok.mpr (List.forall₂_map_right_iff.mpr (List.forall₂_same.mpr fun n member => packWord_ok (fit n member).1 (fit n member).2))
  rw [packWords, packed, List.flatMap_def]
  rfl

theorem packWords_natural {words : List Nat} (fit : ∀ n ∈ words, n < 2 ^ 32) :
    packWords (words.map Int.ofNat) = .ok (words.flatMap (littleBytes 4)) := by
  rw [packWords_ok, List.flatMap_map]
  · rfl
  · refine List.forall_mem_map.mpr fun n member => ⟨Int.natCast_nonneg n, ?_⟩
    have small := fit n member
    exact Int.ofNat_lt.mpr small

/-- One number too large for a word is enough for the whole record not to be packed. -/
theorem packWords_error {words : List Int} {n : Int} (listed : n ∈ words) (large : 2 ^ 32 ≤ n) :
    packWords words = .error .structError := by
  cases packed : words.mapM packWord with
  | error failure =>
    obtain ⟨m, _, refused⟩ := mapM_error packed
    rw [packWord] at refused
    split at refused
    · cases refused
    · cases refused
      rw [packWords, packed]
      rfl
  | ok bytes =>
    obtain ⟨_, _, written⟩ := forall₂_mem (mapM_ok.mp packed).flip listed
    have refused : packWord n = .error .structError := if_neg fun fits => absurd fits.2 (not_lt.mpr large)
    rw [refused] at written
    cases written

theorem requireContiguous_ok {name : String} {expected : Int} {index : Nat} {instructions : List MatchInstruction}
    (contiguous : ∀ (i : Nat) instruction, instructions[i]? = some instruction → instruction.address = expected + 4 * i) :
    requireContiguous name expected index instructions = .ok () := by
  induction instructions generalizing expected index with
  | nil => rfl
  | cons first rest ih =>
    have here : first.address = expected := by simpa using contiguous 0 first rfl
    rw [requireContiguous]
    refine bind_ok.mpr ⟨(), raiseIf_ok.mpr (not_not.mpr here), ih fun i instruction found => ?_⟩
    have later := contiguous (i + 1) instruction found
    push_cast at later
    omega

theorem align_spec (value : Nat) : 4 ∣ align value 4 ∧ value ≤ align value 4 ∧ align value 4 < value + 4 := by
  obtain ⟨multiple, lower, upper⟩ := @alignUp_spec value 4 ⟨2, rfl⟩ (Int.natCast_nonneg value)
  unfold align
  omega

theorem shstrtab_length : shstrtab.length = 33 := by decide

end Packing

section Build
variable {function : MatchFunction}

theorem textBytes_length : (textBytes function).length = 4 * function.instructions.length := by
  rw [textBytes]
  induction function.instructions with
  | nil => rfl
  | cons instruction rest ih =>
    rw [List.flatMap_cons, List.length_append, ih, littleBytes_length, List.length_cons]
    omega

/-- The words need no padding behind them; the strings may. -/
structure Placed (layout : ObjectLayout) (textSize strtabSize : Nat) : Prop where
  text : layout.text = 52
  symtab : layout.symtab = 52 + textSize
  strtab : layout.strtab = 84 + textSize
  shstrtab : layout.shstrtab = 84 + textSize + strtabSize
  sectionHeaders : 117 + textSize + strtabSize ≤ layout.sectionHeaders

theorem layoutOf_placed : Placed (layoutOf function) (textBytes function).length (stringTable (utf8Bytes function.name)).length := by
  have words := @textBytes_length function
  have first := align_spec 52
  have second := align_spec (align 52 4 + (textBytes function).length)
  have third := align_spec (align (align 52 4 + (textBytes function).length) 4 + 32 + (stringTable (utf8Bytes function.name)).length +
    shstrtab.length)
  have strings := shstrtab_length
  constructor
  all_goals
    dsimp only [layoutOf, objectLayout]
    omega

theorem sectionsOf_fit (fits : (layoutOf function).sectionHeaders < 2 ^ 32) :
    ∀ raw ∈ sectionsOf function, ∀ n ∈ fields raw, n < 2 ^ 32 := by
  have placed := @layoutOf_placed function
  have text := placed.text
  have symtab := placed.symtab
  have strtab := placed.strtab
  have strings := placed.shstrtab
  have stop := placed.sectionHeaders
  have length := shstrtab_length
  simp only [sectionsOf, sectionTable, fields, List.mem_cons, List.not_mem_nil, or_false, forall_eq_or_imp, forall_eq]
  omega

theorem packSymbols_ok {textSize : Nat} (short : textSize < 2 ^ 32) : packSymbols textSize = .ok (symbolBytes textSize) := by
  have packed := @packWords_natural [1, 0, textSize] (by
    simp only [List.mem_cons, List.not_mem_nil, or_false, forall_eq_or_imp, forall_eq]
    omega)
  rw [packSymbols]
  exact bind_ok.mpr ⟨_, packed, rfl⟩

theorem buildReferenceObject_eq (buildable : Buildable function) (fits : (layoutOf function).sectionHeaders < 2 ^ 32) :
    buildReferenceObject function = .ok (referenceObject function) := by
  have stop := (@layoutOf_placed function).sectionHeaders
  have text : packWords (function.instructions.map (·.word)) = .ok (textBytes function) := by
    rw [packWords_ok (List.forall_mem_map.mpr buildable.words), textBytes, List.flatMap_map]
  have symbols := packSymbols_ok (show (textBytes function).length < 2 ^ 32 by omega)
  have header : packHeader (layoutOf function).sectionHeaders = .ok (headerBytes (layoutOf function).sectionHeaders) := by
    have packed := @packWords_natural [1, 0, 0, (layoutOf function).sectionHeaders, 0] (by
      simp only [List.mem_cons, List.not_mem_nil, or_false, forall_eq_or_imp, forall_eq]
      omega)
    rw [packHeader]
    exact bind_ok.mpr ⟨_, packed, rfl⟩
  have sections : packSections (sectionsOf function) = .ok ((sectionsOf function).flatMap sectionBytes) := by
    have packed : (sectionsOf function).mapM (fun raw => packWords ((fields raw).map Int.ofNat)) =
        .ok ((sectionsOf function).map sectionBytes) :=
      mapM_ok.mpr (List.forall₂_map_right_iff.mpr (List.forall₂_same.mpr fun raw member =>
        packWords_natural (sectionsOf_fit fits raw member)))
    rw [packSections, packed, List.flatMap_def]
    rfl
  have size : ((sectionsOf function).flatMap sectionBytes).length = 200 := rfl
  rw [buildReferenceObject]
  refine bind_ok.mpr ⟨(), raiseIf_ok.mpr buildable.nonempty, bind_ok.mpr ⟨(), ?_, ?_⟩⟩
  · exact requireContiguous_ok buildable.contiguous
  · refine bind_ok.mpr ⟨_, text, bind_ok.mpr ⟨(), raiseIf_ok.mpr buildable.named, bind_ok.mpr ⟨_, symbols, ?_⟩⟩⟩
    refine bind_ok.mpr ⟨_, header, bind_ok.mpr ⟨_, sections, ?_⟩⟩
    rw [size]
    rfl

/-- An object of 4 GiB or more has an offset that no field of the header takes. -/
theorem buildReferenceObject_error (buildable : Buildable function) (large : 2 ^ 32 ≤ (layoutOf function).sectionHeaders) :
    buildReferenceObject function = .error .structError := by
  have text : packWords (function.instructions.map (·.word)) = .ok (textBytes function) := by
    rw [packWords_ok (List.forall_mem_map.mpr buildable.words), textBytes, List.flatMap_map]
  have header : packHeader (layoutOf function).sectionHeaders = .error .structError := by
    have refused : packWords [1, 0, 0, ((layoutOf function).sectionHeaders : Int), 0] = .error .structError :=
      @packWords_error _ ((layoutOf function).sectionHeaders : Int) (by simp) (by exact_mod_cast large)
    rw [packHeader, refused]
    rfl
  rw [buildReferenceObject]
  refine bind_error.mpr (Or.inr ⟨(), raiseIf_ok.mpr buildable.nonempty, bind_error.mpr (Or.inr ⟨(), ?_, ?_⟩)⟩)
  · exact requireContiguous_ok buildable.contiguous
  · refine bind_error.mpr (Or.inr ⟨_, text, bind_error.mpr (Or.inr ⟨(), raiseIf_ok.mpr buildable.named, ?_⟩)⟩)
    by_cases long : 2 ^ 32 ≤ (textBytes function).length
    · have refused : packWords [1, 0, ((textBytes function).length : Int)] = .error .structError :=
        @packWords_error _ ((textBytes function).length : Int) (by simp) (by exact_mod_cast long)
      refine bind_error.mpr (Or.inl ?_)
      rw [packSymbols, refused]
      rfl
    · exact bind_error.mpr (Or.inr ⟨_, packSymbols_ok (not_le.mp long), bind_error.mpr (Or.inl header)⟩)

end Build

end Matching

end PspDisasm
