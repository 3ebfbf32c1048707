import PspDisasm.LibraryTables
import PspDisasm.Matching.ReferenceObject

namespace PspDisasm
open Foundations

namespace Matching

section Stored
variable {function : MatchFunction}

theorem sectionBytes_length (raw : RawSection) : (sectionBytes raw).length = 40 := rfl

theorem symbolBytes_length (textSize : Nat) : (symbolBytes textSize).length = 32 := rfl

theorem headerBytes_length (sectionHeaders : Nat) : (headerBytes sectionHeaders).length = 52 := rfl

theorem stringTable_length (symbolName : Bytes) : (stringTable symbolName).length = symbolName.length + 2 := by
  simp [stringTable]

theorem objectWrites_fit : ∀ w ∈ objectWrites function,
    w.stop ≤ (List.replicate ((layoutOf function).sectionHeaders + 200) (0 : UInt8)).length := by
  have placed := @layoutOf_placed function
  have text := placed.text
  have symtab := placed.symtab
  have strtab := placed.strtab
  have strings := placed.shstrtab
  have stop := placed.sectionHeaders
  have length := shstrtab_length
  have sections : ((sectionsOf function).flatMap sectionBytes).length = 200 := rfl
  rw [List.length_replicate]
  simp only [objectWrites, List.mem_cons, List.not_mem_nil, or_false, forall_eq_or_imp, forall_eq, Write.stop, sections,
    headerBytes_length, symbolBytes_length]
  omega

theorem objectWrites_apart : (objectWrites function).Pairwise Write.Apart := by
  have placed := @layoutOf_placed function
  have text := placed.text
  have symtab := placed.symtab
  have strtab := placed.strtab
  have strings := placed.shstrtab
  have stop := placed.sectionHeaders
  have length := shstrtab_length
  simp only [objectWrites, List.pairwise_cons, List.mem_cons, List.not_mem_nil, or_false, forall_eq_or_imp, forall_eq, Write.Apart,
    Write.stop, headerBytes_length, symbolBytes_length, List.Pairwise.nil, and_true, false_implies, implies_true]
  omega

theorem referenceObject_length : (referenceObject function).length = (layoutOf function).sectionHeaders + 200 := by
  rw [referenceObject, writeAll_length objectWrites_fit, List.length_replicate]

/-- Every part of the object stands where it was put. -/
theorem stands {w : Write} (listed : w ∈ objectWrites function) : slice (referenceObject function) w.start w.bytes.length = w.bytes :=
  writeAll_stands objectWrites_fit objectWrites_apart listed

theorem header_stored : slice (referenceObject function) 0 52 = headerBytes (layoutOf function).sectionHeaders :=
  @stands function ⟨0, _⟩ List.mem_cons_self

/-- A field of the header, read where the parser reads it. -/
theorem header_field {offset width value : Nat} (inside : offset + width ≤ 52)
    (stored : slice (headerBytes (layoutOf function).sectionHeaders) offset width = littleBytes width value)
    (fits : value < 256 ^ width) : wordAt .little (referenceObject function) offset width = value := by
  apply wordAt_stored ?_ fits
  rw [← stored, ← header_stored, slice_slice inside, Nat.zero_add]

theorem byteAt_header {i : Nat} {b : UInt8} (inside : i < 52)
    (stored : (headerBytes (layoutOf function).sectionHeaders)[i]? = some b) : byteAt (referenceObject function) i = .ok b := by
  rw [← header_stored, getElem?_slice inside, Nat.zero_add] at stored
  rw [byteAt, stored]

/-- The header of a reference object. -/
def objectHeader (sectionHeaders : Nat) : ElfHeader := ⟨1, 8, 1, 0, 0, sectionHeaders, 0, 52, 0, 0, 40, 5, 4⟩

theorem readElfHeader_referenceObject (fits : (layoutOf function).sectionHeaders < 2 ^ 32) :
    readElfHeader .little (referenceObject function) = .ok (objectHeader (layoutOf function).sectionHeaders) := by
  have length := @referenceObject_length function
  have stop := (@layoutOf_placed function).sectionHeaders
  rw [readElfHeader]
  refine bind_ok.mpr ⟨(), raiseIf_ok.mpr (by omega), ?_⟩
  dsimp only
  rw [@header_field function 0x10 2 1 (by decide) rfl (by decide), @header_field function 0x12 2 8 (by decide) rfl (by decide),
    @header_field function 0x14 4 1 (by decide) rfl (by decide), @header_field function 0x18 4 0 (by decide) rfl (by decide),
    @header_field function 0x1C 4 0 (by decide) rfl (by decide), @header_field function 0x20 4 _ (by decide) rfl fits,
    @header_field function 0x24 4 0 (by decide) rfl (by decide), @header_field function 0x28 2 52 (by decide) rfl (by decide),
    @header_field function 0x2A 2 0 (by decide) rfl (by decide), @header_field function 0x2C 2 0 (by decide) rfl (by decide),
    @header_field function 0x2E 2 40 (by decide) rfl (by decide), @header_field function 0x30 2 5 (by decide) rfl (by decide),
    @header_field function 0x32 2 4 (by decide) rfl (by decide)]
  rfl

theorem sections_stored : slice (referenceObject function) (layoutOf function).sectionHeaders 200 =
    (sectionsOf function).flatMap sectionBytes :=
  @stands function ⟨(layoutOf function).sectionHeaders, (sectionsOf function).flatMap sectionBytes⟩ (by simp [objectWrites])

theorem sectionsOf_inFile : ∀ raw ∈ sectionsOf function, raw.offset + raw.size ≤ (layoutOf function).sectionHeaders := by
  have placed := @layoutOf_placed function
  have text := placed.text
  have symtab := placed.symtab
  have strtab := placed.strtab
  have strings := placed.shstrtab
  have stop := placed.sectionHeaders
  have length := shstrtab_length
  simp only [sectionsOf, sectionTable, List.mem_cons, List.not_mem_nil, or_false, forall_eq_or_imp, forall_eq]
  omega

/-- A word of a section header, read where the parser reads it. -/
theorem section_field (fits : (layoutOf function).sectionHeaders < 2 ^ 32) {index k value : Nat} {raw : RawSection}
    (given : (sectionsOf function)[index]? = some raw) (field : (fields raw)[k]? = some value) :
    wordAt .little (referenceObject function) ((layoutOf function).sectionHeaders + index * 40 + 4 * k) 4 = value := by
  have listed := (List.getElem?_eq_some_iff.mp given).1
  have inside := (List.getElem?_eq_some_iff.mp field).1
  have rows : (sectionsOf function).length = 5 := rfl
  have columns : (fields raw).length = 10 := rfl
  apply wordAt_stored ?_ (sectionsOf_fit fits raw (List.mem_of_getElem? given) value (List.mem_of_getElem? field))
  have row := slice_flatMap sectionBytes_length given
  have cell := slice_flatMap (littleBytes_length 4) field
  rw [← sections_stored, slice_slice (by omega)] at row
  rw [← sectionBytes, ← row, slice_slice (by omega)] at cell
  rw [← cell, Nat.mul_comm index]

theorem readRawSection_referenceObject (fits : (layoutOf function).sectionHeaders < 2 ^ 32) {index : Nat} {raw : RawSection}
    (given : (sectionsOf function)[index]? = some raw) :
    readRawSection .little (referenceObject function) (objectHeader (layoutOf function).sectionHeaders) index = .ok raw := by
  have length := @referenceObject_length function
  have listed := (List.getElem?_eq_some_iff.mp given).1
  have rows : (sectionsOf function).length = 5 := rfl
  rw [readRawSection]
  dsimp only [objectHeader]
  refine bind_ok.mpr ⟨(), raiseIf_ok.mpr (by dsimp only [sectionHeaderSize]; omega), ?_⟩
  simp only [@section_field function fits index 0 _ _ given rfl, @section_field function fits index 1 _ _ given rfl,
    @section_field function fits index 2 _ _ given rfl, @section_field function fits index 3 _ _ given rfl,
    @section_field function fits index 4 _ _ given rfl, @section_field function fits index 5 _ _ given rfl,
    @section_field function fits index 6 _ _ given rfl, @section_field function fits index 7 _ _ given rfl,
    @section_field function fits index 8 _ _ given rfl, @section_field function fits index 9 _ _ given rfl]
  have inFile := sectionsOf_inFile raw (List.mem_of_getElem? given)
  split
  · exact bind_ok.mpr ⟨(), raiseIf_ok.mpr (by omega), rfl⟩
  · rfl

theorem sectionNames_stored : slice (referenceObject function) (layoutOf function).shstrtab 33 = shstrtab := by
  have held := @stands function ⟨(layoutOf function).shstrtab, shstrtab⟩ (by simp [objectWrites])
  rw [← shstrtab_length]
  exact held

/-- The parser finds the sections that the builder has written. -/
theorem parseElf32_referenceObject (fits : (layoutOf function).sectionHeaders < 2 ^ 32) :
    ∃ elf, parseElf32 (referenceObject function) = .ok elf ∧
      elf.sections = (sectionsOf function).mapIdx fun index raw => raw.named shstrtab index := by
  have length := @referenceObject_length function
  have stop := (@layoutOf_placed function).sectionHeaders
  have magic : slice (referenceObject function) 0 4 = [0x7F, 0x45, 0x4C, 0x46] := by
    rw [← @slice_slice (referenceObject function) 0 52 0 4 (by decide), header_stored]
    rfl
  have raws : (List.range 5).mapM (readRawSection .little (referenceObject function) (objectHeader (layoutOf function).sectionHeaders)) =
      .ok ((sectionsOf function).mapIdx fun _ raw => raw) :=
    @mapM_range_mapIdx _ _ _ _ (fun _ raw => raw) (sectionsOf function) fun i raw given => readRawSection_referenceObject fits given
  have table : (sectionsOf function).mapIdx (fun _ raw => raw) = sectionsOf function := rfl
  have names : sectionNameTable (referenceObject function) (sectionsOf function) 4 = .ok shstrtab := by
    rw [← sectionNames_stored, ← shstrtab_length]
    rfl
  have none : ∃ programHeaders, readProgramHeaders .little (referenceObject function)
      (objectHeader (layoutOf function).sectionHeaders) = .ok programHeaders := ⟨⟨[], .nil⟩, rfl⟩
  obtain ⟨programHeaders, read⟩ := none
  rw [table] at raws
  refine ⟨⟨objectHeader (layoutOf function).sectionHeaders, .little, programHeaders.val,
    (sectionsOf function).mapIdx fun index raw => raw.named shstrtab index, referenceObject function, programHeaders.property⟩, ?_, rfl⟩
  rw [parseElf32]
  refine bind_ok.mpr ⟨(), raiseIf_ok.mpr (by dsimp only [elfHeaderSize]; omega), ?_⟩
  refine bind_ok.mpr ⟨(), raiseIf_ok.mpr (not_not.mpr magic), ?_⟩
  refine bind_ok.mpr ⟨1, byteAt_header (by decide) rfl, bind_ok.mpr ⟨(), raiseIf_ok.mpr (by decide), ?_⟩⟩
  refine bind_ok.mpr ⟨1, byteAt_header (by decide) rfl, bind_ok.mpr ⟨.little, rfl, ?_⟩⟩
  refine bind_ok.mpr ⟨_, readElfHeader_referenceObject fits, bind_ok.mpr ⟨(), raiseIf_ok.mpr (by simp [objectHeader, elfHeaderSize]), ?_⟩⟩
  refine bind_ok.mpr ⟨(), rfl, bind_ok.mpr ⟨(), ?_, ?_⟩⟩
  · refine bind_ok.mpr ⟨(), raiseIf_ok.mpr (by simp [objectHeader, sectionHeaderSize]), raiseIf_ok.mpr ?_⟩
    dsimp only [objectHeader]
    omega
  · refine bind_ok.mpr ⟨programHeaders, read, bind_ok.mpr ⟨sectionsOf function, raws, ?_⟩⟩
    exact bind_ok.mpr ⟨shstrtab, names, rfl⟩

end Stored

structure ElfSymbol where
  name : Option String
  value : Nat
  size : Nat
  info : Nat
  other : Nat
  shndx : Nat
deriving DecidableEq

/-- An entry of a symbol table; its name ends at a NUL in the string table. -/
def readSymbol (data : Bytes) (symtab strtab : Section) (index : Nat) : ElfSymbol :=
  let offset := symtab.offset + index * 16
  let word k := wordAt .little data (offset + 4 * k) 4
  { name := decodeUtf8Strict (untilNul ((slice data strtab.offset strtab.size).drop (word 0)))
    value := word 1
    size := word 2
    info := wordAt .little data (offset + 12) 1
    other := wordAt .little data (offset + 13) 1
    shndx := wordAt .little data (offset + 14) 2 }

/-- The symbols of a symbol table, by the string table that it links to. -/
def readSymbols (data : Bytes) (elf : ElfImage) (symtab : Section) : List ElfSymbol :=
  match elf.sections[symtab.link]? with
  | none => []
  | some strtab => (List.range (symtab.size / 16)).map (readSymbol data symtab strtab)

def nullSymbol : ElfSymbol := ⟨some "", 0, 0, 0, 0, 0⟩

/-- What the parser and a symbol reader find in an object of a function. -/
structure ReadsBack (function : MatchFunction) (data : Bytes) (elf : ElfImage) : Prop where
  names : elf.sections.map (·.name) = ["", ".text", ".symtab", ".strtab", ".shstrtab"]
  null : ∃ first, elf.sections.head? = some first ∧ first.type = 0 ∧ first.size = 0
  inFile : ∀ sec ∈ elf.sections, sec.offset + sec.size ≤ data.length
  apart : elf.sections.tail.Pairwise fun first second => first.offset + first.size ≤ second.offset
  text : ∃ text ∈ elf.sections, text.name = ".text" ∧ text.size = 4 * function.instructions.length ∧
    (∀ (i : Nat) instruction, function.instructions[i]? = some instruction →
      (wordAt .little data (text.offset + 4 * i) 4 : Int) = instruction.word) ∧
    ∃ symtab ∈ elf.sections, symtab.name = ".symtab" ∧
      readSymbols data elf symtab = [nullSymbol, ⟨some function.name, 0, text.size, 18, 0, 1⟩]

section Symbols
variable {function : MatchFunction}

theorem text_stored : slice (referenceObject function) (layoutOf function).text (textBytes function).length = textBytes function :=
  @stands function ⟨(layoutOf function).text, textBytes function⟩ (by simp [objectWrites])

theorem symtab_stored : slice (referenceObject function) (layoutOf function).symtab 32 = symbolBytes (textBytes function).length :=
  @stands function ⟨(layoutOf function).symtab, symbolBytes (textBytes function).length⟩ (by simp [objectWrites])

theorem strtab_stored : slice (referenceObject function) (layoutOf function).strtab (stringTable (utf8Bytes function.name)).length =
    stringTable (utf8Bytes function.name) :=
  @stands function ⟨(layoutOf function).strtab, stringTable (utf8Bytes function.name)⟩ (by simp [objectWrites])

theorem text_word (buildable : Buildable function) {i : Nat} {instruction : MatchInstruction}
    (given : function.instructions[i]? = some instruction) :
    (wordAt .little (referenceObject function) ((layoutOf function).text + 4 * i) 4 : Int) = instruction.word := by
  have inside := (List.getElem?_eq_some_iff.mp given).1
  have length := @textBytes_length function
  have word := @slice_flatMap _ (fun instruction : MatchInstruction => littleBytes 4 instruction.word.toNat) 4
    (fun _ => littleBytes_length 4 _) _ _ _ given
  rw [← textBytes, ← text_stored, slice_slice (by omega)] at word
  obtain ⟨lower, upper⟩ := buildable.words instruction (List.mem_of_getElem? given)
  rw [wordAt_stored word (by omega)]
  omega

/-- The name of the function, up to the NUL that the builder writes behind it. -/
theorem symbol_name (free : 0 ∉ utf8Bytes function.name) :
    decodeUtf8Strict (untilNul ((slice (referenceObject function) (layoutOf function).strtab
      (stringTable (utf8Bytes function.name)).length).drop 1)) = some function.name := by
  have rest : (stringTable (utf8Bytes function.name)).drop 1 = utf8Bytes function.name ++ [0] := rfl
  have cut : ∀ byte ∈ [(0 : UInt8)].head?, byte = 0 := fun byte same => (Option.some.inj same).symm
  rw [strtab_stored, rest, untilNul_append free cut, decodeUtf8Strict_utf8Bytes]

def symbolRecord (nameOffset : Nat) (symbol : ElfSymbol) : Bytes :=
  [nameOffset, symbol.value, symbol.size].flatMap (littleBytes 4) ++ littleBytes 1 symbol.info ++ littleBytes 1 symbol.other ++
    littleBytes 2 symbol.shndx

/-- The numbers of a symbol are in the ranges of their fields. -/
structure ElfSymbol.Fits (symbol : ElfSymbol) : Prop where
  value : symbol.value < 256 ^ 4
  size : symbol.size < 256 ^ 4
  info : symbol.info < 256 ^ 1
  other : symbol.other < 256 ^ 1
  shndx : symbol.shndx < 256 ^ 2

theorem readSymbol_stored {data : Bytes} {symtab strtab : Section} {index nameOffset : Nat} {symbol : ElfSymbol}
    (stored : slice data (symtab.offset + index * 16) 16 = symbolRecord nameOffset symbol) (start : nameOffset < 256 ^ 4)
    (fits : symbol.Fits)
    (name : decodeUtf8Strict (untilNul ((slice data strtab.offset strtab.size).drop nameOffset)) = symbol.name) :
    readSymbol data symtab strtab index = symbol := by
  have field {offset width value : Nat} (inside : offset + width ≤ 16)
      (part : slice (symbolRecord nameOffset symbol) offset width = littleBytes width value) (small : value < 256 ^ width) :
      wordAt .little data (symtab.offset + index * 16 + offset) width = value := by
    apply wordAt_stored ?_ small
    rw [← part, ← stored, slice_slice inside]
  rw [readSymbol]
  dsimp only
  rw [@field (4 * 0) 4 nameOffset (by decide) rfl start, @field (4 * 1) 4 _ (by decide) rfl fits.value,
    @field (4 * 2) 4 _ (by decide) rfl fits.size, @field 12 1 _ (by decide) rfl fits.info, @field 13 1 _ (by decide) rfl fits.other,
    @field 14 2 _ (by decide) rfl fits.shndx, name]

theorem readSymbols_referenceObject (buildable : Buildable function) (short : (textBytes function).length < 2 ^ 32) {elf : ElfImage}
    (sections : elf.sections = (sectionsOf function).mapIdx fun index raw => raw.named shstrtab index) {symtab : Section}
    (given : elf.sections[2]? = some symtab) :
    readSymbols (referenceObject function) elf symtab = [nullSymbol, ⟨some function.name, 0, (textBytes function).length, 18, 0, 1⟩] := by
  rw [sections] at given
  cases given
  have linked : elf.sections[3]? = some (RawSection.named
      ⟨15, 3, 0, 0, (layoutOf function).strtab, (stringTable (utf8Bytes function.name)).length, 0, 0, 1, 0⟩ shstrtab 3) := by
    rw [sections]
    rfl
  have empty : decodeUtf8Strict (untilNul ((slice (referenceObject function) (layoutOf function).strtab
      (stringTable (utf8Bytes function.name)).length).drop 0)) = some "" := by
    rw [strtab_stored]
    rfl
  have first : slice (referenceObject function) ((layoutOf function).symtab + 0 * 16) 16 = symbolRecord 0 nullSymbol := by
    rw [← @slice_slice (referenceObject function) _ 32 _ 16 (by decide), symtab_stored]
    rfl
  have second : slice (referenceObject function) ((layoutOf function).symtab + 1 * 16) 16 =
      symbolRecord 1 ⟨some function.name, 0, (textBytes function).length, 18, 0, 1⟩ := by
    rw [← @slice_slice (referenceObject function) _ 32 _ 16 (by decide), symtab_stored]
    rfl
  rw [readSymbols]
  dsimp only [RawSection.named]
  rw [linked]
  refine congrArg₂ (fun one two => [one, two]) ?_ ?_
  · exact readSymbol_stored first (by decide) ⟨by decide, by decide, by decide, by decide, by decide⟩ empty
  · have fits : (⟨some function.name, 0, (textBytes function).length, 18, 0, 1⟩ : ElfSymbol).Fits :=
      ⟨Nat.two_pow_pos 32, short, show 18 < 256 from by decide, Nat.two_pow_pos 8, show 1 < 65536 from by decide⟩
    exact readSymbol_stored second (by decide) fits (symbol_name buildable.named)

end Symbols

section Objects
variable {function : MatchFunction}

theorem named_name (raw : RawSection) (index : Nat) : (raw.named shstrtab index).name = readCstring shstrtab raw.nameOffset := by
  have filled : ¬shstrtab.isEmpty = true := by decide +kernel
  rw [RawSection.named, if_neg filled]

theorem referenceObject_readsBack (buildable : Buildable function) (fits : (layoutOf function).sectionHeaders < 2 ^ 32) :
    ∃ elf, parseElf32 (referenceObject function) = .ok elf ∧ ReadsBack function (referenceObject function) elf := by
  obtain ⟨elf, parsed, sections⟩ := parseElf32_referenceObject fits
  have placed := @layoutOf_placed function
  have text := placed.text
  have symtab := placed.symtab
  have strtab := placed.strtab
  have strings := placed.shstrtab
  have stop := placed.sectionHeaders
  have length := shstrtab_length
  have whole := @referenceObject_length function
  have listed : elf.sections = [RawSection.named ⟨0, 0, 0, 0, 0, 0, 0, 0, 0, 0⟩ shstrtab 0,
      RawSection.named ⟨1, 1, 6, 0, (layoutOf function).text, (textBytes function).length, 0, 0, 4, 0⟩ shstrtab 1,
      RawSection.named ⟨7, 2, 0, 0, (layoutOf function).symtab, 32, 3, 1, 4, 16⟩ shstrtab 2,
      RawSection.named ⟨15, 3, 0, 0, (layoutOf function).strtab, (stringTable (utf8Bytes function.name)).length, 0, 0, 1, 0⟩ shstrtab 3,
      RawSection.named ⟨23, 3, 0, 0, (layoutOf function).shstrtab, shstrtab.length, 0, 0, 1, 0⟩ shstrtab 4] := sections
  refine ⟨elf, parsed, ?_, ?_, ?_, ?_, ?_⟩
  · rw [listed]
    simp only [List.map_cons, List.map_nil, named_name]
    decide +kernel
  · rw [listed]
    exact ⟨_, rfl, rfl, rfl⟩
  · rw [listed]
    simp only [List.mem_cons, List.not_mem_nil, or_false, forall_eq_or_imp, forall_eq, RawSection.named]
    omega
  · rw [listed]
    simp only [List.tail_cons, List.pairwise_cons, List.mem_cons, List.not_mem_nil, or_false, forall_eq_or_imp, forall_eq,
      RawSection.named, List.Pairwise.nil, and_true, false_implies, implies_true]
    omega
  · refine ⟨RawSection.named ⟨1, 1, 6, 0, (layoutOf function).text, (textBytes function).length, 0, 0, 4, 0⟩ shstrtab 1, ?_, ?_,
      textBytes_length, fun i instruction given => text_word buildable given,
      RawSection.named ⟨7, 2, 0, 0, (layoutOf function).symtab, 32, 3, 1, 4, 16⟩ shstrtab 2, ?_, ?_, ?_⟩
    · simp [listed]
    · exact (named_name _ _).trans (show readCstring shstrtab 1 = ".text" by decide +kernel)
    · simp [listed]
    · exact (named_name _ _).trans (show readCstring shstrtab 7 = ".symtab" by decide +kernel)
    · exact readSymbols_referenceObject buildable (by omega) sections (by rw [listed]; rfl)

/-- The section headers begin at the next word behind the strings. -/
theorem sectionHeaders_lt : (layoutOf function).sectionHeaders < 2 ^ 32 ↔
    119 + 4 * function.instructions.length + (utf8Bytes function.name).length ≤ 2 ^ 32 - 4 := by
  have words := @textBytes_length function
  have strings := stringTable_length (utf8Bytes function.name)
  have placed := @layoutOf_placed function
  have shstr := placed.shstrtab
  have next : (layoutOf function).sectionHeaders = align ((layoutOf function).shstrtab + shstrtab.length) 4 := rfl
  have rounded := align_spec ((layoutOf function).shstrtab + shstrtab.length)
  rw [shstrtab_length] at next rounded
  omega

/-- An object below 4 GiB is written and read back as it was meant; a larger one is refused. -/
theorem buildReferenceObject_readsBack (buildable : Buildable function) :
    (119 + 4 * function.instructions.length + (utf8Bytes function.name).length ≤ 2 ^ 32 - 4 →
      ∃ data elf, buildReferenceObject function = .ok data ∧ parseElf32 data = .ok elf ∧ ReadsBack function data elf) ∧
    (¬119 + 4 * function.instructions.length + (utf8Bytes function.name).length ≤ 2 ^ 32 - 4 →
      buildReferenceObject function = .error .structError) := by
  rw [← sectionHeaders_lt]
  refine ⟨fun fits => ?_, fun large => buildReferenceObject_error buildable (not_lt.mp large)⟩
  obtain ⟨elf, parsed, back⟩ := referenceObject_readsBack buildable fits
  exact ⟨_, elf, buildReferenceObject_eq buildable fits, parsed, back⟩

/-- A single return, under the name `f`. -/
def returnFunction : MatchFunction :=
  ⟨"f", 0x08804000, 4, ".text", 1, [⟨0x08804000, 0x03E00008, "jr $ra", true, true⟩]⟩

theorem returnFunction_buildable : Buildable returnFunction := by
  refine ⟨List.cons_ne_nil _ _, fun i instruction given => ?_, List.forall_mem_singleton.mpr (by decide), by decide⟩
  have first : i = 0 := Nat.lt_one_iff.mp (List.getElem?_eq_some_iff.mp given).1
  cases first
  cases given
  rfl

theorem returnFunction_readsBack : ∃ data elf, buildReferenceObject returnFunction = .ok data ∧ parseElf32 data = .ok elf ∧
    ReadsBack returnFunction data elf :=
  (buildReferenceObject_readsBack returnFunction_buildable).1 (by decide +kernel)

/-- The same under a name of `length` letters. -/
def longNamed (length : Nat) : MatchFunction := { returnFunction with name := String.ofList (List.replicate length 'a') }

theorem utf8Bytes_replicate (length : Nat) : utf8Bytes (String.ofList (List.replicate length 'a')) = List.replicate length 97 := by
  rw [utf8Bytes, String.toByteArray_ofList]
  induction length with
  | zero => rfl
  | succ length ih =>
    rw [List.replicate_succ, List.utf8Encode_cons, ByteArray.data_append, Array.toList_append, ih]
    rfl

theorem longNamed_refused : Buildable (longNamed (2 ^ 32)) ∧ ∀ data, buildReferenceObject (longNamed (2 ^ 32)) ≠ .ok data := by
  have bytes := utf8Bytes_replicate (2 ^ 32)
  have buildable : Buildable (longNamed (2 ^ 32)) := by
    refine ⟨returnFunction_buildable.nonempty, returnFunction_buildable.contiguous, returnFunction_buildable.words, ?_⟩
    rw [longNamed, bytes]
    exact fun zero => absurd (List.eq_of_mem_replicate zero) (by decide)
  have large : 2 ^ 32 ≤ (layoutOf (longNamed (2 ^ 32))).sectionHeaders := by
    have length : (utf8Bytes (longNamed (2 ^ 32)).name).length = 2 ^ 32 := by
      rw [longNamed, bytes, List.length_replicate]
    have short := mt sectionHeaders_lt.mp (fun fits : 119 + 4 * (longNamed (2 ^ 32)).instructions.length +
      (utf8Bytes (longNamed (2 ^ 32)).name).length ≤ 2 ^ 32 - 4 => by omega)
    omega
  refine ⟨buildable, fun data built => ?_⟩
  rw [buildReferenceObject_error buildable large] at built
  cases built

end Objects

end Matching

end PspDisasm
