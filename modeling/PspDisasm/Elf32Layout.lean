import PspDisasm.Elf32
import PspDisasm.Foundations.FieldRecords

namespace PspDisasm
open Foundations

namespace Elf32

/-- The numbers of an ELF header behind its identification. -/
def headerFields (header : ElfHeader) : List Field := [
  ⟨2, header.fileType⟩, ⟨2, header.machine⟩, ⟨4, header.version⟩, ⟨4, header.entry⟩, ⟨4, header.phoff⟩, ⟨4, header.shoff⟩,
  ⟨4, header.flags⟩, ⟨2, header.ehsize⟩, ⟨2, header.phentsize⟩, ⟨2, header.phnum⟩, ⟨2, header.shentsize⟩, ⟨2, header.shnum⟩,
  ⟨2, header.shstrndx⟩]

def programFields (ph : ProgramHeader) : List Field := [
  ⟨4, ph.type⟩, ⟨4, ph.offset⟩, ⟨4, ph.vaddr⟩, ⟨4, ph.paddr⟩, ⟨4, ph.filesz⟩, ⟨4, ph.memsz⟩, ⟨4, ph.flags⟩, ⟨4, ph.align⟩]

def sectionFields (raw : RawSection) : List Field := [
  ⟨4, raw.nameOffset⟩, ⟨4, raw.type⟩, ⟨4, raw.flags⟩, ⟨4, raw.addr⟩, ⟨4, raw.offset⟩, ⟨4, raw.size⟩, ⟨4, raw.link⟩, ⟨4, raw.info⟩,
  ⟨4, raw.addralign⟩, ⟨4, raw.entsize⟩]

/-- A table of records lies in the file, with room for each of them. -/
def TableFits (data : Bytes) (offset entrySize count minimum : Nat) : Prop :=
  count = 0 ∨ minimum ≤ entrySize ∧ offset + entrySize * count ≤ data.length

section Reads
variable {order : Endianness} {data : Bytes} {header : ElfHeader} {index : Nat}

theorem readElfHeader_ok : readElfHeader order data = .ok header ↔ Stored order data 0x10 (headerFields header) := by
  rw [stored_iff]
  simp only [readElfHeader, requireBuffer, bind_ok, raiseIf_ok, not_lt, exists_const]
  refine and_congr Iff.rfl ?_
  cases header
  simp only [headerFields, List.map, readFields, List.cons.injEq, and_true, wordAt, Nat.cast_inj, pure, Except.pure, Except.ok.injEq,
    ElfHeader.mk.injEq, Nat.reduceAdd]

/-- The part of a reader that checks the range of what it has read. -/
theorem checked_ok {α : Type} {found result : α} {skipped : Prop} [Decidable skipped] {offset size : Nat} {what : String} :
    (if ¬skipped then do requireRange data offset size what; return found else return found : Except Failure α) = .ok result ↔
      found = result ∧ (skipped ∨ offset + size ≤ data.length) := by
  by_cases skip : skipped
  · simp [skip, pure, Except.pure]
  · simp only [skip, not_false_eq_true, if_true, requireRange, bind_ok, raiseIf_ok, exists_const, false_or, pure, Except.pure,
      Except.ok.injEq]
    constructor
    · rintro ⟨inside, same⟩
      exact ⟨same, by omega⟩
    · rintro ⟨same, inside⟩
      exact ⟨by omega, same⟩

theorem readProgramHeader_ok {ph : ProgramHeader} : readProgramHeader order data header index = .ok ph ↔
    ph.index = index ∧ Stored order data (header.phoff + index * header.phentsize) (programFields ph) ∧
      (ph.filesz = 0 ∨ ph.offset + ph.filesz ≤ data.length) := by
  rw [stored_iff]
  simp only [readProgramHeader, requireBuffer, bind_ok, raiseIf_ok, not_lt, exists_const, ne_eq]
  rw [checked_ok]
  cases ph
  simp only [programFields, List.map, readFields, List.cons.injEq, and_true, wordAt, Nat.cast_inj, ProgramHeader.mk.injEq, Nat.add_assoc,
    Nat.reduceMul, Nat.reduceAdd, Nat.add_zero]
  constructor
  · rintro ⟨within, ⟨named, type, offset, vaddr, paddr, filesz, rest⟩, inFile⟩
    exact ⟨named.symm, ⟨within, type, offset, vaddr, paddr, filesz, rest⟩, by rwa [offset, filesz] at inFile⟩
  · rintro ⟨named, ⟨within, type, offset, vaddr, paddr, filesz, rest⟩, inFile⟩
    exact ⟨within, ⟨named.symm, type, offset, vaddr, paddr, filesz, rest⟩, by rwa [offset, filesz]⟩

theorem readRawSection_ok {raw : RawSection} : readRawSection order data header index = .ok raw ↔
    Stored order data (header.shoff + index * header.shentsize) (sectionFields raw) ∧
      (raw.size = 0 ∨ raw.type = shtNobits ∨ raw.offset + raw.size ≤ data.length) := by
  rw [stored_iff]
  simp only [readRawSection, requireBuffer, bind_ok, raiseIf_ok, not_lt, exists_const, ne_eq, ← not_or]
  rw [checked_ok]
  cases raw
  simp only [sectionFields, List.map, readFields, List.cons.injEq, and_true, wordAt, Nat.cast_inj, RawSection.mk.injEq, Nat.add_assoc,
    Nat.reduceMul, Nat.reduceAdd, Nat.add_zero, or_assoc]
  constructor
  · rintro ⟨within, ⟨name, type, flags, addr, offset, size, rest⟩, inFile⟩
    exact ⟨⟨within, name, type, flags, addr, offset, size, rest⟩, by rwa [type, offset, size] at inFile⟩
  · rintro ⟨⟨within, name, type, flags, addr, offset, size, rest⟩, inFile⟩
    exact ⟨within, ⟨name, type, flags, addr, offset, size, rest⟩, by rwa [type, offset, size]⟩

theorem requireTable_ok {offset entrySize count minimum : Nat} {what : String} {done : Unit} :
    requireTable data offset entrySize count minimum what = .ok done ↔ TableFits data offset entrySize count minimum := by
  unfold requireTable TableFits
  by_cases empty : count = 0
  · simp [empty]
  · simp only [empty, if_false, requireRange, bind_ok, raiseIf_ok, exists_const, false_or]
    omega

/-- Something is read of each position just when every item is what is read of its own position. -/
theorem mapM_range_ok {α : Type} {read : Nat → Except Failure α} {count : Nat} {items : List α} :
    (List.range count).mapM read = .ok items ↔ items.length = count ∧ ∀ i item, items[i]? = some item → read i = .ok item := by
  rw [mapM_ok, List.forall₂_iff_get]
  constructor
  · rintro ⟨length, each⟩
    rw [List.length_range] at length
    refine ⟨length.symm, fun i item found => ?_⟩
    obtain ⟨inside, rfl⟩ := List.getElem?_eq_some_iff.mp found
    simpa using each i (by rw [List.length_range]; omega) inside
  · rintro ⟨length, each⟩
    refine ⟨by rw [List.length_range, length], fun i listed inside => ?_⟩
    simpa using each i _ (List.getElem?_eq_getElem inside)

theorem readProgramHeaders_iff {found : { programHeaders : List ProgramHeader // Numbered programHeaders }} :
    readProgramHeaders order data header = .ok found ↔
      found.val.length = header.phnum ∧ ∀ i ph, found.val[i]? = some ph →
        Stored order data (header.phoff + i * header.phentsize) (programFields ph) ∧ (ph.filesz = 0 ∨ ph.offset + ph.filesz ≤ data.length) := by
  have mapped : readProgramHeaders order data header = .ok found ↔
      (List.range header.phnum).mapM (readProgramHeader order data header) = .ok found.val := by
    refine ⟨readProgramHeaders_ok, fun read => ?_⟩
    unfold readProgramHeaders
    split
    · rename_i failed
      cases failed.symm.trans read
    · rename_i programHeaders same
      exact congrArg Except.ok (Subtype.ext (Except.ok.inj (same.symm.trans read)))
  rw [mapped, mapM_range_ok]
  refine and_congr_right fun _ => forall₂_congr fun i ph => ?_
  rw [readProgramHeader_ok]
  exact ⟨fun stored listed => (stored listed).2, fun stored listed => ⟨found.property i ph listed, stored listed⟩⟩

end Reads

/-- The bytes of the section names, where there are any. -/
def NameTable (data : Bytes) (raws : List RawSection) (shstrndx : Nat) (names : Bytes) : Prop :=
  (raws = [] ∨ shstrndx = 0) ∧ names = [] ∨
    raws ≠ [] ∧ shstrndx ≠ 0 ∧ ∃ entry, raws[shstrndx]? = some entry ∧ entry.type ≠ shtNobits ∧ names = slice data entry.offset entry.size

/-- The byte of the identification that tells the byte order. -/
def encodingByte : Endianness → UInt8
  | .little => 1
  | .big => 2

/-- A file is the encoding of an image: its header and the records of its tables spell what the image says, in the byte
order that it names, and what they refer to lies in the file. -/
structure Encodes (data : Bytes) (elf : ElfImage) : Prop where
  rawData : elf.rawData = data
  whole : elfHeaderSize ≤ data.length
  magic : slice data 0 4 = [0x7F, 0x45, 0x4C, 0x46]
  elfClass : data[4]? = some 1
  encoding : data[5]? = some (encodingByte elf.endianness)
  header : Stored elf.endianness data 0x10 (headerFields elf.header)
  headerSize : elf.header.ehsize = 0 ∨ elfHeaderSize ≤ elf.header.ehsize
  programTable : TableFits data elf.header.phoff elf.header.phentsize elf.header.phnum programHeaderSize
  sectionTable : TableFits data elf.header.shoff elf.header.shentsize elf.header.shnum sectionHeaderSize
  programCount : elf.programHeaders.length = elf.header.phnum
  programs : ∀ i ph, elf.programHeaders[i]? = some ph →
    Stored elf.endianness data (elf.header.phoff + i * elf.header.phentsize) (programFields ph) ∧
      (ph.filesz = 0 ∨ ph.offset + ph.filesz ≤ data.length)
  sections : ∃ raws names, raws.length = elf.header.shnum ∧ NameTable data raws elf.header.shstrndx names ∧
    elf.sections = raws.mapIdx (fun i raw => raw.named names i) ∧
    ∀ i raw, raws[i]? = some raw →
      Stored elf.endianness data (elf.header.shoff + i * elf.header.shentsize) (sectionFields raw) ∧
        (raw.size = 0 ∨ raw.type = shtNobits ∨ raw.offset + raw.size ≤ data.length)

section Parse
variable {data : Bytes} {elf : ElfImage}

theorem sectionNameTable_ok {raws : List RawSection} {shstrndx : Nat} {names : Bytes} :
    sectionNameTable data raws shstrndx = .ok names ↔ NameTable data raws shstrndx names := by
  unfold sectionNameTable NameTable
  by_cases unnamed : raws = [] ∨ shstrndx = 0
  · have none : raws.isEmpty = true ∨ shstrndx = 0 := unnamed.imp_left List.isEmpty_iff.mpr
    have some : ¬(raws ≠ [] ∧ shstrndx ≠ 0) := fun named => unnamed.elim named.1 named.2
    rw [if_pos none]
    constructor
    · rintro ⟨⟩
      exact Or.inl ⟨unnamed, rfl⟩
    · rintro (⟨_, rfl⟩ | ⟨listed, index, _⟩)
      · rfl
      · exact absurd ⟨listed, index⟩ some
  · obtain ⟨listed, index⟩ := not_or.mp unnamed
    rw [if_neg (by simp [listed, index])]
    cases raws[shstrndx]? with
    | none => simp [listed, index]
    | some entry =>
      by_cases nobits : entry.type = shtNobits
      · simp [listed, index, nobits]
      · simp only [nobits, if_false, listed, index, Except.ok.injEq, Option.some.injEq, exists_eq_left', ne_eq, not_false_eq_true, true_and,
          or_self, false_and, false_or]
        exact eq_comm

theorem elfDataEncoding_ok {encoding : UInt8} {order : Endianness} :
    elfDataEncoding encoding = .ok order ↔ encoding = encodingByte order := by
  unfold elfDataEncoding
  by_cases little : encoding = 1
  · cases order <;> simp [little, encodingByte]
  · by_cases big : encoding = 2
    · cases order <;> simp [big, encodingByte]
    · cases order <;> simp [little, big, encodingByte]

theorem byteAt_ok {i : Nat} {b : UInt8} : byteAt data i = .ok b ↔ data[i]? = some b := by
  unfold byteAt
  cases data[i]? <;> simp

/-- The parser accepts just the files that are the encoding of an image, and returns this image. -/
theorem parseElf32_iff : parseElf32 data = .ok elf ↔ Encodes data elf := by
  simp only [parseElf32, bind_ok, raiseIf_ok, requireRange, exists_const, byteAt_ok, elfDataEncoding_ok, readElfHeader_ok,
    requireTable_ok, readProgramHeaders_iff, mapM_range_ok, readRawSection_ok, sectionNameTable_ok]
  constructor
  · rintro ⟨whole, magic, _, elfClass, class32, _, encoding, order, rfl, header, headerStored, headerSize, programTable, sectionTable,
      ⟨programs, numbered⟩, ⟨programCount, programsStored⟩, raws, ⟨sectionCount, sectionsStored⟩, names, named, returned⟩
    cases returned
    cases not_not.mp class32
    exact {
      rawData := rfl, whole := by omega, magic := not_not.mp magic, elfClass, encoding, header := headerStored
      headerSize := by
        dsimp only
        omega
      programTable, sectionTable, programCount, programs := programsStored
      sections := ⟨raws, names, sectionCount, named, rfl, sectionsStored⟩ }
  · intro encodes
    obtain ⟨header, order, programs, sections, rawData, numbered⟩ := elf
    obtain ⟨rfl, whole, magic, elfClass, encoding, headerStored, headerSize, programTable, sectionTable, programCount, programsStored, raws,
      names, sectionCount, named, rfl, sectionsStored⟩ := encodes
    dsimp only at *
    exact ⟨by omega, not_not.mpr magic, 1, elfClass, not_not.mpr rfl, _, encoding, order, rfl, header, headerStored, by omega, programTable,
      sectionTable, ⟨programs, numbered⟩, ⟨programCount, programsStored⟩, raws, ⟨sectionCount, sectionsStored⟩, names, named, rfl⟩

end Parse

/-- An image as a linker plans it: the rest of the identification, the header, the two tables, and the bytes of the section
names with the name of each section. -/
structure ImagePlan where
  order : Endianness
  identification : Bytes
  header : ElfHeader
  programs : List ProgramHeader
  sections : List (RawSection × Bytes)
  names : Bytes
  identified : identification.length = 10
  numbered : Numbered programs

namespace ImagePlan

def head (plan : ImagePlan) : Bytes :=
  [0x7F, 0x45, 0x4C, 0x46, 1, encodingByte plan.order] ++ plan.identification ++ packFields plan.order (headerFields plan.header)

def programWrites (plan : ImagePlan) : List Write := plan.programs.mapIdx fun i ph =>
  ⟨plan.header.phoff + i * plan.header.phentsize, packFields plan.order (programFields ph)⟩

def sectionWrites (plan : ImagePlan) : List Write := plan.sections.mapIdx fun i item =>
  ⟨plan.header.shoff + i * plan.header.shentsize, packFields plan.order (sectionFields item.1)⟩

/-- The section whose contents are the names, if there is one. -/
def nameSection (plan : ImagePlan) : Option RawSection :=
  if plan.header.shstrndx = 0 then none else (plan.sections[plan.header.shstrndx]?).map Prod.fst

/-- The parts of the image, each with the place where it goes. -/
def writes (plan : ImagePlan) : List Write :=
  ⟨0, plan.head⟩ :: (plan.programWrites ++ (plan.sectionWrites ++
    plan.nameSection.toList.map fun raw => ⟨raw.offset, plan.names⟩))

/-- What the parser is to find. -/
def image (plan : ImagePlan) (data : Bytes) : ElfImage where
  header := plan.header
  endianness := plan.order
  programHeaders := plan.programs
  sections := plan.sections.mapIdx fun i item => { item.1.named plan.names i with name := decodeUtf8 item.2 }
  rawData := data
  numbered := plan.numbered

/-- The numbers of the plan fit into their fields and agree with each other, and the name of each section is to be found
among the names. -/
structure Sound (plan : ImagePlan) : Prop where
  header : ∀ field ∈ headerFields plan.header, field.Fits
  headerSize : plan.header.ehsize = 0 ∨ elfHeaderSize ≤ plan.header.ehsize
  programs : ∀ ph ∈ plan.programs, ∀ field ∈ programFields ph, field.Fits
  programCount : plan.header.phnum = plan.programs.length
  programSize : plan.programs = [] ∨ programHeaderSize ≤ plan.header.phentsize
  sections : ∀ item ∈ plan.sections, ∀ field ∈ sectionFields item.1, field.Fits
  sectionCount : plan.header.shnum = plan.sections.length
  sectionSize : plan.sections = [] ∨ sectionHeaderSize ≤ plan.header.shentsize
  nameSection : plan.sections = [] ∨ plan.header.shstrndx = 0 ∨
    ∃ raw, plan.nameSection = some raw ∧ raw.type ≠ shtNobits ∧ raw.size = plan.names.length
  noNames : plan.nameSection = none → plan.names = []
  named : ∀ item ∈ plan.sections, plan.names = [] ∧ item.2 = [] ∨
    0 ∉ item.2 ∧ ∃ rest, plan.names.drop item.1.nameOffset = item.2 ++ 0 :: rest

/-- The plan can be written into a buffer: its parts do not meet, and what it refers to lies in the buffer. -/
structure Fits (plan : ImagePlan) (buffer : Bytes) : Prop where
  inside : ∀ w ∈ plan.writes, w.stop ≤ buffer.length
  apart : plan.writes.Pairwise Write.Apart
  programTable : plan.header.phoff + plan.header.phentsize * plan.header.phnum ≤ buffer.length
  sectionTable : plan.header.shoff + plan.header.shentsize * plan.header.shnum ≤ buffer.length
  programs : ∀ ph ∈ plan.programs, ph.filesz = 0 ∨ ph.offset + ph.filesz ≤ buffer.length
  sections : ∀ item ∈ plan.sections, item.1.size = 0 ∨ item.1.type = shtNobits ∨ item.1.offset + item.1.size ≤ buffer.length

/-- A file has what the plan says where the plan says it. What it has elsewhere is open. -/
structure LaidOut (plan : ImagePlan) (data : Bytes) : Prop where
  whole : 52 ≤ data.length
  head : slice data 0 52 = plan.head
  programTable : plan.header.phoff + plan.header.phentsize * plan.header.phnum ≤ data.length
  sectionTable : plan.header.shoff + plan.header.shentsize * plan.header.shnum ≤ data.length
  programs : ∀ i ph, plan.programs[i]? = some ph →
    Stored plan.order data (plan.header.phoff + i * plan.header.phentsize) (programFields ph) ∧
      (ph.filesz = 0 ∨ ph.offset + ph.filesz ≤ data.length)
  sections : ∀ i item, plan.sections[i]? = some item →
    Stored plan.order data (plan.header.shoff + i * plan.header.shentsize) (sectionFields item.1) ∧
      (item.1.size = 0 ∨ item.1.type = shtNobits ∨ item.1.offset + item.1.size ≤ data.length)
  names : ∀ raw, plan.nameSection = some raw → slice data raw.offset plan.names.length = plan.names

section Writing
variable {plan : ImagePlan} {buffer data : Bytes}

theorem head_length (plan : ImagePlan) : plan.head.length = 52 := by
  have fields : recordWidth (headerFields plan.header) = 36 := rfl
  simp [head, packFields_length, plan.identified, fields]

theorem head_fields (plan : ImagePlan) : plan.head.drop 16 = packFields plan.order (headerFields plan.header) := by
  have length : ([0x7F, 0x45, 0x4C, 0x46, 1, encodingByte plan.order] ++ plan.identification).length = 16 := by
    simp [plan.identified]
  rw [head, ← length, List.drop_left]

/-- The name of a section, as the parser reads it from the names. -/
theorem named_eq {raw : RawSection} {name : Bytes} {i : Nat} (found : plan.names = [] ∧ name = [] ∨
    0 ∉ name ∧ ∃ rest, plan.names.drop raw.nameOffset = name ++ 0 :: rest) :
    raw.named plan.names i = { raw.named plan.names i with name := decodeUtf8 name } := by
  have same : (raw.named plan.names i).name = decodeUtf8 name := by
    rw [RawSection.named]
    dsimp only
    rcases found with ⟨empty, rfl⟩ | ⟨free, rest, stands⟩
    · rw [empty]
      rfl
    · have inside : ¬plan.names.length ≤ raw.nameOffset := fun beyond => by
        rw [List.drop_of_length_le beyond] at stands
        simp at stands
      have filled : ¬plan.names.isEmpty = true := fun empty => inside (by simp [List.isEmpty_iff.mp empty])
      rw [if_neg filled, readCstring, if_neg inside, stands, untilNul_append free (by simp)]
  rw [← same]

theorem LaidOut.nameTable (sound : plan.Sound) (laid : plan.LaidOut data) :
    NameTable data (plan.sections.map Prod.fst) plan.header.shstrndx plan.names := by
  rcases sound.nameSection with empty | first | ⟨raw, found, stored, size⟩
  · refine Or.inl ⟨Or.inl (by simp [empty]), sound.noNames ?_⟩
    rw [nameSection, empty]
    split <;> rfl
  · exact Or.inl ⟨Or.inr first, sound.noNames (if_pos first)⟩
  · have held := laid.names raw found
    unfold nameSection at found
    split at found
    · cases found
    · rename_i index
      refine Or.inr ⟨?_, index, raw, by rw [List.getElem?_map, found], stored, by rw [size, held]⟩
      intro empty
      rw [List.map_eq_nil_iff.mp empty] at found
      cases found

theorem LaidOut.header (sound : plan.Sound) (laid : plan.LaidOut data) : Stored plan.order data 0x10 (headerFields plan.header) := by
  have width : recordWidth (headerFields plan.header) = 36 := rfl
  refine ⟨by rw [width]; exact laid.whole, sound.header, ?_⟩
  rw [width, ← Nat.zero_add 0x10, ← @slice_slice _ 0 52 16 36 (by decide), laid.head, slice, head_fields,
    List.take_of_length_le (by rw [packFields_length, width])]

theorem tableFits {α : Type} {items : List α} {offset entrySize count minimum : Nat} (counted : count = items.length)
    (sized : items = [] ∨ minimum ≤ entrySize) (inside : offset + entrySize * count ≤ data.length) :
    TableFits data offset entrySize count minimum := by
  rcases sized with rfl | large
  · exact Or.inl counted
  · exact Or.inr ⟨large, inside⟩

/-- A file that is laid out as a sound plan says encodes the image of the plan. -/
theorem LaidOut.encodes (sound : plan.Sound) (laid : plan.LaidOut data) : Encodes data (plan.image data) where
  rawData := rfl
  whole := laid.whole
  magic := by
    rw [← @slice_slice _ 0 52 0 4 (by decide), laid.head]
    rfl
  elfClass := by
    rw [← Nat.zero_add 4, ← getElem?_slice (show 4 < 52 by decide), laid.head]
    rfl
  encoding := by
    rw [← Nat.zero_add 5, ← getElem?_slice (show 5 < 52 by decide), laid.head]
    rfl
  header := laid.header sound
  headerSize := sound.headerSize
  programTable := tableFits sound.programCount sound.programSize laid.programTable
  sectionTable := tableFits sound.sectionCount sound.sectionSize laid.sectionTable
  programCount := sound.programCount.symm
  programs := laid.programs
  sections := by
    refine ⟨plan.sections.map Prod.fst, plan.names, ?_, laid.nameTable sound, ?_, fun i raw found => ?_⟩
    · rw [List.length_map]
      exact sound.sectionCount.symm
    · apply List.ext_getElem?
      intro i
      rw [image, List.getElem?_mapIdx, List.getElem?_mapIdx, List.getElem?_map]
      cases found : plan.sections[i]? with
      | none => rfl
      | some item => exact congrArg some (named_eq (sound.named item (List.mem_of_getElem? found))).symm
    · rw [List.getElem?_map] at found
      obtain ⟨item, listed, rfl⟩ := Option.map_eq_some_iff.mp found
      exact laid.sections i item listed

/-- Parts that do not meet can be written over any buffer, and the file is as planned. -/
theorem writeAll_laidOut (sound : plan.Sound) (fits : plan.Fits buffer) : plan.LaidOut (writeAll plan.writes buffer) := by
  have length := writeAll_length fits.inside
  have inside : ∀ w ∈ plan.writes, w.stop ≤ (writeAll plan.writes buffer).length := length.symm ▸ fits.inside
  have stands : ∀ w ∈ plan.writes, slice (writeAll plan.writes buffer) w.start w.bytes.length = w.bytes :=
    fun w member => writeAll_stands fits.inside fits.apart member
  have record : ∀ start fields, (⟨start, packFields plan.order fields⟩ : Write) ∈ plan.writes → (∀ field ∈ fields, field.Fits) →
      Stored plan.order (writeAll plan.writes buffer) start fields := by
    intro start fields listed fieldsFit
    have stop := inside _ listed
    rw [Write.stop, packFields_length] at stop
    exact .of_slice stop fieldsFit (stands _ listed)
  have first : (⟨0, plan.head⟩ : Write) ∈ plan.writes := List.mem_cons_self
  refine ⟨?_, ?_, ?_, ?_, fun i ph found => ?_, fun i item found => ?_, fun raw found => ?_⟩
  · have stop := inside _ first
    rw [Write.stop, head_length] at stop
    omega
  · exact head_length plan ▸ stands _ first
  · exact length.symm ▸ fits.programTable
  · exact length.symm ▸ fits.sectionTable
  · have member := List.mem_of_getElem? found
    obtain ⟨listed, rfl⟩ := List.getElem?_eq_some_iff.mp found
    refine ⟨record _ _ ?_ (sound.programs _ member), length.symm ▸ fits.programs _ member⟩
    exact List.mem_cons_of_mem _ (List.mem_append_left _ (List.mem_mapIdx.mpr ⟨i, listed, rfl⟩))
  · have member := List.mem_of_getElem? found
    obtain ⟨listed, rfl⟩ := List.getElem?_eq_some_iff.mp found
    refine ⟨record _ _ ?_ (sound.sections _ member), length.symm ▸ fits.sections _ member⟩
    exact List.mem_cons_of_mem _ (List.mem_append_right _ (List.mem_append_left _ (List.mem_mapIdx.mpr ⟨i, listed, rfl⟩)))
  · refine stands ⟨raw.offset, plan.names⟩ (List.mem_cons_of_mem _ (List.mem_append_right _ (List.mem_append_right _ ?_)))
    simp [found]

end Writing

end ImagePlan

/-- `.shstrtab`. -/
def namesName : Bytes := [0x2E, 0x73, 0x68, 0x73, 0x74, 0x72, 0x74, 0x61, 0x62]

/-- A big-endian image with one segment and the section of the names. -/
def bigPlan : ImagePlan where
  order := .big
  identification := List.replicate 10 0
  header := ⟨2, 8, 1, 0x08800000, 52, 128, 0, 52, 32, 1, 40, 2, 1⟩
  programs := [⟨0, 1, 0, 0x08800000, 0x08800000, 84, 84, 5, 16⟩]
  sections := [(⟨0, 0, 0, 0, 0, 0, 0, 0, 0, 0⟩, []), (⟨1, 3, 0, 0, 84, 11, 0, 0, 1, 0⟩, namesName)]
  names := [0] ++ namesName ++ [0]
  identified := by simp
  numbered := .of_indices rfl

example : (bigPlan.image []).sections.map (·.name) = ["", ".shstrtab"] := by decide

end Elf32

end PspDisasm
