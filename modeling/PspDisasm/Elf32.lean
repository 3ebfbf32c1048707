import PspDisasm.Model

namespace PspDisasm
open Foundations

def elfHeaderSize : Nat := 0x34
def programHeaderSize : Nat := 0x20
def sectionHeaderSize : Nat := 0x28
def shtNobits : Nat := 8
def shfWrite : Nat := 0x1
def shfAlloc : Nat := 0x2
def shfExecinstr : Nat := 0x4

/-- The unsigned number stored in `width` bytes of the file. -/
def wordAt (order : Endianness) (data : Bytes) (offset width : Nat) : Nat :=
  order.value (slice data offset width)

/-- `struct.unpack_from` refuses to read past the end of its buffer. -/
def requireBuffer (data : Bytes) (offset size : Nat) : Except Failure Unit :=
  raiseIf (data.length < offset + size) .structError

/-- `struct.unpack` wants a buffer of exactly the size of its format. -/
def requireExact (raw : Bytes) (size : Nat) : Except Failure Unit :=
  raiseIf (raw.length ≠ size) .structError

def byteAt (data : Bytes) (i : Nat) : Except Failure UInt8 :=
  match data[i]? with
  | some b => .ok b
  | none => .error .indexError

def requireRange (data : Bytes) (offset size : Nat) (what : String) : Except Failure Unit :=
  raiseIf (data.length < offset ∨ data.length - offset < size)
    (.parseError s!"{what} extends past end of file: offset=0x{hex offset} size=0x{hex size} file=0x{hex data.length}")

def sectionKind (type flags : Nat) : SectionKind :=
  if type = shtNobits then .bss
  else if flags &&& shfExecinstr ≠ 0 then .executable
  else if flags &&& shfWrite ≠ 0 then .writable
  else if flags &&& shfAlloc ≠ 0 then .readonly
  else .metadata

def readCstring (table : Bytes) (offset : Nat) : String :=
  if table.length ≤ offset then "" else decodeUtf8 (untilNul (table.drop offset))

def elfDataEncoding (encoding : UInt8) : Except Failure Endianness :=
  if encoding = 1 then .ok .little
  else if encoding = 2 then .ok .big
  else .error (.parseError s!"Unsupported ELF data encoding: {encoding.toNat}")

def readElfHeader (order : Endianness) (data : Bytes) : Except Failure ElfHeader := do
  requireBuffer data 0x10 36
  let half offset := wordAt order data offset 2
  let word offset := wordAt order data offset 4
  return {
    fileType := half 0x10, machine := half 0x12, version := word 0x14, entry := word 0x18,
    phoff := word 0x1C, shoff := word 0x20, flags := word 0x24, ehsize := half 0x28,
    phentsize := half 0x2A, phnum := half 0x2C, shentsize := half 0x2E, shnum := half 0x30,
    shstrndx := half 0x32 }

/-- A header table with entries must have entries that are large enough and lie in the file. -/
def requireTable (data : Bytes) (offset entrySize count minimum : Nat) (what : String) : Except Failure Unit :=
  if count = 0 then .ok () else do
    raiseIf (entrySize < minimum) (.parseError s!"Invalid {what} entry size: 0x{hex entrySize}")
    requireRange data offset (entrySize * count) s!"{what} table"

def readProgramHeader (order : Endianness) (data : Bytes) (header : ElfHeader) (index : Nat) :
    Except Failure ProgramHeader := do
  let offset := header.phoff + index * header.phentsize
  requireBuffer data offset programHeaderSize
  let word k := wordAt order data (offset + 4 * k) 4
  let ph : ProgramHeader := {
    index, type := word 0, offset := word 1, vaddr := word 2, paddr := word 3, filesz := word 4,
    memsz := word 5, flags := word 6, align := word 7 }
  if ph.filesz ≠ 0 then requireRange data ph.offset ph.filesz s!"program header {index} data"
  return ph

theorem readProgramHeader_index {order : Endianness} {data : Bytes} {header : ElfHeader} {index : Nat}
    {ph : ProgramHeader} (read : readProgramHeader order data header index = .ok ph) : ph.index = index := by
  obtain ⟨_, _, rest⟩ := bind_ok.mp read
  dsimp only at rest
  split at rest
  · obtain ⟨_, _, same⟩ := bind_ok.mp rest
    cases same
    rfl
  · cases rest
    rfl

theorem readProgramHeader_inFile {order : Endianness} {data : Bytes} {header : ElfHeader} {index : Nat}
    {ph : ProgramHeader} (read : readProgramHeader order data header index = .ok ph) :
    ph.filesz = 0 ∨ ph.offset + ph.filesz ≤ data.length := by
  obtain ⟨_, _, rest⟩ := bind_ok.mp read
  dsimp only at rest
  split at rest
  · obtain ⟨_, inFile, same⟩ := bind_ok.mp rest
    cases same
    have bounds := raiseIf_ok.mp inFile
    right
    dsimp only at bounds ⊢
    omega
  · rename_i empty
    cases rest
    exact Or.inl (not_not.mp empty)

/-- The whole program header table, numbered by position. -/
def readProgramHeaders (order : Endianness) (data : Bytes) (header : ElfHeader) :
    Except Failure { programHeaders : List ProgramHeader // Numbered programHeaders } :=
  match read : (List.range header.phnum).mapM (readProgramHeader order data header) with
  | .error failure => .error failure
  | .ok programHeaders => .ok ⟨programHeaders, fun i ph found => by
      obtain ⟨index, atIndex, fields⟩ := forall₂_getElem? (mapM_ok.mp read) found
      have same : index = i := by
        obtain ⟨_, value⟩ := List.getElem?_eq_some_iff.mp atIndex
        simpa using value.symm
      rw [readProgramHeader_index fields, same]⟩

structure RawSection where
  nameOffset : Nat
  type : Nat
  flags : Nat
  addr : Nat
  offset : Nat
  size : Nat
  link : Nat
  info : Nat
  addralign : Nat
  entsize : Nat

def readRawSection (order : Endianness) (data : Bytes) (header : ElfHeader) (index : Nat) :
    Except Failure RawSection := do
  let offset := header.shoff + index * header.shentsize
  requireBuffer data offset sectionHeaderSize
  let word k := wordAt order data (offset + 4 * k) 4
  let raw : RawSection := {
    nameOffset := word 0, type := word 1, flags := word 2, addr := word 3, offset := word 4,
    size := word 5, link := word 6, info := word 7, addralign := word 8, entsize := word 9 }
  if raw.size ≠ 0 ∧ raw.type ≠ shtNobits then requireRange data raw.offset raw.size s!"section {index} data"
  return raw

def sectionNameTable (data : Bytes) (rawSections : List RawSection) (shstrndx : Nat) : Except Failure Bytes :=
  if rawSections.isEmpty ∨ shstrndx = 0 then .ok []
  else match rawSections[shstrndx]? with
    | none => .error (.parseError s!"Section-name string table index out of range: {shstrndx}")
    | some entry =>
      if entry.type = shtNobits then .error (.parseError "Section-name string table cannot be NOBITS")
      else .ok (slice data entry.offset entry.size)

def RawSection.named (raw : RawSection) (shstr : Bytes) (index : Nat) : Section where
  index := index
  name := if shstr.isEmpty then "" else readCstring shstr raw.nameOffset
  type := raw.type
  flags := raw.flags
  addr := raw.addr
  offset := raw.offset
  size := raw.size
  link := raw.link
  info := raw.info
  addralign := raw.addralign
  entsize := raw.entsize
  kind := sectionKind raw.type raw.flags

def parseElf32 (data : Bytes) : Except Failure ElfImage := do
  requireRange data 0 elfHeaderSize "ELF header"
  raiseIf (slice data 0 4 ≠ [0x7F, 0x45, 0x4C, 0x46]) (.parseError "Invalid ELF magic")
  let elfClass ← byteAt data 4
  raiseIf (elfClass ≠ 1) (.parseError "Unsupported ELF class: expected ELF32")
  let encoding ← byteAt data 5
  let order ← elfDataEncoding encoding
  let header ← readElfHeader order data
  raiseIf (header.ehsize ≠ 0 ∧ header.ehsize < elfHeaderSize)
    (.parseError s!"Invalid ELF header size: 0x{hex header.ehsize}")
  requireTable data header.phoff header.phentsize header.phnum programHeaderSize "program header"
  requireTable data header.shoff header.shentsize header.shnum sectionHeaderSize "section header"
  let programHeaders ← readProgramHeaders order data header
  let rawSections ← (List.range header.shnum).mapM (readRawSection order data header)
  let shstr ← sectionNameTable data rawSections header.shstrndx
  return {
    header, endianness := order, programHeaders := programHeaders.val,
    sections := rawSections.mapIdx fun index raw => raw.named shstr index,
    rawData := data, numbered := programHeaders.property }

/-- What the parser promises to every later stage: the file ranges it lists
lie in the input. -/
structure ElfImage.ParsedFrom (elf : ElfImage) (data : Bytes) : Prop where
  rawData : elf.rawData = data
  headerInFile : ∀ ph ∈ elf.programHeaders, ph.filesz = 0 ∨ ph.offset + ph.filesz ≤ data.length
  sectionInFile : ∀ s ∈ elf.sections, s.type ≠ shtNobits → s.size = 0 ∨ s.offset + s.size ≤ data.length

theorem readRawSection_inFile {order : Endianness} {data : Bytes} {header : ElfHeader} {index : Nat}
    {raw : RawSection} (read : readRawSection order data header index = .ok raw) (stored : raw.type ≠ shtNobits) :
    raw.size = 0 ∨ raw.offset + raw.size ≤ data.length := by
  obtain ⟨_, _, rest⟩ := bind_ok.mp read
  dsimp only at rest
  split at rest
  · obtain ⟨_, inFile, same⟩ := bind_ok.mp rest
    cases same
    have bounds := raiseIf_ok.mp inFile
    right
    dsimp only at bounds ⊢
    omega
  · rename_i empty
    cases rest
    left
    by_contra nonempty
    exact empty ⟨nonempty, stored⟩

theorem readProgramHeaders_ok {order : Endianness} {data : Bytes} {header : ElfHeader}
    {programHeaders : { phs : List ProgramHeader // Numbered phs }}
    (read : readProgramHeaders order data header = .ok programHeaders) :
    (List.range header.phnum).mapM (readProgramHeader order data header) = .ok programHeaders.val := by
  unfold readProgramHeaders at read
  split at read
  · cases read
  · rename_i found
    cases read
    exact found

theorem parseElf32_parsedFrom {data : Bytes} {elf : ElfImage} (parsed : parseElf32 data = .ok elf) :
    elf.ParsedFrom data := by
  simp only [parseElf32, bind_ok] at parsed
  obtain ⟨_, _, _, _, _, _, _, _, _, _, order, _, header, _, _, _, _, _, _, _,
    programHeaders, readHeaders, rawSections, readSections, shstr, _, same⟩ := parsed
  cases same
  refine ⟨rfl, ?_, ?_⟩
  · intro ph member
    obtain ⟨index, _, read⟩ := forall₂_mem (mapM_ok.mp (readProgramHeaders_ok readHeaders)) member
    exact readProgramHeader_inFile read
  · intro s member stored
    obtain ⟨index, bound, rfl⟩ := List.mem_mapIdx.mp member
    obtain ⟨_, _, read⟩ := forall₂_mem (mapM_ok.mp readSections) (List.getElem_mem bound)
    exact readRawSection_inFile read stored

end PspDisasm
