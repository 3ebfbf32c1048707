import PspDisasm.FrontEndErrors

namespace PspDisasm
open Foundations

/-- The bytes that spell a word in the byte order of an image. -/
def wordBytes (order : Endianness) (word : UInt32) : Bytes :=
  match order with
  | .little => littleBytes 4 word.toNat
  | .big => (littleBytes 4 word.toNat).reverse

def wordsBytes (order : Endianness) (words : List UInt32) : Bytes := words.flatMap (wordBytes order)

def asciiBytes (text : String) : Bytes := text.toList.map fun c => UInt8.ofNat c.toNat

/-- The first loaded segment of an image, with all its file bytes. -/
structure LoadedSegment (data : Bytes) (elf : ElfImage) where
  segment : ProgramHeader
  first : elf.programHeaders.find? (fun ph => ph.type = ptLoad) = some segment
  stored : segment.offset + segment.filesz ≤ data.length

/-- Some bytes stand at an address of the file-backed part of the segment. -/
def LoadedSegment.Holds {data : Bytes} {elf : ElfImage} (loaded : LoadedSegment data elf) (address : Int)
    (bytes : Bytes) : Prop :=
  bytes ≠ [] → loaded.segment.vaddr ≤ address ∧
    address + bytes.length ≤ loaded.segment.vaddr + loaded.segment.filesz ∧
    slice data (loaded.segment.offset + (address - loaded.segment.vaddr).toNat) bytes.length = bytes

/-- The name of a library and where it is written. -/
structure StubName where
  text : String
  pointer : UInt32
  placed : pointer ≠ 0
  ascii : ∀ c ∈ text.toList, 0 < c.toNat ∧ c.toNat < 128
  short : text.toList.length ≤ 127

/-- An export library: its table lists the NIDs of the functions and of the variables, then the addresses of both. -/
structure StubExport where
  name : StubName
  flags : UInt32
  extra : List UInt32
  tablePtr : UInt32
  functions : List (UInt32 × UInt32)
  objects : List (UInt32 × UInt32)
  extra_length : 4 + extra.length < 256
  functions_length : functions.length < 65536
  objects_length : objects.length < 256

/-- An import library: each function has a stub of eight bytes, and each variable an address and then its NID in a
table that the sixth word of the entry points to. -/
structure StubImport where
  name : StubName
  flags : UInt32
  extra : List UInt32
  nidsPtr : UInt32
  stubs : UInt32
  functions : List UInt32
  objects : List (UInt32 × UInt32)
  extra_length : 5 + extra.length < 256
  functions_length : functions.length < 65536
  objects_length : objects.length < 256
  pointed : objects ≠ [] → ∃ pointer ∈ extra.head?, pointer ≠ 0

/-- The counts of an entry, packed into its third word. -/
def packedCounts (entryLength objects functions : Nat) : UInt32 :=
  UInt32.ofNat (entryLength + 2 ^ 8 * (objects + 2 ^ 8 * functions))

namespace StubExport

def words (stub : StubExport) : List UInt32 :=
  [stub.name.pointer, stub.flags, packedCounts (4 + stub.extra.length) stub.objects.length stub.functions.length,
    stub.tablePtr] ++ stub.extra

def table (stub : StubExport) : List UInt32 :=
  (stub.functions.map Prod.fst ++ stub.objects.map Prod.fst) ++ (stub.functions.map Prod.snd ++ stub.objects.map Prod.snd)

def library (stub : StubExport) (address : Int) : LibraryExport where
  name := stub.name.text
  flags := stub.flags.toNat
  entryLength := 4 + stub.extra.length
  functionCount := stub.functions.length
  variableCount := stub.objects.length
  address := address
  functions := stub.functions.mapIdx fun i entry =>
    ⟨entry.1.toNat, entry.2.toNat, .function, (stub.tablePtr.toNat + i * 4 : Nat)⟩
  «variables» := stub.objects.mapIdx fun i entry =>
    ⟨entry.1.toNat, entry.2.toNat, .variable, (stub.tablePtr.toNat + (stub.functions.length + i) * 4 : Nat)⟩

/-- The entry, the name and the table of a library stand where the entry says. -/
structure Lies {data : Bytes} {elf : ElfImage} (loaded : LoadedSegment data elf) (stub : StubExport) (address : Int) :
    Prop where
  nonzero : address ≠ 0
  entry : loaded.Holds address (wordsBytes elf.endianness stub.words)
  name : loaded.Holds stub.name.pointer.toNat (asciiBytes stub.name.text ++ [0])
  table : loaded.Holds stub.tablePtr.toNat (wordsBytes elf.endianness stub.table)

end StubExport

namespace StubImport

def words (stub : StubImport) : List UInt32 :=
  [stub.name.pointer, stub.flags, packedCounts (5 + stub.extra.length) stub.objects.length stub.functions.length,
    stub.nidsPtr, stub.stubs] ++ stub.extra

def varsPtr (stub : StubImport) : UInt32 := stub.extra.headD 0

def library (stub : StubImport) (address : Int) : LibraryImport where
  name := stub.name.text
  flags := stub.flags.toNat
  entryLength := 5 + stub.extra.length
  functionCount := stub.functions.length
  variableCount := stub.objects.length
  address := address
  functions := stub.functions.mapIdx fun i nid =>
    ⟨nid.toNat, (stub.stubs.toNat + i * 8 : Nat), .function, (stub.nidsPtr.toNat + i * 4 : Nat)⟩
  «variables» := stub.objects.mapIdx fun i entry =>
    ⟨entry.2.toNat, entry.1.toNat, .variable, (stub.varsPtr.toNat + i * 8 + 4 : Nat)⟩

structure Lies {data : Bytes} {elf : ElfImage} (loaded : LoadedSegment data elf) (stub : StubImport) (address : Int) :
    Prop where
  nonzero : address ≠ 0
  entry : loaded.Holds address (wordsBytes elf.endianness stub.words)
  name : loaded.Holds stub.name.pointer.toNat (asciiBytes stub.name.text ++ [0])
  nids : loaded.Holds stub.nidsPtr.toNat (wordsBytes elf.endianness stub.functions)
  objects : loaded.Holds stub.varsPtr.toNat
    (wordsBytes elf.endianness (stub.objects.flatMap fun entry => [entry.1, entry.2]))

end StubImport

section Table
variable {α : Type} (library : α → Int → Library) (lies : α → Int → Prop)

/-- The libraries of some entries, one behind the other. -/
def tableLibraries : Int → List α → List Library
  | _, [] => []
  | address, row :: rows =>
    library row address :: tableLibraries (address + (library row address).entryLength * 4) rows

/-- The entries fill a table from its start to its end. -/
def TableLaid : Int → List α → Int → Prop
  | address, [], stop => address = stop
  | address, row :: rows, stop =>
    lies row address ∧ TableLaid (address + (library row address).entryLength * 4) rows stop

end Table

section Words
variable {order : Endianness} {words : List UInt32}

theorem wordBytes_length (order : Endianness) (word : UInt32) : (wordBytes order word).length = 4 := by
  cases order with
  | little => exact littleBytes_length 4 _
  | big => exact List.length_reverse.trans (littleBytes_length 4 _)

theorem wordBytes_value (order : Endianness) (word : UInt32) : order.value (wordBytes order word) = word.toNat := by
  have fits : word.toNat % 256 ^ 4 = word.toNat := Nat.mod_eq_of_lt word.toNat_lt
  cases order with
  | little => exact (littleValue_littleBytes 4 _).trans fits
  | big =>
    rw [wordBytes, Endianness.value, List.reverse_reverse, littleValue_littleBytes, fits]

theorem wordsBytes_length (order : Endianness) (words : List UInt32) : (wordsBytes order words).length = 4 * words.length := by
  induction words with
  | nil => rfl
  | cons word words ih =>
    rw [wordsBytes, List.flatMap_cons, ← wordsBytes, List.length_append, wordBytes_length, ih, List.length_cons]
    omega

theorem wordsBytes_split {i : Nat} (listed : i < words.length) : wordsBytes order words =
    wordsBytes order (words.take i) ++ (wordBytes order words[i] ++ wordsBytes order (words.drop (i + 1))) := by
  simp only [wordsBytes]
  rw [← List.flatMap_cons, ← List.drop_eq_getElem_cons, ← List.flatMap_append, List.take_append_drop]

/-- A word of a sequence, cut out of its bytes. -/
theorem wordsBytes_word {i : Nat} {word : UInt32} (given : words[i]? = some word) :
    order.value (slice (wordsBytes order words) (4 * i) 4) = word.toNat := by
  rw [wordsBytes, slice_flatMap (wordBytes_length order) given, wordBytes_value]

theorem asciiByte_toNat {c : Char} (ascii : c.toNat < 128) : (UInt8.ofNat c.toNat).toNat = c.toNat :=
  UInt8.toNat_ofNat_of_lt' (by simp only [UInt8.size]; omega)

theorem decodeAscii_asciiBytes {text : String} (ascii : ∀ c ∈ text.toList, 0 < c.toNat ∧ c.toNat < 128) :
    decodeAscii (asciiBytes text) = text := by
  have each : ∀ c ∈ text.toList, (if UInt8.ofNat c.toNat < 0x80 then Char.ofNat (UInt8.ofNat c.toNat).toNat
      else replacementCharacter) = c := by
    intro c member
    have value := asciiByte_toNat (ascii c member).2
    have low : UInt8.ofNat c.toNat < 0x80 := by
      rw [UInt8.lt_iff_toNat_lt, value]
      exact (ascii c member).2
    rw [if_pos low, value, Char.ofNat_toNat]
  rw [decodeAscii, asciiBytes, List.map_map]
  exact (congrArg String.ofList ((List.map_congr_left each).trans (List.map_id' _))).trans String.ofList_toList

theorem asciiBytes_free {text : String} (ascii : ∀ c ∈ text.toList, 0 < c.toNat ∧ c.toNat < 128) :
    0 ∉ asciiBytes text := by
  intro zero
  obtain ⟨c, member, same⟩ := List.mem_map.mp zero
  have value := asciiByte_toNat (ascii c member).2
  rw [same] at value
  have positive := (ascii c member).1
  rw [← value] at positive
  exact absurd positive (by decide)

theorem packedCounts_toNat {entryLength objects functions : Nat} (short : entryLength < 256) (few : objects < 256)
    (fits : functions < 65536) :
    (packedCounts entryLength objects functions).toNat = entryLength + 2 ^ 8 * (objects + 2 ^ 8 * functions) :=
  UInt32.toNat_ofNat_of_lt' (by simp only [UInt32.size]; omega)

theorem packedCounts_fields {entryLength objects functions counts : Nat} (short : entryLength < 256)
    (few : objects < 256) (fits : functions < 65536)
    (packed : counts = (packedCounts entryLength objects functions).toNat) :
    counts &&& 0xFF = entryLength ∧ (counts >>> 8) &&& 0xFF = objects ∧ (counts >>> 16) &&& 0xFFFF = functions := by
  rw [packedCounts_toNat short few fits] at packed
  have low := Nat.and_two_pow_sub_one_eq_mod counts 8
  have middle := Nat.and_two_pow_sub_one_eq_mod (counts >>> 8) 8
  have high := Nat.and_two_pow_sub_one_eq_mod (counts >>> 16) 16
  rw [Nat.shiftRight_eq_div_pow] at middle high
  refine ⟨low.trans ?_, ?_, ?_⟩
  · omega
  · rw [Nat.shiftRight_eq_div_pow]
    exact middle.trans (by omega)
  · rw [Nat.shiftRight_eq_div_pow]
    exact high.trans (by omega)

end Words

section Reads
variable {data : Bytes} {elf : ElfImage} {loaded : LoadedSegment data elf} {address : Int} {bytes : Bytes}
  {what : String}

/-- In the first loaded segment an address is that of a byte of the segment. -/
theorem LoadedSegment.vaddrToOffset_eq (loaded : LoadedSegment data elf) (lower : loaded.segment.vaddr ≤ address)
    (upper : address < loaded.segment.vaddr + loaded.segment.filesz) :
    elf.vaddrToOffset address = some (loaded.segment.offset + (address - loaded.segment.vaddr).toNat) := by
  obtain ⟨found, before, after, split, earlier⟩ := List.find?_eq_some_iff_append.mp loaded.first
  have isLoad : loaded.segment.type = 1 := of_decide_eq_true found
  have skipped : before.findSome? (fun ph => ph.vaddrToOffset address) = none := by
    refine List.findSome?_eq_none_iff.mpr fun ph member => ?_
    have other : ph.type ≠ ptLoad := of_decide_eq_false (by simpa only [Bool.not_eq_true'] using earlier ph member)
    exact if_pos other
  rw [ElfImage.vaddrToOffset, split, List.findSome?_append, skipped, Option.none_or, List.findSome?_cons,
    ProgramHeader.vaddrToOffset, if_neg (not_not.mpr isLoad), if_pos ⟨lower, upper⟩]
  rfl

/-- What stands in the middle of some bytes stands at an address of its own. -/
theorem LoadedSegment.Holds.middle {front part back : Bytes} (holds : loaded.Holds address (front ++ (part ++ back))) :
    loaded.Holds (address + front.length) part := by
  intro nonempty
  obtain ⟨lower, upper, stored⟩ := holds (by simp [nonempty])
  rw [List.length_append, List.length_append] at upper
  refine ⟨by omega, by push_cast at upper; omega, ?_⟩
  have place : loaded.segment.offset + (address + front.length - loaded.segment.vaddr).toNat =
      loaded.segment.offset + (address - loaded.segment.vaddr).toNat + front.length := by omega
  have inner : slice (front ++ (part ++ back)) front.length part.length = part := by
    apply slice_of_drop back
    rw [List.drop_left]
  rw [place, ← @slice_slice data _ (front ++ (part ++ back)).length, stored, inner]
  simp

theorem readAtVaddr_holds (holds : loaded.Holds address bytes) (nonempty : bytes ≠ []) :
    readAtVaddr data elf address bytes.length what = .ok bytes := by
  obtain ⟨lower, upper, stored⟩ := holds nonempty
  have positive : 0 < bytes.length := List.length_pos_iff.mpr nonempty
  have within := loaded.stored
  unfold readAtVaddr
  rw [loaded.vaddrToOffset_eq lower (by omega)]
  dsimp only
  rw [if_neg (by omega), stored]

theorem u32AtVaddr_holds {word : UInt32} (holds : loaded.Holds address (wordBytes elf.endianness word)) :
    u32AtVaddr data elf address what = .ok word.toNat := by
  have length := wordBytes_length elf.endianness word
  have read : readAtVaddr data elf address _ what = _ := readAtVaddr_holds holds (List.ne_nil_of_length_pos (by omega))
  rw [length] at read
  rw [u32AtVaddr, read, ok_bind, requireExact_total length, ok_bind, wordBytes_value]
  rfl

/-- A word of an entry, read at its own address. -/
theorem u32AtVaddr_entry {words : List UInt32} {i : Nat} {word : UInt32}
    (holds : loaded.Holds address (wordsBytes elf.endianness words)) (listed : words[i]? = some word) :
    u32AtVaddr data elf (address + (i * 4 : Nat)) what = .ok word.toNat := by
  obtain ⟨inside, rfl⟩ := List.getElem?_eq_some_iff.mp listed
  rw [wordsBytes_split inside] at holds
  have there := holds.middle
  rw [wordsBytes_length, List.length_take, Nat.min_eq_left inside.le, Nat.mul_comm] at there
  exact u32AtVaddr_holds there

theorem u32AtVaddr_word {words : List UInt32} {base i : Nat} {word : UInt32}
    (holds : loaded.Holds base (wordsBytes elf.endianness words)) (listed : words[i]? = some word) :
    u32AtVaddr data elf (base + i * 4 : Nat) what = .ok word.toNat := by
  rw [Int.natCast_add]
  exact u32AtVaddr_entry holds listed

theorem cstringAtVaddr_holds {name : StubName} (holds : loaded.Holds address (asciiBytes name.text ++ [0])) :
    cstringAtVaddr data elf address what = .ok name.text := by
  obtain ⟨lower, upper, stored⟩ := holds (by simp)
  have length : (asciiBytes name.text ++ [0]).length = name.text.toList.length + 1 := by
    rw [List.length_append, asciiBytes, List.length_map]
    rfl
  have short := name.short
  have room : 128 = (asciiBytes name.text ++ [0]).length + (127 - name.text.toList.length) := by omega
  unfold cstringAtVaddr
  rw [loaded.vaddrToOffset_eq lower (by omega)]
  dsimp only
  rw [room, slice_add, stored, List.append_assoc, untilNul_append (asciiBytes_free name.ascii) (by simp),
    decodeAscii_asciiBytes name.ascii]

/-- The words at the start of an entry, read as one piece. -/
theorem readAtVaddr_words {front back : List UInt32} (holds : loaded.Holds address (wordsBytes elf.endianness (front ++ back)))
    (nonempty : front ≠ []) :
    readAtVaddr data elf address (4 * front.length) what = .ok (wordsBytes elf.endianness front) := by
  have length := wordsBytes_length elf.endianness front
  have positive : 0 < front.length := List.length_pos_iff.mpr nonempty
  rw [wordsBytes, List.flatMap_append] at holds
  have there := @LoadedSegment.Holds.middle _ _ _ _ [] _ _ holds
  rw [← wordsBytes, List.length_nil, Int.natCast_zero, Int.add_zero] at there
  rw [← length]
  exact readAtVaddr_holds there (List.ne_nil_of_length_pos (by omega))

/-- Where both sides of a choice go on alike, they go on from what the choice reads. -/
theorem ite_bind_ok {ε α β : Type} {c : Prop} [Decidable c] {x y : Except ε α} {f : α → Except ε β} {b : β} :
    (if c then x >>= f else y >>= f) = .ok b ↔ ∃ a, (if c then x else y) = .ok a ∧ f a = .ok b := by
  split <;> exact bind_ok

theorem mapM_range_mapIdx {ε α β : Type} {f : Nat → Except ε β} {g : Nat → α → β} {items : List α}
    (each : ∀ i item, items[i]? = some item → f i = .ok (g i item)) :
    (List.range items.length).mapM f = .ok (items.mapIdx g) := by
  refine mapM_ok.mpr (List.forall₂_iff_get.mpr ⟨by simp, fun i listed _ => ?_⟩)
  rw [List.length_range] at listed
  simp only [List.get_eq_getElem, List.getElem_range, List.getElem_mapIdx]
  exact each i _ (List.getElem?_eq_getElem listed)

end Reads

section Entries
variable (data : Bytes) (elf : ElfImage) (stop cursor : Int)

/-- The rest of `readExport` behind the four words of the entry. -/
def exportStep (namePtr flags entryLength varCount funcCount exportsPtr : Nat) : Except Failure TableStep := do
  if long : entryLength < 4 then
    return .stop s!"Invalid export entry length {entryLength} at 0x{hex cursor}"
  else if stop < cursor + entryLength * 4 then
    return .stop s!"Export entry at 0x{hex cursor} extends past module export table"
  else
    let name ← if namePtr = 0 then .ok "syslib" else cstringAtVaddr data elf namePtr "export library name"
    let functions ← (List.range funcCount).mapM fun i => do
      let nid ← u32AtVaddr data elf (exportsPtr + i * 4 : Nat) "export function NID"
      let address ← u32AtVaddr data elf (exportsPtr + (funcCount + varCount + i) * 4 : Nat) "export function address"
      return (⟨nid, address, .function, (exportsPtr + i * 4 : Nat)⟩ : NidEntry)
    let variables' ← (List.range varCount).mapM fun i => do
      let nid ← u32AtVaddr data elf (exportsPtr + (funcCount + i) * 4 : Nat) "export variable NID"
      let address ← u32AtVaddr data elf (exportsPtr + (funcCount + varCount + (funcCount + i)) * 4 : Nat)
        "export variable address"
      return (⟨nid, address, .variable, (exportsPtr + (funcCount + i) * 4 : Nat)⟩ : NidEntry)
    return .library [] ⟨name, flags, entryLength, funcCount, varCount, cursor, functions, variables'⟩
      (Nat.lt_of_lt_of_le (by decide) (Nat.not_lt.mp long))

/-- The rest of `readImport` behind the five words of the entry. -/
def importStep (namePtr flags entryLength varCount funcCount nidsPtr funcsPtr : Nat) : Except Failure TableStep := do
  if long : entryLength < 5 then
    return .stop s!"Invalid import entry length {entryLength} at 0x{hex cursor}"
  else if stop < cursor + entryLength * 4 then
    return .stop s!"Import entry at 0x{hex cursor} extends past module import table"
  else
    let varsPtr ← if 6 ≤ entryLength then u32AtVaddr data elf (cursor + 20) "import variable table pointer" else .ok 0
    if namePtr = 0 then
      return .stop s!"Import library at 0x{hex cursor} has no name pointer"
    else
      let name ← cstringAtVaddr data elf namePtr "import library name"
      let functions ← (List.range funcCount).mapM fun i => do
        let nid ← u32AtVaddr data elf (nidsPtr + i * 4 : Nat) "import function NID"
        return (⟨nid, (funcsPtr + i * 8 : Nat), .function, (nidsPtr + i * 4 : Nat)⟩ : NidEntry)
      let variables' ← if varsPtr = 0 then .ok [] else (List.range varCount).mapM fun i => do
        let address ← u32AtVaddr data elf (varsPtr + i * 8 : Nat) "import variable address"
        let nid ← u32AtVaddr data elf (varsPtr + i * 8 + 4 : Nat) "import variable NID"
        return (⟨nid, address, .variable, (varsPtr + i * 8 + 4 : Nat)⟩ : NidEntry)
      let warnings := if varCount ≠ 0 ∧ varsPtr = 0 then
          [s!"Import library {name} declares {varCount} variables without a variable table"]
        else []
      return .library warnings ⟨name, flags, entryLength, funcCount, varCount, cursor, functions, variables'⟩
        (Nat.lt_of_lt_of_le (by decide) (Nat.not_lt.mp long))

theorem readImport_eq : readImport data elf stop cursor = (do
    let raw ← readAtVaddr data elf cursor 20 "import library"
    requireExact raw 20
    let word k := elf.endianness.value (slice raw (4 * k) 4)
    importStep data elf stop cursor (word 0) (word 1) (word 2 &&& 0xFF) ((word 2 >>> 8) &&& 0xFF)
      ((word 2 >>> 16) &&& 0xFFFF) (word 3) (word 4)) := rfl

theorem readExport_eq : readExport data elf stop cursor = (do
    let raw ← readAtVaddr data elf cursor 16 "export library"
    requireExact raw 16
    let word k := elf.endianness.value (slice raw (4 * k) 4)
    exportStep data elf stop cursor (word 0) (word 1) (word 2 &&& 0xFF) ((word 2 >>> 8) &&& 0xFF)
      ((word 2 >>> 16) &&& 0xFFFF) (word 3)) := rfl

end Entries

namespace StubExport
variable {stub : StubExport} {i : Nat} {entry : UInt32 × UInt32}

theorem table_function (listed : stub.functions[i]? = some entry) :
    stub.table[i]? = some entry.1 ∧
      stub.table[stub.functions.length + stub.objects.length + i]? = some entry.2 := by
  obtain ⟨below, rfl⟩ := List.getElem?_eq_some_iff.mp listed
  unfold table
  constructor
  · rw [List.getElem?_append_left (by simp; omega), List.getElem?_append_left (by simpa)]
    simp [below]
  · rw [List.getElem?_append_right (by simp), List.getElem?_append_left (by simp; omega)]
    simp [below]

theorem table_object (listed : stub.objects[i]? = some entry) :
    stub.table[stub.functions.length + i]? = some entry.1 ∧
      stub.table[stub.functions.length + stub.objects.length + (stub.functions.length + i)]? = some entry.2 := by
  obtain ⟨below, rfl⟩ := List.getElem?_eq_some_iff.mp listed
  unfold table
  constructor
  · rw [List.getElem?_append_left (by simp; omega), List.getElem?_append_right (by simp)]
    simp [below]
  · rw [List.getElem?_append_right (by simp), List.getElem?_append_right (by simp)]
    simp [below]

/-- The reader takes an entry that lies where it is read for the library that it describes. -/
theorem read {data : Bytes} {elf : ElfImage} {loaded : LoadedSegment data elf} {address stop : Int}
    (lies : stub.Lies loaded address) (inside : address + (stub.library address).entryLength * 4 ≤ stop) :
    ∃ advances, readExport data elf stop address = .ok (.library [] (stub.library address) advances) := by
  have raw : readAtVaddr data elf address 16 "export library" = .ok _ := readAtVaddr_words lies.entry (by simp)
  have length : (wordsBytes elf.endianness [stub.name.pointer, stub.flags, packedCounts (4 + stub.extra.length)
      stub.objects.length stub.functions.length, stub.tablePtr]).length = 16 := wordsBytes_length ..
  obtain ⟨entryLength, objects, functions⟩ :=
    packedCounts_fields stub.extra_length stub.objects_length stub.functions_length rfl
  have named : stub.name.pointer.toNat ≠ 0 := fun zero => stub.name.placed (UInt32.toNat_inj.mp zero)
  have long : ¬4 + stub.extra.length < 4 := by omega
  have fits : ¬stop < address + (4 + stub.extra.length : Nat) * 4 := Int.not_lt.mpr inside
  rw [readExport_eq, raw, ok_bind, requireExact_total length, ok_bind]
  dsimp only
  rw [wordsBytes_word rfl, wordsBytes_word rfl, wordsBytes_word rfl, wordsBytes_word rfl, entryLength, objects, functions]
  refine ⟨Nat.lt_of_lt_of_le (by decide) (Nat.not_lt.mp long), ?_⟩
  unfold exportStep
  rw [dif_neg long, if_neg fits, if_neg named]
  refine bind_ok.mpr ⟨stub.name.text, cstringAtVaddr_holds lies.name, ?_⟩
  refine bind_ok.mpr ⟨(stub.library address).functions, mapM_range_mapIdx fun i entry listed => ?_, ?_⟩
  · obtain ⟨nid, place⟩ := table_function listed
    rw [u32AtVaddr_word lies.table nid, ok_bind, u32AtVaddr_word lies.table place]
    rfl
  refine bind_ok.mpr ⟨(stub.library address).variables, mapM_range_mapIdx fun i entry listed => ?_, ?_⟩
  · obtain ⟨nid, place⟩ := table_object listed
    rw [u32AtVaddr_word lies.table nid, ok_bind, u32AtVaddr_word lies.table place]
    rfl
  rfl

end StubExport

namespace StubImport
variable {stub : StubImport} {i : Nat}

theorem table_pair {entries : List (UInt32 × UInt32)} {entry : UInt32 × UInt32} (listed : entries[i]? = some entry) :
    (entries.flatMap fun entry => [entry.1, entry.2])[2 * i]? = some entry.1 ∧
      (entries.flatMap fun entry => [entry.1, entry.2])[2 * i + 1]? = some entry.2 := by
  induction entries generalizing i with
  | nil => cases listed
  | cons first entries ih =>
    cases i with
    | zero =>
      obtain rfl : first = entry := Option.some.inj listed
      exact ⟨rfl, rfl⟩
    | succ i => exact ih listed

theorem varsPtr_placed (stub : StubImport) (listed : stub.objects ≠ []) : stub.varsPtr.toNat ≠ 0 := by
  obtain ⟨pointer, given, nonzero⟩ := stub.pointed listed
  intro zero
  rw [varsPtr, List.headD_eq_head?_getD, given, Option.getD_some] at zero
  exact nonzero (UInt32.toNat_inj.mp zero)

/-- The pointer to the variable table is the sixth word, where the entry has one. -/
theorem read_varsPtr {data : Bytes} {elf : ElfImage} {loaded : LoadedSegment data elf} {address : Int}
    (lies : stub.Lies loaded address) :
    (if 6 ≤ 5 + stub.extra.length then u32AtVaddr data elf (address + 20) "import variable table pointer" else .ok 0) =
      .ok stub.varsPtr.toNat := by
  unfold varsPtr
  cases extra : stub.extra with
  | nil => rfl
  | cons pointer extra' =>
    have listed : stub.words[5]? = some pointer := by
      rw [words, extra]
      rfl
    rw [if_pos (by rw [List.length_cons]; omega)]
    exact u32AtVaddr_entry lies.entry listed

/-- The variables are read from the table of the sixth word. Without variables there may be no such table. -/
theorem read_objects {data : Bytes} {elf : ElfImage} {loaded : LoadedSegment data elf} {address : Int}
    (lies : stub.Lies loaded address) :
    (if stub.varsPtr.toNat = 0 then .ok [] else (List.range stub.objects.length).mapM fun i => do
      let address ← u32AtVaddr data elf (stub.varsPtr.toNat + i * 8 : Nat) "import variable address"
      let nid ← u32AtVaddr data elf (stub.varsPtr.toNat + i * 8 + 4 : Nat) "import variable NID"
      return (⟨nid, address, .variable, (stub.varsPtr.toNat + i * 8 + 4 : Nat)⟩ : NidEntry)) =
      .ok (stub.library address).variables := by
  split
  · rename_i zero
    have none : stub.objects = [] := by_contra fun some => stub.varsPtr_placed some zero
    simp only [library, none, List.mapIdx_nil]
  · refine mapM_range_mapIdx fun i entry listed => ?_
    obtain ⟨first, second⟩ := table_pair listed
    rw [show stub.varsPtr.toNat + i * 8 + 4 = stub.varsPtr.toNat + (2 * i + 1) * 4 by omega,
      show stub.varsPtr.toNat + i * 8 = stub.varsPtr.toNat + 2 * i * 4 by omega, u32AtVaddr_word lies.objects first,
      ok_bind, u32AtVaddr_word lies.objects second, ok_bind]
    rw [show stub.varsPtr.toNat + (2 * i + 1) * 4 = stub.varsPtr.toNat + i * 8 + 4 by omega]
    rfl

theorem read {data : Bytes} {elf : ElfImage} {loaded : LoadedSegment data elf} {address stop : Int}
    (lies : stub.Lies loaded address) (inside : address + (stub.library address).entryLength * 4 ≤ stop) :
    ∃ advances, readImport data elf stop address = .ok (.library [] (stub.library address) advances) := by
  have raw : readAtVaddr data elf address 20 "import library" = .ok _ := readAtVaddr_words lies.entry (by simp)
  have length : (wordsBytes elf.endianness [stub.name.pointer, stub.flags, packedCounts (5 + stub.extra.length)
      stub.objects.length stub.functions.length, stub.nidsPtr, stub.stubs]).length = 20 := wordsBytes_length ..
  obtain ⟨entryLength, objects, functions⟩ :=
    packedCounts_fields stub.extra_length stub.objects_length stub.functions_length rfl
  have named : stub.name.pointer.toNat ≠ 0 := fun zero => stub.name.placed (UInt32.toNat_inj.mp zero)
  have long : ¬5 + stub.extra.length < 5 := by omega
  have fits : ¬stop < address + (5 + stub.extra.length : Nat) * 4 := Int.not_lt.mpr inside
  have silent : ¬(stub.objects.length ≠ 0 ∧ stub.varsPtr.toNat = 0) := fun ⟨listed, zero⟩ =>
    stub.varsPtr_placed (List.ne_nil_of_length_pos (Nat.pos_of_ne_zero listed)) zero
  rw [readImport_eq, raw, ok_bind, requireExact_total length, ok_bind]
  dsimp only
  rw [wordsBytes_word rfl, wordsBytes_word rfl, wordsBytes_word rfl, wordsBytes_word rfl, wordsBytes_word rfl,
    entryLength, objects, functions]
  refine ⟨Nat.lt_of_lt_of_le (by decide) (Nat.not_lt.mp long), ?_⟩
  unfold importStep
  rw [dif_neg long, if_neg fits]
  refine ite_bind_ok.mpr ⟨_, read_varsPtr lies, ?_⟩
  dsimp only
  rw [if_neg named]
  refine bind_ok.mpr ⟨stub.name.text, cstringAtVaddr_holds lies.name, ?_⟩
  refine bind_ok.mpr ⟨(stub.library address).functions, mapM_range_mapIdx fun i nid listed => ?_, ?_⟩
  · rw [u32AtVaddr_word lies.nids listed]
    rfl
  refine ite_bind_ok.mpr ⟨_, read_objects lies, ?_⟩
  rw [if_neg silent]
  rfl

end StubImport
end PspDisasm
