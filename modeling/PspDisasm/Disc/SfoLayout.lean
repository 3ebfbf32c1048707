import PspDisasm.Disc.ParamSfo
import PspDisasm.Prxreloc2Errors

namespace PspDisasm
open Foundations

def utf8Bytes (text : String) : Bytes := text.toByteArray.data.toList

/-- The format codes and the stored bytes that stand for a value. A string may be followed by a NUL and what else the
writer puts there, a number by unused bytes. -/
inductive SfoStored : SfoValue → Nat → Bytes → Prop
  | text {text : String} {rest : Bytes} (free : 0 ∉ utf8Bytes text) (cut : ∀ byte ∈ rest.head?, byte = 0) :
    SfoStored (.text text) 0x0204 (utf8Bytes text ++ rest)
  | number {value : Nat} {rest : Bytes} (fits : value < 256 ^ 4) :
    SfoStored (.number value) 0x0404 (littleBytes 4 value ++ rest)
  | raw {format : Nat} {bytes : Bytes} (fits : format < 256 ^ 2) (noText : format ≠ 0x0204)
    (noNumber : format ≠ 0x0404) : SfoStored (.raw bytes) format bytes

/-- A key with its value, and where the writer of a PARAM.SFO puts them. -/
structure SfoItem where
  key : String
  value : SfoValue
  format : Nat
  stored : Bytes
  maxLength : Nat
  keyOffset : Nat
  dataOffset : Nat
  named : key ≠ ""
  free : 0 ∉ utf8Bytes key
  stands : SfoStored value format stored
  roomy : stored.length ≤ maxLength
  maxLength_lt : maxLength < 256 ^ 4
  keyOffset_lt : keyOffset < 256 ^ 2
  dataOffset_lt : dataOffset < 256 ^ 4

namespace SfoItem

def record (item : SfoItem) : Bytes :=
  littleBytes 2 item.keyOffset ++ (littleBytes 2 item.format ++ (littleBytes 4 item.stored.length ++
    (littleBytes 4 item.maxLength ++ littleBytes 4 item.dataOffset)))

def name (item : SfoItem) : Bytes := utf8Bytes item.key ++ [0]

end SfoItem

/-- A PARAM.SFO as its writer plans it: two tables and the entries in the order of the index. -/
structure SfoPlan where
  version : Nat
  keyTable : Nat
  dataTable : Nat
  items : List SfoItem
  distinct : (items.map SfoItem.key).Nodup

namespace SfoPlan

def header (plan : SfoPlan) : Bytes :=
  psfMagic ++ (littleBytes 4 plan.version ++ (littleBytes 4 plan.keyTable ++ (littleBytes 4 plan.dataTable ++
    littleBytes 4 plan.items.length)))

def content (plan : SfoPlan) : Dict String SfoValue := plan.items.map fun item => (item.key, item.value)

/-- The file has what the plan says where the plan says it. What else it has, in gaps and behind the tables, is open,
and the entries may share bytes. -/
structure LaidOut (plan : SfoPlan) (data : Bytes) : Prop where
  header : slice data 0 20 = plan.header
  index : ∀ i (listed : i < plan.items.length), slice data (20 + i * 16) 16 = plan.items[i].record
  keys : ∀ item ∈ plan.items,
    slice data (plan.keyTable + item.keyOffset) item.name.length = item.name ∧
      plan.keyTable + item.keyOffset + item.name.length ≤ plan.dataTable
  values : ∀ item ∈ plan.items,
    slice data (plan.dataTable + item.dataOffset) item.stored.length = item.stored ∧
      plan.dataTable + item.dataOffset + item.stored.length ≤ data.length
  index_end : 20 + plan.items.length * 16 ≤ plan.keyTable
  keys_end : plan.keyTable ≤ plan.dataTable
  data_end : plan.dataTable ≤ data.length
  dataTable_lt : plan.dataTable < 256 ^ 4

end SfoPlan

theorem decodeUtf8Strict_utf8Bytes (text : String) : decodeUtf8Strict (utf8Bytes text) = some text := by
  have array : (⟨(utf8Bytes text).toArray⟩ : ByteArray) = text.toByteArray := by simp [utf8Bytes]
  rw [decodeUtf8Strict, array, String.fromUTF8?, dif_pos text.isValidUTF8]
  rfl

theorem wordAt_stored {data : Bytes} {offset width value : Nat}
    (stored : slice data offset width = littleBytes width value) (fits : value < 256 ^ width) :
    wordAt .little data offset width = value := by
  rw [wordAt, stored]
  exact (littleValue_littleBytes width value).trans (Nat.mod_eq_of_lt fits)

theorem sfoValue_stored {key : String} {value : SfoValue} {format : Nat} {stored : Bytes}
    (stands : SfoStored value format stored) : sfoValue key format stored = .ok value := by
  cases stands with
  | @text text rest free cut => simp only [sfoValue, if_pos, untilNul_append free cut, decodeUtf8Strict_utf8Bytes]
  | @number value rest fits =>
    have length : ¬(littleBytes 4 value ++ rest).length < 4 := by
      rw [List.length_append, littleBytes_length]
      omega
    have read : wordAt .little (littleBytes 4 value ++ rest) 0 4 = value := wordAt_stored rfl fits
    rw [sfoValue, if_neg (by decide), if_pos rfl, if_neg length, read]
  | raw fits noText noNumber => rw [sfoValue, if_neg noText, if_neg noNumber]

theorem SfoStored.format_lt {value : SfoValue} {format : Nat} {stored : Bytes}
    (stands : SfoStored value format stored) : format < 256 ^ 2 := by
  cases stands with
  | text => decide
  | number => decide
  | raw fits => exact fits

section Item
variable {plan : SfoPlan} {data : Bytes} {i : Nat}

/-- A field of the entry `i` of the index, read where the parser reads it. -/
theorem SfoPlan.LaidOut.word_of_record (laid : plan.LaidOut data) (listed : i < plan.items.length)
    {offset width value : Nat} (inside : offset + width ≤ 16)
    (stored : slice plan.items[i].record offset width = littleBytes width value) (fits : value < 256 ^ width) :
    wordAt .little data (20 + i * 16 + offset) width = value := by
  apply wordAt_stored ?_ fits
  rw [← stored, ← laid.index i listed, slice_slice inside]

/-- The parser finds the key of an entry behind its offset, up to the first NUL. -/
theorem SfoPlan.LaidOut.key_of_item (laid : plan.LaidOut data) {item : SfoItem} (member : item ∈ plan.items) :
    ∃ rest, slice data (plan.keyTable + item.keyOffset) (plan.dataTable - (plan.keyTable + item.keyOffset)) =
      utf8Bytes item.key ++ 0 :: rest := by
  obtain ⟨stored, inside⟩ := laid.keys item member
  have room : plan.dataTable - (plan.keyTable + item.keyOffset) =
      item.name.length + (plan.dataTable - (plan.keyTable + item.keyOffset) - item.name.length) := by omega
  rw [room, slice_add, stored, SfoItem.name, List.append_assoc]
  exact ⟨_, rfl⟩

/-- One entry of a planned file is added to the entries before it. -/
theorem sfoEntry_laidOut (laid : plan.LaidOut data) (listed : i < plan.items.length) (result : Dict String SfoValue) :
    sfoEntry data plan.keyTable plan.dataTable result i =
      .ok (result.set plan.items[i].key plan.items[i].value) := by
  have member : plan.items[i] ∈ plan.items := List.getElem_mem listed
  have stored_lt : plan.items[i].stored.length < 256 ^ 4 :=
    lt_of_le_of_lt plan.items[i].roomy plan.items[i].maxLength_lt
  have keyOffset : wordAt .little data (20 + i * 16) 2 = plan.items[i].keyOffset :=
    laid.word_of_record listed (show 0 + 2 ≤ 16 by decide) rfl plan.items[i].keyOffset_lt
  have format := laid.word_of_record listed (show 2 + 2 ≤ 16 by decide) rfl plan.items[i].stands.format_lt
  have dataLen := laid.word_of_record listed (show 4 + 4 ≤ 16 by decide) rfl stored_lt
  have maxLength := laid.word_of_record listed (show 8 + 4 ≤ 16 by decide) rfl plan.items[i].maxLength_lt
  have dataOffset := laid.word_of_record listed (show 12 + 4 ≤ 16 by decide) rfl plan.items[i].dataOffset_lt
  obtain ⟨rest, keys⟩ := laid.key_of_item member
  have keyInside := (laid.keys _ member).2
  obtain ⟨stored, inside⟩ := laid.values _ member
  generalize plan.items[i] = item at *
  have named : 0 < item.name.length := by simp [SfoItem.name]
  have roomy := item.roomy
  have key : decodeUtf8Strict (untilNul (utf8Bytes item.key ++ 0 :: rest)) = some item.key := by
    rw [untilNul_append item.free (by simp), decodeUtf8Strict_utf8Bytes]
  have terminated : 0 ∈ utf8Bytes item.key ++ 0 :: rest := List.mem_append_right _ List.mem_cons_self
  unfold sfoEntry
  dsimp only
  rw [keyOffset, format, dataLen, maxLength, dataOffset, keys, key, stored]
  refine bind_ok.mpr ⟨(), raiseIf_ok.mpr (by omega), ?_⟩
  refine bind_ok.mpr ⟨(), raiseIf_ok.mpr (fun absent => absent terminated), ?_⟩
  refine bind_ok.mpr ⟨item.key, rfl, bind_ok.mpr ⟨(), raiseIf_ok.mpr item.named, ?_⟩⟩
  refine bind_ok.mpr ⟨(), raiseIf_ok.mpr (by omega), bind_ok.mpr ⟨(), raiseIf_ok.mpr (by omega), ?_⟩⟩
  exact bind_ok.mpr ⟨item.value, sfoValue_stored item.stands, rfl⟩

/-- The entries up to one of them, read one after the other. -/
theorem foldlM_laidOut (laid : plan.LaidOut data) {count : Nat} (listed : count ≤ plan.items.length) :
    (List.range count).foldlM (sfoEntry data plan.keyTable plan.dataTable) [] = .ok (plan.content.take count) := by
  induction count with
  | zero => rfl
  | succ count ih =>
    have here : count < plan.content.length := by rw [SfoPlan.content, List.length_map]; exact listed
    have entry : plan.content[count] = (plan.items[count].key, plan.items[count].value) := List.getElem_map ..
    have keys : plan.content.map Prod.fst = plan.items.map SfoItem.key := List.map_map ..
    have split : plan.items.map SfoItem.key = (plan.items.take count).map SfoItem.key ++
        plan.items[count].key :: (plan.items.drop (count + 1)).map SfoItem.key := by
      rw [← List.map_cons, ← List.drop_eq_getElem_cons, ← List.map_append, List.take_append_drop]
    have new : plan.items[count].key ∉ Dict.keys (plan.content.take count) := by
      have distinct := plan.distinct
      rw [split] at distinct
      rw [Dict.keys, List.map_take, keys, ← List.map_take]
      exact fun before => List.disjoint_of_nodup_append distinct before List.mem_cons_self
    rw [List.range_succ, List.foldlM_append, ih (by omega), ok_bind, List.foldlM_cons,
      sfoEntry_laidOut laid listed, ok_bind, List.foldlM_nil, Dict.set_of_new new, List.take_succ_eq_append_getElem here,
      entry]
    rfl

theorem parseParamSfo_laidOut (laid : plan.LaidOut data) : parseParamSfo data = .ok plan.content := by
  obtain ⟨header, -, -, -, index_end, keys_end, data_end, dataTable_lt⟩ := id laid
  have word {offset value : Nat} (inside : offset + 4 ≤ 20)
      (stored : slice plan.header offset 4 = littleBytes 4 value) (fits : value < 256 ^ 4) :
      wordAt .little data offset 4 = value := by
    apply wordAt_stored ?_ fits
    rw [← stored, ← header, slice_slice inside, Nat.zero_add]
  have magic : slice data 0 4 = psfMagic := by
    rw [← @slice_slice data 0 20 0 4 (by decide), header]
    rfl
  have keyTable := word (show 8 + 4 ≤ 20 by decide) rfl (show plan.keyTable < 256 ^ 4 by omega)
  have dataTable := word (show 12 + 4 ≤ 20 by decide) rfl dataTable_lt
  have count := word (show 16 + 4 ≤ 20 by decide) rfl (show plan.items.length < 256 ^ 4 by omega)
  have whole := foldlM_laidOut laid le_rfl
  rw [List.take_of_length_le (by rw [SfoPlan.content, List.length_map])] at whole
  unfold parseParamSfo
  dsimp only
  rw [keyTable, dataTable, count]
  refine bind_ok.mpr ⟨(), raiseIf_ok.mpr (by omega), bind_ok.mpr ⟨(), raiseIf_ok.mpr (fun other => other magic), ?_⟩⟩
  refine bind_ok.mpr ⟨(), raiseIf_ok.mpr (by omega), bind_ok.mpr ⟨(), raiseIf_ok.mpr (by omega), ?_⟩⟩
  exact bind_ok.mpr ⟨(), raiseIf_ok.mpr (by omega), whole⟩

end Item

/-- The parts of a planned file, each with the place where it goes. -/
def SfoPlan.writes (plan : SfoPlan) : List Write :=
  ⟨0, plan.header⟩ :: (plan.items.mapIdx (fun i item => ⟨20 + i * 16, item.record⟩) ++
    plan.items.flatMap fun item =>
      [⟨plan.keyTable + item.keyOffset, item.name⟩, ⟨plan.dataTable + item.dataOffset, item.stored⟩])

/-- Parts that do not meet can be written over any padding, and the file is as planned. -/
theorem SfoPlan.writeAll_laidOut (plan : SfoPlan) {padding : Bytes}
    (fits : ∀ w ∈ plan.writes, w.stop ≤ padding.length) (apart : plan.writes.Pairwise Write.Apart)
    (index_end : 20 + plan.items.length * 16 ≤ plan.keyTable)
    (keys_end : plan.keyTable ≤ plan.dataTable) (data_end : plan.dataTable ≤ padding.length)
    (dataTable_lt : plan.dataTable < 256 ^ 4)
    (keys : ∀ item ∈ plan.items, plan.keyTable + item.keyOffset + item.name.length ≤ plan.dataTable) :
    plan.LaidOut (writeAll plan.writes padding) := by
  have length := writeAll_length fits
  have stands : ∀ w ∈ plan.writes, slice (writeAll plan.writes padding) w.start w.bytes.length = w.bytes :=
    fun w member => writeAll_stands fits apart member
  have named : ∀ item ∈ plan.items, ⟨plan.keyTable + item.keyOffset, item.name⟩ ∈ plan.writes := fun item member =>
    List.mem_cons_of_mem _ (List.mem_append_right _ (List.mem_flatMap.mpr ⟨item, member, List.mem_cons_self⟩))
  have stored : ∀ item ∈ plan.items, ⟨plan.dataTable + item.dataOffset, item.stored⟩ ∈ plan.writes := fun item member =>
    List.mem_cons_of_mem _ (List.mem_append_right _ (List.mem_flatMap.mpr ⟨item, member, by simp⟩))
  refine {
    header := stands ⟨0, plan.header⟩ List.mem_cons_self
    index := fun i listed => ?_
    keys := fun item member => ⟨stands _ (named item member), keys item member⟩
    values := fun item member => ⟨stands _ (stored item member), length.symm ▸ fits _ (stored item member)⟩
    index_end, keys_end, data_end := length.symm ▸ data_end, dataTable_lt }
  have recorded : ⟨20 + i * 16, plan.items[i].record⟩ ∈ plan.writes :=
    List.mem_cons_of_mem _ (List.mem_append_left _ (List.mem_mapIdx.mpr ⟨i, listed, rfl⟩))
  exact stands _ recorded

/-- A part of the file that has to lie inside of it, as `unpack_from` wants it. A slice of Python would be shortened
without a word. -/
def sliceInside (data : Bytes) (start size : Nat) : Except Failure Bytes := do
  requireBuffer data start size
  pure (slice data start size)

/-- An entry as `sfoEntry` reads it, with a check at every access to the file. -/
def guardedEntry (data : Bytes) (keyTable dataTable : Nat) (result : Dict String SfoValue) (index : Nat) :
    Except Failure (Dict String SfoValue) := do
  let record ← sliceInside data (20 + index * 16) 16
  let keyStart := keyTable + wordAt .little record 0 2
  raiseIf (dataTable ≤ keyStart) (.parseError s!"PSF key offset for entry {index} is invalid")
  let keys ← sliceInside data keyStart (dataTable - keyStart)
  raiseIf (0 ∉ keys) (.parseError s!"PSF key for entry {index} is not NUL terminated")
  let key ← (decodeUtf8Strict (untilNul keys)).elim (.error (.parseError s!"PSF key for entry {index} is not valid UTF-8")) .ok
  raiseIf (key = "") (.parseError s!"PSF key for entry {index} is empty")
  let dataLen := wordAt .little record 4 4
  raiseIf (wordAt .little record 8 4 < dataLen) (.parseError s!"PSF data length exceeds maximum length for key {key}")
  let valueStart := dataTable + wordAt .little record 12 4
  raiseIf (data.length < valueStart + dataLen) (.parseError s!"PSF data for key {key} exceeds file size")
  let raw ← sliceInside data valueStart dataLen
  let value ← sfoValue key (wordAt .little record 2 2) raw
  return result.set key value

/-- `parse_param_sfo` with a check at every access to the file. -/
def guardedParamSfo (data : Bytes) : Except Failure (Dict String SfoValue) := do
  raiseIf (data.length < 20) (.parseError "Truncated PSF header")
  let header ← sliceInside data 0 20
  raiseIf (slice header 0 4 ≠ psfMagic) (.parseError "Invalid PSF magic")
  let keyTable := wordAt .little header 8 4
  let dataTable := wordAt .little header 12 4
  let entryCount := wordAt .little header 16 4
  let indexEnd := 20 + entryCount * 16
  raiseIf (data.length < indexEnd) (.parseError "PSF index table exceeds file size")
  raiseIf (keyTable < indexEnd ∨ data.length < keyTable) (.parseError "PSF key table offset is invalid")
  raiseIf (dataTable < keyTable ∨ data.length < dataTable) (.parseError "PSF data table offset is invalid")
  (List.range entryCount).foldlM (guardedEntry data keyTable dataTable) []

section Guarded
variable {data : Bytes} {keyTable dataTable index : Nat}

theorem sliceInside_within {start size : Nat} (within : start + size ≤ data.length) :
    sliceInside data start size = .ok (slice data start size) :=
  bind_ok.mpr ⟨(), raiseIf_ok.mpr (by omega), rfl⟩

theorem raiseIf_bind_congr {ε α : Type} {bad : Prop} [Decidable bad] {raised : ε} {f g : Unit → Except ε α}
    (same : ¬bad → f () = g ()) : (raiseIf bad raised >>= f) = (raiseIf bad raised >>= g) := by
  unfold raiseIf
  split
  · rfl
  · rename_i passed
    exact same passed

theorem wordAt_slice {start size offset width : Nat} (inside : offset + width ≤ size) :
    wordAt .little (slice data start size) offset width = wordAt .little data (start + offset) width := by
  rw [wordAt, wordAt, slice_slice inside]

/-- Inside of a checked index no access of an entry leaves the file. -/
theorem guardedEntry_eq (listed : 20 + index * 16 + 16 ≤ data.length) (inside : dataTable ≤ data.length)
    (result : Dict String SfoValue) :
    guardedEntry data keyTable dataTable result index = sfoEntry data keyTable dataTable result index := by
  unfold guardedEntry sfoEntry
  rw [sliceInside_within listed, ok_bind]
  dsimp only
  rw [wordAt_slice (by decide), wordAt_slice (by decide), wordAt_slice (by decide), wordAt_slice (by decide),
    wordAt_slice (by decide), Nat.add_zero]
  refine raiseIf_bind_congr fun named => ?_
  rw [sliceInside_within (by omega), ok_bind]
  refine raiseIf_bind_congr fun _ => bind_congr fun key => raiseIf_bind_congr fun _ => raiseIf_bind_congr fun _ => ?_
  refine raiseIf_bind_congr fun stored => ?_
  rw [sliceInside_within (by omega), ok_bind]

theorem guardedEntries_eq (inside : dataTable ≤ data.length) {count : Nat} (listed : 20 + count * 16 ≤ data.length) :
    (List.range count).foldlM (guardedEntry data keyTable dataTable) [] =
      (List.range count).foldlM (sfoEntry data keyTable dataTable) [] := by
  induction count with
  | zero => rfl
  | succ count ih =>
    rw [List.range_succ, List.foldlM_append, List.foldlM_append, ih (by omega)]
    refine bind_congr fun result => ?_
    rw [List.foldlM_cons, List.foldlM_cons, guardedEntry_eq (by omega) inside]
    rfl

theorem guardedParamSfo_eq (data : Bytes) : guardedParamSfo data = parseParamSfo data := by
  unfold guardedParamSfo parseParamSfo
  refine raiseIf_bind_congr fun whole => ?_
  rw [sliceInside_within (by omega), ok_bind]
  dsimp only
  rw [slice_slice (by decide), wordAt_slice (by decide), wordAt_slice (by decide), wordAt_slice (by decide),
    Nat.zero_add, Nat.zero_add, Nat.zero_add, Nat.zero_add]
  refine raiseIf_bind_congr fun _ => raiseIf_bind_congr fun listed => raiseIf_bind_congr fun _ => ?_
  exact raiseIf_bind_congr fun inside => guardedEntries_eq (by omega) (by omega)

theorem sfoValue_parseErrors {key : String} {format : Nat} {raw : Bytes} :
    ParseErrorsOnly (sfoValue key format raw) := by
  unfold sfoValue
  split
  · split
    · exact raisesOnly_value _
    · exact raisesOnly_error.mpr rfl
  split
  · split
    · exact raisesOnly_error.mpr rfl
    · exact raisesOnly_value _
  · exact raisesOnly_value _

theorem sfoEntry_parseErrors (result : Dict String SfoValue) :
    ParseErrorsOnly (sfoEntry data keyTable dataTable result index) := by
  unfold sfoEntry
  refine raisesOnly_bind (raisesOnly_raiseIf rfl) fun _ _ => raisesOnly_bind (raisesOnly_raiseIf rfl) fun _ _ => ?_
  refine raisesOnly_bind ?_ fun key _ => raisesOnly_bind (raisesOnly_raiseIf rfl) fun _ _ => ?_
  · cases decodeUtf8Strict (untilNul (slice data _ _)) with
    | none => exact raisesOnly_error.mpr rfl
    | some key => exact raisesOnly_value _
  refine raisesOnly_bind (raisesOnly_raiseIf rfl) fun _ _ => raisesOnly_bind (raisesOnly_raiseIf rfl) fun _ _ => ?_
  exact raisesOnly_bind sfoValue_parseErrors fun _ _ => raisesOnly_value _

theorem sfoEntries_parseErrors (indices : List Nat) (result : Dict String SfoValue) :
    ParseErrorsOnly (indices.foldlM (sfoEntry data keyTable dataTable) result) := by
  induction indices generalizing result with
  | nil => exact raisesOnly_value _
  | cons index indices ih =>
    rw [List.foldlM_cons]
    exact raisesOnly_bind (sfoEntry_parseErrors result) fun next _ => ih next

theorem parseParamSfo_parseErrors (data : Bytes) : ParseErrorsOnly (parseParamSfo data) := by
  unfold parseParamSfo
  refine raisesOnly_bind (raisesOnly_raiseIf rfl) fun _ _ => raisesOnly_bind (raisesOnly_raiseIf rfl) fun _ _ => ?_
  refine raisesOnly_bind (raisesOnly_raiseIf rfl) fun _ _ => raisesOnly_bind (raisesOnly_raiseIf rfl) fun _ _ => ?_
  exact raisesOnly_bind (raisesOnly_raiseIf rfl) fun _ _ => sfoEntries_parseErrors _ _

end Guarded

/-- A file that holds the entries as the format has them gives just these entries, in the order of the index. Any bytes
at all give a mapping or a `ParseError`, and no access on the way leaves the file. -/
theorem parseParamSfo_total_roundTrip :
    (∀ plan data, SfoPlan.LaidOut plan data → parseParamSfo data = .ok plan.content) ∧
      ∀ data, guardedParamSfo data = parseParamSfo data ∧ ParseErrorsOnly (parseParamSfo data) :=
  ⟨fun _ _ laid => parseParamSfo_laidOut laid, fun data => ⟨guardedParamSfo_eq data, parseParamSfo_parseErrors data⟩⟩

instance (w other : Write) : Decidable (w.Apart other) :=
  inferInstanceAs (Decidable (w.stop ≤ other.start ∨ other.stop ≤ w.start))

/-- The values come in another order than their entries, with padding between them. -/
def samplePlan : SfoPlan where
  version := 0x101
  keyTable := 56
  dataTable := 64
  items := [{
    key := "ID", value := .text "U1", format := 0x0204, stored := [0x55, 0x31, 0, 7], maxLength := 8, keyOffset := 4,
    dataOffset := 8, named := by decide, free := by decide,
    stands := @SfoStored.text "U1" [0, 7] (by decide) (by simp), roomy := by decide, maxLength_lt := by decide,
    keyOffset_lt := by decide, dataOffset_lt := by decide }, {
    key := "N", value := .number 0x1234, format := 0x0404, stored := [0x34, 0x12, 0, 0], maxLength := 4,
    keyOffset := 1, dataOffset := 1, named := by decide, free := by decide,
    stands := @SfoStored.number 0x1234 [] (by decide), roomy := by decide, maxLength_lt := by decide,
    keyOffset_lt := by decide, dataOffset_lt := by decide }]
  distinct := by decide

theorem samplePlan_read :
    parseParamSfo (writeAll samplePlan.writes (List.replicate 80 0xEE)) =
      .ok [("ID", .text "U1"), ("N", .number 0x1234)] :=
  parseParamSfo_total_roundTrip.1 samplePlan _ (samplePlan.writeAll_laidOut (by decide +kernel) (by decide +kernel)
    (by decide) (by decide) (by decide) (by decide) (by decide +kernel))

end PspDisasm
