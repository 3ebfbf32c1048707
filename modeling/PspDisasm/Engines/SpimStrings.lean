import PspDisasm.Disc.SfoLayout
import PspDisasm.Engines.SpimTables

namespace PspDisasm
open Foundations

namespace Spim

section Text
variable {data raw window : Bytes} {offset size : Nat} {value : String}

theorem decodeUtf8Strict_some : decodeUtf8Strict raw = some value ↔ raw = utf8Bytes value := by
  constructor
  · intro decoded
    unfold decodeUtf8Strict String.fromUTF8? at decoded
    split at decoded
    · cases decoded
      simp [utf8Bytes, String.fromUTF8]
    · cases decoded
  · rintro rfl
    exact decodeUtf8Strict_utf8Bytes value

theorem untilNul_eq_iff : 0 ∈ window ∧ untilNul window = raw ↔ 0 ∉ raw ∧ raw ++ [0] <+: window := by
  constructor
  · rintro ⟨closed, rfl⟩
    have free : 0 ∉ untilNul window := fun inside => by
      have plain := List.all_eq_true.mp List.all_takeWhile 0 inside
      simp at plain
    refine ⟨free, ?_⟩
    clear free
    induction window with
    | nil => cases closed
    | cons byte rest ih =>
      by_cases zero : byte = 0
      · subst zero
        simp [untilNul]
      · have later : 0 ∈ rest := (List.mem_cons.mp closed).resolve_left (Ne.symm zero)
        have kept : untilNul (byte :: rest) = byte :: untilNul rest := by simp [untilNul, zero]
        rw [kept, List.cons_append, List.cons_prefix_cons]
        exact ⟨rfl, ih later⟩
  · rintro ⟨free, tail, rfl⟩
    have cut : ∀ byte ∈ ([0] ++ tail).head?, byte = 0 := by simp
    rw [List.append_assoc]
    exact ⟨by simp, untilNul_append free cut⟩

theorem prefix_slice_iff : window <+: slice data offset size ↔ slice data offset window.length = window ∧ window.length ≤ size := by
  constructor
  · intro opens
    have short := opens.length_le
    have within : window.length ≤ size := short.trans (by simp [slice])
    refine ⟨?_, within⟩
    have taken := List.prefix_iff_eq_take.mp opens
    rw [slice, List.take_take, Nat.min_eq_left within] at taken
    exact taken.symm
  · rintro ⟨stored, within⟩
    rw [← stored, slice, slice]
    exact List.take_prefix_take_left within

end Text

section Strings
variable (elf : ElfImage) (isPrintable : Char → Bool)

/-- A text of the file: its bytes stand at the address, a NUL follows them, and both lie in the section of the address. -/
structure TextAt (sec : Section) (address : Int) (value : String) : Prop where
  stored : ∃ offset, elf.vaddrToOffset address = some offset ∧
    slice elf.rawData offset ((utf8Bytes value).length + 1) = utf8Bytes value ++ [0] ∧
    offset + (utf8Bytes value).length + 1 ≤ sec.offset + sec.size
  free : 0 ∉ utf8Bytes value
  long : 4 ≤ (utf8Bytes value).length
  short : (utf8Bytes value).length < 256
  printable : value.toList.all isPrintable = true

variable {elf isPrintable} {sec : Section} {address : Int} {value : String}

theorem decodeReferencedString_iff :
    decodeReferencedString elf isPrintable sec address = some value ↔ TextAt elf isPrintable sec address value := by
  unfold decodeReferencedString
  cases mapped : elf.vaddrToOffset address with
  | none =>
    refine ⟨fun none => (Option.some_ne_none _ none.symm).elim, fun text => ?_⟩
    obtain ⟨offset, found, _⟩ := text.stored
    cases mapped.symm.trans found
  | some offset =>
    let endLimit := min (sec.offset + sec.size) (offset + 256)
    have window : ∀ raw : Bytes, (0 ∈ slice elf.rawData offset (endLimit - offset) ∧
        untilNul (slice elf.rawData offset (endLimit - offset)) = raw) ↔
        0 ∉ raw ∧ slice elf.rawData offset (raw.length + 1) = raw ++ [0] ∧ raw.length + 1 ≤ endLimit - offset := by
      intro raw
      rw [untilNul_eq_iff, prefix_slice_iff, List.length_append, List.length_singleton]
    dsimp only
    rw [Option.ite_none_left_eq_some, Option.filter_eq_some_iff, decodeUtf8Strict_some, not_or, not_not, not_lt, decide_eq_true_eq]
    constructor
    · rintro ⟨⟨closed, long⟩, same, shown⟩
      obtain ⟨free, stored, within⟩ := (window _).mp ⟨closed, same⟩
      rw [same] at long
      exact ⟨⟨offset, mapped, stored, by omega⟩, free, long, by omega, shown.2⟩
    · intro text
      obtain ⟨place, found, stored, inside⟩ := text.stored
      obtain rfl := Option.some.inj (mapped.symm.trans found)
      have short := text.short
      have long := text.long
      obtain ⟨closed, same⟩ := (window _).mpr ⟨text.free, stored, by omega⟩
      refine ⟨⟨closed, same ▸ long⟩, same, ?_, text.printable⟩
      rintro rfl
      exact absurd long (by decide)

/-- The reference reads the address. -/
def ReferenceRecord.Reads (reference : ReferenceRecord) (address : Int) : Prop :=
  reference.kind ∈ ["data", "pointer"] ∧ reference.targetAddress = address

instance (reference : ReferenceRecord) (address : Int) : Decidable (reference.Reads address) :=
  inferInstanceAs (Decidable (_ ∧ _))

variable (elf isPrintable)

/-- The text at an address that a reference may note, with the name of its section. -/
def textOf (address : Int) : Option (String × String) :=
  match findSection elf address with
  | none => none
  | some sec =>
    if sec.kind = .executable ∨ sec.type = 8 then none
    else (decodeReferencedString elf isPrintable sec address).map fun value => (value, sectionName sec)

/-- Where an address is read, in the order of the references. -/
def readers (references : List ReferenceRecord) (address : Int) : List Int :=
  (references.filter fun reference => reference.Reads address).map (·.sourceAddress)

def stringOf (references : List ReferenceRecord) (address : Int) : Option StringRecord :=
  if readers references address = [] then none
  else (textOf elf isPrintable address).map fun text => ⟨address, text.1, text.2, readers references address⟩

variable {elf isPrintable} {references : List ReferenceRecord} {record : StringRecord}

theorem noteString_eq (byAddress : Dict Int StringRecord) (reference : ReferenceRecord) :
    noteString elf isPrintable byAddress reference =
      if reference.kind ∉ ["data", "pointer"] then byAddress
      else match textOf elf isPrintable reference.targetAddress with
        | none => byAddress
        | some text =>
          let existing := (byAddress.get? reference.targetAddress).getD ⟨reference.targetAddress, text.1, text.2, []⟩
          byAddress.set reference.targetAddress { existing with referencedBy := existing.referencedBy ++ [reference.sourceAddress] } := by
  unfold noteString textOf
  cases findSection elf reference.targetAddress with
  | none => rfl
  | some sec =>
    by_cases unfit : sec.kind = .executable ∨ sec.type = 8
    · simp only [if_pos unfit]
    · simp only [if_neg unfit]
      cases decodeReferencedString elf isPrintable sec reference.targetAddress <;> rfl

theorem readers_read {reference : ReferenceRecord} (reads : reference.Reads address) :
    readers (references ++ [reference]) address = readers references address ++ [reference.sourceAddress] := by
  rw [readers, List.filter_append, List.map_append, ← readers, List.filter_singleton, decide_eq_true reads]
  rfl

theorem readers_other {reference : ReferenceRecord} (other : ¬reference.Reads address) :
    readers (references ++ [reference]) address = readers references address := by
  rw [readers, List.filter_append, List.map_append, ← readers, List.filter_singleton, decide_eq_false other]
  exact List.append_nil _

/-- Under each address stands its text, with all the places that read it. -/
theorem get?_noted : (references.foldl (noteString elf isPrintable) []).get? address = stringOf elf isPrintable references address := by
  induction references using List.reverseRecOn with
  | nil => rfl
  | append_singleton references reference ih =>
    rw [List.foldl_append, List.foldl_cons, List.foldl_nil, noteString_eq]
    by_cases data : reference.kind ∈ ["data", "pointer"]
    · rw [if_neg (not_not.mpr data)]
      by_cases here : reference.targetAddress = address
      · subst here
        rw [stringOf, readers_read ⟨data, rfl⟩, if_neg (List.append_ne_nil_of_right_ne_nil _ (List.cons_ne_nil _ _))]
        cases text : textOf elf isPrintable reference.targetAddress with
        | none => simp only [ih, stringOf, text, Option.map_none, ite_self]
        | some text' =>
          simp only [Dict.get?_set, if_true, ih, stringOf, text, Option.map_some]
          by_cases first : readers references reference.targetAddress = [] <;> simp [first]
      · rw [stringOf, readers_other fun reads => here reads.2, ← stringOf]
        cases textOf elf isPrintable reference.targetAddress with
        | none => exact ih
        | some text =>
          simp only [Dict.get?_set, here, if_false]
          exact ih
    · rw [if_pos data, stringOf, readers_other fun reads => data reads.1, ← stringOf]
      exact ih

theorem noted_nodup : (references.foldl (noteString elf isPrintable) []).keys.Nodup := by
  induction references using List.reverseRecOn with
  | nil => exact List.nodup_nil
  | append_singleton references reference ih =>
    rw [List.foldl_append, List.foldl_cons, List.foldl_nil, noteString_eq]
    split
    · exact ih
    · split
      · exact ih
      · exact Dict.nodup_set ih

/-- A string of a disassembly: a text of the file outside the code, with the places that read it, of which there is at
least one. -/
structure StringNoted (elf : ElfImage) (isPrintable : Char → Bool) (references : List ReferenceRecord) (record : StringRecord) : Prop where
  text : ∃ sec, findSection elf record.address = some sec ∧ sec.kind ≠ .executable ∧ sec.type ≠ 8 ∧
    record.sectionName = sectionName sec ∧ TextAt elf isPrintable sec record.address record.value
  isRead : record.referencedBy ≠ []
  readers : ∀ site, site ∈ record.referencedBy ↔ ∃ reference ∈ references, reference.Reads record.address ∧ reference.sourceAddress = site
  ascending : record.referencedBy.Pairwise (· < ·)

theorem textOf_some {text : String × String} : textOf elf isPrintable address = some text ↔
    ∃ sec, findSection elf address = some sec ∧ sec.kind ≠ .executable ∧ sec.type ≠ 8 ∧ text.2 = sectionName sec ∧
      TextAt elf isPrintable sec address text.1 := by
  unfold textOf
  cases findSection elf address with
  | none => simp
  | some sec =>
    simp only [Option.ite_none_left_eq_some, not_or, Option.map_eq_some_iff, decodeReferencedString_iff, Option.some.injEq]
    constructor
    · rintro ⟨⟨plain, data⟩, value, found, rfl⟩
      exact ⟨sec, rfl, plain, data, rfl, found⟩
    · rintro ⟨_, rfl, plain, data, name, found⟩
      exact ⟨⟨plain, data⟩, text.1, found, Prod.ext rfl name.symm⟩

theorem mem_readers {site : Int} : site ∈ readers references address ↔
    ∃ reference ∈ references, reference.Reads address ∧ reference.sourceAddress = site := by
  simp only [readers, List.mem_map, List.mem_filter, decide_eq_true_eq, and_assoc]

theorem mem_sites {sites : List Int} {site : Int} : site ∈ sortedBy id sites.dedup ↔ site ∈ sites := by
  rw [mem_sortedBy, List.mem_dedup]

theorem sites_ascending (sites : List Int) : (sortedBy id sites.dedup).Pairwise (· < ·) :=
  sortedBy_strict sites.nodup_dedup fun _ _ _ _ same => same

theorem mem_detectStrings : record ∈ detectStrings elf isPrintable references ↔ StringNoted elf isPrintable references record := by
  rw [detectStrings, mem_sortedBy, List.mem_map]
  simp only [Dict.mem_values noted_nodup, get?_noted, stringOf, Option.ite_none_left_eq_some, Option.map_eq_some_iff]
  constructor
  · rintro ⟨_, ⟨address, isRead, text, found, rfl⟩, rfl⟩
    refine ⟨textOf_some.mp found, ?_, fun site => ?_, sites_ascending _⟩
    · obtain ⟨site, listed⟩ := List.exists_mem_of_ne_nil _ isRead
      exact List.ne_nil_of_mem (mem_sites.mpr listed)
    · rw [← mem_readers]
      exact mem_sites
  · intro noted
    obtain ⟨site, listed⟩ := List.exists_mem_of_ne_nil _ noted.isRead
    have isRead : readers references record.address ≠ [] :=
      List.ne_nil_of_mem (mem_readers.mpr ((noted.readers site).mp listed))
    refine ⟨⟨record.address, record.value, record.sectionName, readers references record.address⟩,
      ⟨record.address, isRead, (record.value, record.sectionName), textOf_some.mpr noted.text, rfl⟩, ?_⟩
    have sites : sortedBy id (readers references record.address).dedup = record.referencedBy := by
      refine @ascending_ext _ _ _ _ _ id (sites_ascending _) noted.ascending fun site => ?_
      rw [mem_sites, mem_readers, noted.readers]
    rw [sites]

theorem detectStrings_ascending :
    (detectStrings elf isPrintable references).Pairwise fun record other => record.address < other.address := by
  let byAddress := references.foldl (noteString elf isPrintable) []
  have named : byAddress.values.map (·.address) = byAddress.keys := by
    rw [Dict.values, Dict.keys, List.map_map]
    refine List.map_congr_left fun entry member => ?_
    have found := Dict.get?_of_mem noted_nodup member
    rw [get?_noted, stringOf, Option.ite_none_left_eq_some, Option.map_eq_some_iff] at found
    obtain ⟨_, _, _, same⟩ := found
    exact congrArg StringRecord.address same.symm
  have distinct : ((detectStrings elf isPrintable references).map (·.address)).Nodup := by
    rw [detectStrings, (sortedBy_perm.map _).nodup_iff, List.map_map]
    exact named ▸ noted_nodup
  refine (sortedBy_pairwise.and (List.pairwise_map.mp distinct)).imp ?_
  rintro record other ⟨below, different⟩
  exact lt_of_le_of_ne (Prod.Lex.monotone_fst _ _ below) different

end Strings

section References
variable {elf : ElfImage} {text : EngineText} {reference : ReferenceRecord}

/-- The kinds of references, each with the instructions that the engine has noted for it. -/
def InstructionAnalyzer.noted (analyzer : InstructionAnalyzer) : List (String × Dict Int Int) := [
  ("call", analyzer.funcCallInstrOffsets), ("branch", analyzer.branchInstrOffsets),
  ("data", analyzer.symbolInstrOffset), ("indirect_call", analyzer.indirectFunctionCallIntrOffset)]

/-- The engine has noted the reference at an instruction of a function. -/
def RefersBy (elf : ElfImage) (text : EngineText) (reference : ReferenceRecord) : Prop :=
  ∃ function ∈ text.symbolList, ∃ noted ∈ function.analyzer.noted, ∃ localOffset,
    (localOffset, reference.targetAddress) ∈ noted.2 ∧ reference.kind = noted.1 ∧ reference.sourceFunction = some function.name ∧
    reference.sourceAddress = function.vram + localOffset ∧
    reference.targetSection = (findSection elf reference.targetAddress).map sectionName

theorem mem_referencesOf {function : EngineFunction} {offsets : Dict Int Int} {kind : String} :
    reference ∈ referencesOf elf function offsets kind ↔ ∃ localOffset, (localOffset, reference.targetAddress) ∈ offsets ∧
      reference.kind = kind ∧ reference.sourceFunction = some function.name ∧
      reference.sourceAddress = function.vram + localOffset ∧
      reference.targetSection = (findSection elf reference.targetAddress).map sectionName := by
  rw [referencesOf, List.mem_map]
  constructor
  · rintro ⟨⟨localOffset, target⟩, listed, rfl⟩
    exact ⟨localOffset, listed, rfl, rfl, rfl, rfl⟩
  · rintro ⟨localOffset, listed, rfl, source, site, place⟩
    refine ⟨(localOffset, reference.targetAddress), listed, ?_⟩
    rw [makeReference, ← source, ← site, ← place]

theorem mem_normalizeReferences :
    reference ∈ normalizeReferences elf text ++ normalizeIndirectReferences elf text ↔ RefersBy elf text reference := by
  have kinds : ∀ function : EngineFunction, reference ∈ (referencesOf elf function function.analyzer.funcCallInstrOffsets "call" ++
      referencesOf elf function function.analyzer.branchInstrOffsets "branch" ++
      referencesOf elf function function.analyzer.symbolInstrOffset "data") ∨
      reference ∈ referencesOf elf function function.analyzer.indirectFunctionCallIntrOffset "indirect_call" ↔
      ∃ noted ∈ function.analyzer.noted, reference ∈ referencesOf elf function noted.2 noted.1 := by
    intro function
    simp only [InstructionAnalyzer.noted, List.mem_append, List.mem_cons, List.not_mem_nil, or_false, exists_eq_or_imp, exists_eq_left,
      or_assoc]
  rw [List.mem_append, normalizeReferences, normalizeIndirectReferences, List.mem_flatMap, List.mem_flatMap, ← exists_or]
  refine exists_congr fun function => ?_
  rw [← and_or_left, kinds]
  simp only [mem_referencesOf]

theorem references_tellApart {texts : List (Section × EngineText)} : TellsApart ReferenceRecord.key
    (texts.flatMap fun item => normalizeReferences elf item.2 ++ normalizeIndirectReferences elf item.2) := by
  have placed : ∀ reference ∈ texts.flatMap (fun item => normalizeReferences elf item.2 ++ normalizeIndirectReferences elf item.2),
      reference.targetSection = (findSection elf reference.targetAddress).map sectionName := by
    intro reference listed
    obtain ⟨item, _, member⟩ := List.mem_flatMap.mp listed
    obtain ⟨_, _, _, _, _, _, _, _, _, place⟩ := mem_normalizeReferences.mp member
    exact place
  intro reference listed other otherListed same
  have place := placed reference listed
  have otherPlace := placed other otherListed
  cases reference
  cases other
  cases same
  rw [ReferenceRecord.mk.injEq]
  exact ⟨rfl, rfl, rfl, rfl, place.trans otherPlace.symm⟩

end References

section Results
variable {σ : Type} {engines : EngineModules σ} {elf : ElfImage} {model : ExecutableModel} {isPrintable : Char → Bool}
  {result : DisassemblyResult} {texts : List (Section × EngineText)}

theorem FromTexts.mem_references (taken : FromTexts elf isPrintable texts result) {reference : ReferenceRecord} :
    reference ∈ result.references ↔ ∃ item ∈ texts, RefersBy elf item.2 reference := by
  rw [taken.references, deduplicateReferences, mem_sortedBy, mem_latest_of_tellsApart references_tellApart, List.mem_flatMap]
  simp only [mem_normalizeReferences]

/-- Whatever the engine answers, a disassembly keeps each of its references once, and its strings are exactly the texts
of the file that a data reference leads to: bytes of printable UTF-8 with a NUL behind them, inside a section that is
neither code nor without file bytes, each with all the places that read it. -/
theorem analyze_strings (analyzed : analyze engines isPrintable elf model = .ok result) :
    ∃ texts, AnalyzedTexts engines elf model texts ∧
      (∀ reference, reference ∈ result.references ↔ ∃ item ∈ texts, RefersBy elf item.2 reference) ∧
      (result.references.map ReferenceRecord.key).Nodup ∧
      (∀ record, record ∈ result.strings ↔ StringNoted elf isPrintable result.references record) ∧
      result.strings.Pairwise fun record other => record.address < other.address := by
  obtain ⟨texts, obtained, taken⟩ := analyze_fromTexts analyzed
  refine ⟨texts, obtained, fun reference => taken.mem_references, ?_, fun record => ?_, ?_⟩
  · rw [taken.references]
    exact (sortedBy_perm.map _).nodup_iff.mpr map_key_latest_nodup
  · rw [taken.strings, mem_detectStrings]
  · rw [taken.strings]
    exact detectStrings_ascending

theorem switchImage_strings : ∃ result, analyze switchEngine (fun _ => true) switchImage switchModel = .ok result ∧
    ∀ record, record ∈ result.strings ↔ StringNoted switchImage (fun _ => true) result.references record := by
  obtain ⟨result, analyzed⟩ := exists_ok switchImage_analyzed
  obtain ⟨_, _, _, _, strings, _⟩ := analyze_strings analyzed
  exact ⟨result, analyzed, strings⟩

end Results

end Spim

end PspDisasm
