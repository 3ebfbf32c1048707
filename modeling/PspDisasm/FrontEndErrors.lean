import PspDisasm.Analyzer
import PspDisasm.RelocationEntries

namespace PspDisasm
open Foundations

section Buffers
variable {data raw : Bytes} {offset size : Nat}

theorem requireBuffer_total (inside : offset + size ≤ data.length) : requireBuffer data offset size = .ok () :=
  raiseIf_ok.mpr (by omega)

theorem requireExact_total (exactly : raw.length = size) : requireExact raw size = .ok () :=
  raiseIf_ok.mpr (not_not.mpr exactly)

theorem byteAt_total {i : Nat} (inside : i < data.length) : ∃ b, byteAt data i = .ok b := by
  unfold byteAt
  rw [List.getElem?_eq_getElem inside]
  exact ⟨_, rfl⟩

theorem unpackField_total (inside : offset + size ≤ data.length) : ∃ field, unpackField data offset size = .ok field := by
  unfold unpackField
  rw [requireBuffer_total inside]
  exact ⟨_, rfl⟩

theorem requireRange_parseErrors {what : String} : ParseErrorsOnly (requireRange data offset size what) :=
  raisesOnly_raiseIf rfl

theorem requireRange_ok {what : String} (checked : requireRange data offset size what = .ok ()) :
    offset + size ≤ data.length := by
  have bounds := raiseIf_ok.mp checked
  omega

/-- A computation that always returns raises nothing. -/
theorem parseErrors_total {α : Type} {x : Except Failure α} (total : ∃ a, x = .ok a) : ParseErrorsOnly x := by
  obtain ⟨a, same⟩ := total
  rw [same]
  exact raisesOnly_value a

end Buffers

section Headers
variable {order : Endianness} {data : Bytes} {header : ElfHeader} {index : Nat}

/-- Entry `index` of a table that has been checked as a whole lies in the file. -/
theorem table_entry {what : String} {start entrySize count minimum : Nat}
    (checked : requireTable data start entrySize count minimum what = .ok ()) (inside : index < count) :
    start + index * entrySize + minimum ≤ data.length := by
  unfold requireTable at checked
  rw [if_neg (by omega)] at checked
  obtain ⟨_, large, ranged⟩ := bind_ok.mp checked
  have enough := raiseIf_ok.mp large
  have whole := requireRange_ok ranged
  have step : (index + 1) * entrySize ≤ count * entrySize := Nat.mul_le_mul_right _ inside
  rw [Nat.add_mul, Nat.one_mul, Nat.mul_comm count] at step
  omega

theorem requireTable_parseErrors {what : String} {start entrySize count minimum : Nat} :
    ParseErrorsOnly (requireTable data start entrySize count minimum what) := by
  unfold requireTable
  split
  · exact raisesOnly_value _
  · exact raisesOnly_bind (raisesOnly_raiseIf rfl) fun _ _ => requireRange_parseErrors

theorem elfDataEncoding_parseErrors {encoding : UInt8} : ParseErrorsOnly (elfDataEncoding encoding) := by
  unfold elfDataEncoding
  split
  · exact raisesOnly_value _
  · split
    · exact raisesOnly_value _
    · exact raisesOnly_error.mpr rfl

theorem readElfHeader_total (inside : elfHeaderSize ≤ data.length) : ∃ header, readElfHeader order data = .ok header := by
  unfold readElfHeader
  rw [requireBuffer_total (by unfold elfHeaderSize at inside; omega)]
  exact ⟨_, rfl⟩

theorem readProgramHeader_parseErrors
    (inside : header.phoff + index * header.phentsize + programHeaderSize ≤ data.length) :
    ParseErrorsOnly (readProgramHeader order data header index) := by
  unfold readProgramHeader
  dsimp only
  rw [requireBuffer_total inside, ok_bind]
  split
  · exact raisesOnly_bind requireRange_parseErrors fun _ _ => raisesOnly_value _
  · exact raisesOnly_value _

theorem readRawSection_parseErrors
    (inside : header.shoff + index * header.shentsize + sectionHeaderSize ≤ data.length) :
    ParseErrorsOnly (readRawSection order data header index) := by
  unfold readRawSection
  dsimp only
  rw [requireBuffer_total inside, ok_bind]
  split
  · exact raisesOnly_bind requireRange_parseErrors fun _ _ => raisesOnly_value _
  · exact raisesOnly_value _

theorem readProgramHeaders_parseErrors
    (each : ∀ index < header.phnum, ParseErrorsOnly (readProgramHeader order data header index)) :
    ParseErrorsOnly (readProgramHeaders order data header) := by
  unfold readProgramHeaders
  split
  · rename_i failure failed
    have listed := raisesOnly_mapM (fun index member => each index (List.mem_range.mp member))
    exact raisesOnly_error.mpr (listed failure failed)
  · exact raisesOnly_value _

theorem sectionNameTable_parseErrors {rawSections : List RawSection} {shstrndx : Nat} :
    ParseErrorsOnly (sectionNameTable data rawSections shstrndx) := by
  unfold sectionNameTable
  split
  · exact raisesOnly_value _
  · split
    · exact raisesOnly_error.mpr rfl
    · split
      · exact raisesOnly_error.mpr rfl
      · exact raisesOnly_value _

/-- Every unpacked field of the headers lies in a table that was checked before. -/
theorem parseElf32_parseErrors : ParseErrorsOnly (parseElf32 data) := by
  unfold parseElf32
  refine raisesOnly_bind requireRange_parseErrors fun _ headerRange => ?_
  have long := requireRange_ok headerRange
  rw [Nat.zero_add] at long
  have bytes : 0x34 ≤ data.length := long
  refine raisesOnly_bind (raisesOnly_raiseIf rfl) fun _ _ => ?_
  refine raisesOnly_bind (parseErrors_total (byteAt_total (by omega))) fun _ _ => ?_
  refine raisesOnly_bind (raisesOnly_raiseIf rfl) fun _ _ => ?_
  refine raisesOnly_bind (parseErrors_total (byteAt_total (by omega))) fun _ _ => ?_
  refine raisesOnly_bind elfDataEncoding_parseErrors fun order _ => ?_
  refine raisesOnly_bind (parseErrors_total (readElfHeader_total long)) fun header _ => ?_
  refine raisesOnly_bind (raisesOnly_raiseIf rfl) fun _ _ => ?_
  refine raisesOnly_bind requireTable_parseErrors fun _ programTable => ?_
  refine raisesOnly_bind requireTable_parseErrors fun _ sectionTable => ?_
  have headers := readProgramHeaders_parseErrors fun index inside =>
    @readProgramHeader_parseErrors order data header index (table_entry programTable inside)
  have sections : ParseErrorsOnly ((List.range header.shnum).mapM (readRawSection order data header)) :=
    raisesOnly_mapM fun index member => readRawSection_parseErrors (table_entry sectionTable (List.mem_range.mp member))
  refine raisesOnly_bind headers fun _ _ => raisesOnly_bind sections fun _ _ => ?_
  exact raisesOnly_bind sectionNameTable_parseErrors fun _ _ => raisesOnly_value _

end Headers

section Walkers
variable {data : Bytes} {elf : ElfImage} {address cursor stop : Int} {what : String}

theorem readAtVaddr_parseErrors {size : Nat} : ParseErrorsOnly (readAtVaddr data elf address size what) := by
  unfold readAtVaddr
  split
  · exact raisesOnly_error.mpr rfl
  · split
    · exact raisesOnly_error.mpr rfl
    · exact raisesOnly_value _

/-- What is read at an address has the size that was asked for. -/
theorem readAtVaddr_length {size : Nat} {raw : Bytes} (read : readAtVaddr data elf address size what = .ok raw) :
    raw.length = size := by
  unfold readAtVaddr at read
  split at read
  · cases read
  · split at read
    · cases read
    · rename_i inside
      cases read
      exact slice_length (by omega)

theorem u32AtVaddr_parseErrors : ParseErrorsOnly (u32AtVaddr data elf address what) := by
  refine raisesOnly_bind readAtVaddr_parseErrors fun raw read => ?_
  rw [requireExact_total (readAtVaddr_length read)]
  exact raisesOnly_value _

theorem cstringAtVaddr_parseErrors : ParseErrorsOnly (cstringAtVaddr data elf address what) := by
  unfold cstringAtVaddr
  split
  · exact raisesOnly_error.mpr rfl
  · exact raisesOnly_value _

theorem parseModuleInfoAt_parseErrors {fileOffset : Nat} {location : ModuleInfoLocation} :
    ParseErrorsOnly (parseModuleInfoAt data elf fileOffset address location) := by
  refine raisesOnly_bind (raisesOnly_raiseIf rfl) fun _ checked => ?_
  have inside := raiseIf_ok.mp checked
  unfold moduleInfoSize at inside
  rw [requireBuffer_total (by omega), requireBuffer_total (by omega)]
  exact raisesOnly_value _

theorem moduleInfoOrWarning_total {read : Except Failure ModuleInfo} (documented : ParseErrorsOnly read) :
    ∃ result, moduleInfoOrWarning read = .ok result := by
  obtain ⟨outcome, caught, _⟩ := catchParseError_total documented
  unfold moduleInfoOrWarning
  rw [caught]
  cases outcome with
  | ok info => exact ⟨_, rfl⟩
  | error message => exact ⟨_, rfl⟩

theorem findModuleInfo_total (data : Bytes) (elf : ElfImage) : ∃ result, findModuleInfo data elf = .ok result := by
  unfold findModuleInfo
  split
  · exact moduleInfoOrWarning_total parseModuleInfoAt_parseErrors
  · split
    · exact ⟨_, rfl⟩
    · dsimp only
      split
      · exact ⟨_, rfl⟩
      · exact moduleInfoOrWarning_total parseModuleInfoAt_parseErrors

/-- The two words of an entry, read one after the other. -/
theorem nidPair_parseErrors {address other : Int} {first second : String} {build : Nat → Nat → NidEntry} :
    ParseErrorsOnly (do
      let word ← u32AtVaddr data elf address first
      let next ← u32AtVaddr data elf other second
      return build word next) :=
  raisesOnly_bind u32AtVaddr_parseErrors fun _ _ =>
    raisesOnly_bind u32AtVaddr_parseErrors fun _ _ => raisesOnly_value _

theorem readExport_parseErrors : ParseErrorsOnly (readExport data elf stop cursor) := by
  refine raisesOnly_bind readAtVaddr_parseErrors fun raw read => ?_
  rw [requireExact_total (readAtVaddr_length read), ok_bind]
  dsimp only
  split
  · exact raisesOnly_value _
  · split
    · exact raisesOnly_value _
    · -- The name is either fixed or read; what follows is the same.
      split
      all_goals
        refine raisesOnly_bind ?_ fun _ _ => raisesOnly_bind (raisesOnly_mapM fun _ _ => nidPair_parseErrors) fun _ _ =>
          raisesOnly_bind (raisesOnly_mapM fun _ _ => nidPair_parseErrors) fun _ _ => raisesOnly_value _
      · exact raisesOnly_value _
      · exact cstringAtVaddr_parseErrors

theorem readImport_parseErrors : ParseErrorsOnly (readImport data elf stop cursor) := by
  refine raisesOnly_bind readAtVaddr_parseErrors fun raw read => ?_
  rw [requireExact_total (readAtVaddr_length read), ok_bind]
  dsimp only
  split
  · exact raisesOnly_value _
  · split
    · exact raisesOnly_value _
    · -- With or without a pointer to a variable table, the rest of the entry is read alike.
      split
      all_goals
        refine raisesOnly_bind ?_ fun varsPtr _ => ?_
        rotate_left
        · split
          · exact raisesOnly_value _
          · refine raisesOnly_bind cstringAtVaddr_parseErrors fun _ _ => raisesOnly_bind (raisesOnly_mapM fun _ _ => ?_) fun _ _ => ?_
            · exact raisesOnly_bind u32AtVaddr_parseErrors fun _ _ => raisesOnly_value _
            · split
              · exact raisesOnly_bind (raisesOnly_value _) fun _ _ => raisesOnly_value _
              · exact raisesOnly_bind (raisesOnly_mapM fun _ _ => nidPair_parseErrors) fun _ _ => raisesOnly_value _
      · exact u32AtVaddr_parseErrors
      · exact raisesOnly_value _

/-- A walk turns every parse error of an entry into a warning and stops there. -/
theorem walkTable_total {readEntry : Int → Except Failure TableStep} {start : Int}
    (documented : ∀ cursor, ParseErrorsOnly (readEntry cursor)) :
    ∃ result, walkTable what start stop readEntry = .ok result := by
  have nothing : RaisesOnly (fun _ => False) ((tableLoop what stop readEntry).run ⟨start, [], [], false⟩) := by
    refine WhileLoop.run_raisesOnly fun s raised failed => ?_
    obtain ⟨outcome, caught, _⟩ := catchParseError_total (documented s.cursor)
    change walkEntry what readEntry s = .error raised at failed
    rw [walkEntry, caught, ok_bind] at failed
    split at failed <;> cases failed
  unfold walkTable
  cases ran : (tableLoop what stop readEntry).run ⟨start, [], [], false⟩ with
  | ok final => exact ⟨_, rfl⟩
  | error raised => exact absurd ran fun failed => nothing raised failed

end Walkers

section Analysis
variable {data : Bytes} {elf : ElfImage}

/-- The analysis of a parsed image always returns: what cannot be read becomes a warning. -/
theorem analyzePrx_total (parsed : elf.ParsedFrom data) : ∃ analysis, analyzePrx data elf = .ok analysis := by
  obtain ⟨⟨moduleInfo, infoWarnings⟩, found⟩ := findModuleInfo_total data elf
  obtain ⟨records, warnings, scanned, _⟩ := scanRelocations_total parsed
  have relocations : parseRelocations data elf = .ok (records.map (·.relocation), warnings) := by
    rw [parseRelocations, scanned]
    rfl
  unfold analyzePrx
  rw [found, relocations]
  cases moduleInfo with
  | none => exact ⟨_, rfl⟩
  | some info =>
    obtain ⟨exports, exportsRead⟩ : ∃ exports, walkExports data elf info = .ok exports :=
      walkTable_total fun _ => readExport_parseErrors
    obtain ⟨imports, importsRead⟩ : ∃ imports, walkImports data elf info = .ok imports :=
      walkTable_total fun _ => readImport_parseErrors
    simp only [ok_bind, exportsRead, importsRead]
    exact ⟨_, rfl⟩

/-- The header of a container lies below offset 0x150, which is checked first. -/
theorem parsePspContainerHeader_parseErrors : ParseErrorsOnly (parsePspContainerHeader data) := by
  refine raisesOnly_bind (raisesOnly_raiseIf rfl) fun _ checked => ?_
  have long := raiseIf_ok.mp checked
  unfold pspHeaderSize at long
  have fields : ∀ start width i : Nat, start + width * i + width ≤ 0x150 →
      ∃ field, unpackField data (start + width * i) width = .ok field :=
    fun start width i inside => unpackField_total (by omega)
  have field : ∀ start width : Nat, start + width ≤ 0x150 → ParseErrorsOnly (unpackField data start width) :=
    fun start width inside => parseErrors_total (unpackField_total (by omega))
  have byte : ∀ i < 0x150, ParseErrorsOnly (byteAt data i) :=
    fun i inside => parseErrors_total (byteAt_total (by omega))
  have table : ∀ start width : Nat, start + 4 * width ≤ 0x150 →
      ParseErrorsOnly ((List.range 4).mapM fun i => unpackField data (start + width * i) width) := by
    intro start width inside
    refine raisesOnly_mapM fun i member => parseErrors_total (fields start width i ?_)
    have small := List.mem_range.mp member
    have : width * i ≤ width * 3 := Nat.mul_le_mul_left _ (by omega)
    omega
  refine raisesOnly_bind (raisesOnly_raiseIf rfl) fun _ _ => ?_
  refine raisesOnly_bind (field _ _ (by decide)) fun _ _ => raisesOnly_bind (field _ _ (by decide)) fun _ _ => ?_
  refine raisesOnly_bind (byte _ (by decide)) fun _ _ => raisesOnly_bind (byte _ (by decide)) fun _ _ => ?_
  refine raisesOnly_bind (byte _ (by decide)) fun _ _ => raisesOnly_bind (byte _ (by decide)) fun _ _ => ?_
  refine raisesOnly_bind (field _ _ (by decide)) fun _ _ => raisesOnly_bind (field _ _ (by decide)) fun _ _ => ?_
  refine raisesOnly_bind (field _ _ (by decide)) fun _ _ => raisesOnly_bind (field _ _ (by decide)) fun _ _ => ?_
  refine raisesOnly_bind (field _ _ (by decide)) fun _ _ => ?_
  refine raisesOnly_bind (table _ _ (by decide)) fun _ _ => raisesOnly_bind (table _ _ (by decide)) fun _ _ => ?_
  refine raisesOnly_bind (table _ _ (by decide)) fun _ _ => raisesOnly_bind (field _ _ (by decide)) fun _ _ => ?_
  refine raisesOnly_bind (byte _ (by decide)) fun _ _ => raisesOnly_bind (field _ _ (by decide)) fun _ _ => ?_
  refine raisesOnly_bind (field _ _ (by decide)) fun _ _ => raisesOnly_bind (field _ _ (by decide)) fun _ _ => ?_
  exact raisesOnly_value _

theorem analyzeElf_parseErrors {sourceName : String} : ParseErrorsOnly (analyzeElf data sourceName) := by
  refine raisesOnly_bind parseElf32_parseErrors fun elf parsed => ?_
  dsimp only
  split
  · refine raisesOnly_bind ?_ fun _ _ => raisesOnly_value _
    exact parseErrors_total (analyzePrx_total (parseElf32_parsedFrom parsed))
  · exact raisesOnly_bind (raisesOnly_value _) fun _ _ => raisesOnly_value _

/-- Whatever the input is, its analysis ends with a model or with a parse error. -/
theorem analyzeBytes_total (data : Bytes) (sourceName : String) :
    (∃ model, analyzeBytes data sourceName = .ok model) ∨
      ∃ message, analyzeBytes data sourceName = .error (.parseError message) := by
  have documented : ParseErrorsOnly (analyzeBytes data sourceName) := by
    refine raisesOnly_bind ?_ fun kind _ => ?_
    · unfold detectInput
      split
      · exact raisesOnly_value _
      · split
        · exact raisesOnly_value _
        · exact raisesOnly_error.mpr rfl
    · cases kind with
      | pspContainer =>
        exact raisesOnly_bind parsePspContainerHeader_parseErrors fun _ _ => raisesOnly_value _
      | elf32 => exact analyzeElf_parseErrors
  cases outcome : analyzeBytes data sourceName with
  | ok model => exact Or.inl ⟨model, rfl⟩
  | error failure =>
    have parse := documented failure outcome
    cases failure with
    | parseError message => exact Or.inr ⟨message, rfl⟩
    | _ => cases parse

end Analysis

end PspDisasm
