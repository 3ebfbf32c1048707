import PspDisasm.Engines.Spim
import PspDisasm.Foundations.Raising

namespace PspDisasm
open Foundations

namespace Spim

section Texts
variable {σ : Type} (engines : EngineModules σ) (elf : ElfImage)

/-- What the engine has made of the executable sections with whole instructions, one after the other. -/
inductive Analyzed : σ → List Section → List (Section × EngineText) → σ → Prop
  | done (context : σ) : Analyzed context [] [] context
  | skip {context after : σ} {sec : Section} {rest : List Section} {texts : List (Section × EngineText)}
      (plain : sec.kind ≠ .executable ∨ sec.size < 4) (others : Analyzed context rest texts after) :
      Analyzed context (sec :: rest) texts after
  | code {context next after : σ} {sec : Section} {text : EngineText} {rest : List Section} {texts : List (Section × EngineText)}
      (executable : sec.kind = .executable) (whole : 4 ≤ sec.size)
      (answered : engines.sectionText context sec.offset (sec.offset + (sec.size - sec.size % 4)) sec.addr (sectionName sec)
        elf.rawData = .ok (text, next))
      (others : Analyzed next rest texts after) : Analyzed context (sec :: rest) ((sec, text) :: texts) after

variable {engines elf} {sections : List Section} {run final : AnalyzeRun σ} {texts : List (Section × EngineText)} {context after : σ}

/-- The lists that a run adds to, as they grow with some texts. -/
structure AnalyzeRun.Extends (run final : AnalyzeRun σ) (elf : ElfImage) (texts : List (Section × EngineText)) : Prop where
  functions : final.functions = run.functions ++ texts.flatMap fun item => normalizeFunctions item.2 item.1
  references : final.references = run.references ++
    texts.flatMap fun item => normalizeReferences elf item.2 ++ normalizeIndirectReferences elf item.2
  jumpTables : final.jumpTables = run.jumpTables ++ texts.flatMap fun item => normalizeJumpTables elf item.2

theorem foldlM_analyzed (ran : sections.foldlM (analyzeSection engines elf) run = .ok final) :
    ∃ texts, Analyzed engines elf run.context sections texts final.context ∧ run.Extends final elf texts := by
  induction sections generalizing run with
  | nil =>
    cases ran
    exact ⟨[], .done _, by simp, by simp, by simp⟩
  | cons sec rest ih =>
    rw [List.foldlM_cons] at ran
    obtain ⟨next, turn, later⟩ := bind_ok.mp ran
    obtain ⟨texts, others, grown⟩ := ih later
    unfold analyzeSection at turn
    split at turn
    · rename_i plain
      cases turn
      exact ⟨texts, .skip (plain.imp_right (by omega)) others, grown⟩
    · rename_i code
      obtain ⟨executable, filled⟩ := not_or.mp code
      dsimp only at turn
      split at turn
      · rename_i short
        cases turn
        exact ⟨texts, .skip (Or.inr (by omega)) others, ⟨grown.functions, grown.references, grown.jumpTables⟩⟩
      · rename_i whole
        split at turn
        · cases turn
        · rename_i text after answered
          cases turn
          refine ⟨(sec, text) :: texts, .code (not_not.mp executable) (by omega) answered others, ?_, ?_, ?_⟩
          · rw [grown.functions, List.flatMap_cons, List.append_assoc]
          · rw [grown.references, List.flatMap_cons, List.append_assoc]
          · rw [grown.jumpTables, List.flatMap_cons, List.append_assoc]

theorem Analyzed.section_mem (analyzed : Analyzed engines elf context sections texts after) :
    ∀ item ∈ texts, item.1 ∈ sections ∧ item.1.kind = .executable := by
  induction analyzed with
  | done => simp
  | skip _ _ ih => exact fun item listed => (ih item listed).imp_left (List.mem_cons_of_mem _)
  | code executable _ _ _ ih =>
    rintro item listed
    rcases List.mem_cons.mp listed with rfl | later
    · exact ⟨List.mem_cons_self, executable⟩
    · exact (ih item later).imp_left (List.mem_cons_of_mem _)

variable (engines elf) (model : ExecutableModel)

/-- The texts that a whole analysis has obtained. -/
def AnalyzedTexts (texts : List (Section × EngineText)) : Prop :=
  match mappedSections elf with
  | [] => texts = []
  | first :: rest => ∃ after, Analyzed engines elf (seededContext engines elf model first rest).1 elf.sections texts after

variable {engines elf model} {isPrintable : Char → Bool} {result : DisassemblyResult}

/-- What a disassembly takes over from the engine's texts. -/
structure FromTexts (elf : ElfImage) (isPrintable : Char → Bool) (texts : List (Section × EngineText)) (result : DisassemblyResult) : Prop where
  functions : result.functions = sortedBy (fun record : FunctionRecord => (toLex (record.address, record.name) : Int ×ₗ String))
    (texts.flatMap fun item => normalizeFunctions item.2 item.1)
  references : result.references = deduplicateReferences
    (texts.flatMap fun item => normalizeReferences elf item.2 ++ normalizeIndirectReferences elf item.2)
  strings : result.strings = detectStrings elf isPrintable result.references
  jumpTables : result.jumpTables = deduplicateJumpTables (texts.flatMap fun item => normalizeJumpTables elf item.2)

theorem analyze_fromTexts (analyzed : analyze engines isPrintable elf model = .ok result) :
    ∃ texts, AnalyzedTexts engines elf model texts ∧ FromTexts elf isPrintable texts result := by
  unfold analyze at analyzed
  cases mapped : mappedSections elf with
  | nil =>
    rw [mapped] at analyzed
    cases analyzed
    exact ⟨[], by rw [AnalyzedTexts, mapped], rfl, rfl, rfl, rfl⟩
  | cons first rest =>
    rw [mapped] at analyzed
    obtain ⟨run, ran, returned⟩ := bind_ok.mp analyzed
    obtain ⟨texts, obtained, grown⟩ := foldlM_analyzed ran
    cases returned
    refine ⟨texts, by rw [AnalyzedTexts, mapped]; exact ⟨_, obtained⟩, ?_, ?_, rfl, ?_⟩
    · rw [grown.functions, List.nil_append]
    · rw [grown.references, List.nil_append]
    · rw [grown.jumpTables, List.nil_append]

end Texts

section Tables
variable (elf : ElfImage)

/-- The address lies in an executable section. -/
def IsCode (address : Int) : Prop := ∃ sec, findSection elf address = some sec ∧ sec.kind = .executable

def fileWord (offset : Nat) : Int := wordAt .little elf.rawData offset 4

/-- The words of the file from an offset on, up to the end, to the first word that is no address of code, or to a
number of entries. -/
structure TargetRun (offset sectionEnd entries : Nat) (targets : List Int) : Prop where
  few : targets.length ≤ entries
  words : ∀ i target, targets[i]? = some target →
    offset + 4 * i + 4 ≤ sectionEnd ∧ target = fileWord elf (offset + 4 * i) ∧ IsCode elf target
  stops : targets.length = entries ∨ sectionEnd < offset + 4 * targets.length + 4 ∨
    ¬IsCode elf (fileWord elf (offset + 4 * targets.length))

variable {elf} {offset sectionEnd entries : Nat} {target : Int} {targets : List Int}

theorem TargetRun.cons_iff : TargetRun elf offset sectionEnd (entries + 1) (target :: targets) ↔
    (offset + 4 ≤ sectionEnd ∧ target = fileWord elf offset ∧ IsCode elf target) ∧
      TargetRun elf (offset + 4) sectionEnd entries targets := by
  have shifted : ∀ i, offset + 4 * (i + 1) = offset + 4 + 4 * i := fun i => by omega
  constructor
  · intro run
    refine ⟨run.words 0 target rfl, Nat.le_of_succ_le_succ run.few, fun i later found => ?_, ?_⟩
    · rw [← shifted]
      exact run.words (i + 1) later found
    · have stops := run.stops
      rw [List.length_cons, shifted] at stops
      exact stops.imp_left Nat.succ_inj.mp
  · rintro ⟨first, run⟩
    refine ⟨Nat.succ_le_succ run.few, fun i later found => ?_, ?_⟩
    · cases i with
      | zero =>
        cases found
        exact first
      | succ i =>
        rw [shifted]
        exact run.words i later found
    · rw [List.length_cons, shifted]
      exact run.stops.imp_left Nat.succ_inj.mpr

theorem TargetRun.nil_iff : TargetRun elf offset sectionEnd (entries + 1) [] ↔
    sectionEnd < offset + 4 ∨ ¬IsCode elf (fileWord elf offset) := by
  constructor
  · intro run
    exact run.stops.resolve_left (Nat.succ_ne_zero entries).symm
  · intro stops
    exact ⟨Nat.zero_le _, fun i target found => by simp at found, Or.inr stops⟩

theorem tableTargets_ended (ended : sectionEnd < offset + 4) : tableTargets elf offset sectionEnd (entries + 1) = [] := by
  rw [tableTargets, if_pos ended]

theorem tableTargets_code (room : ¬sectionEnd < offset + 4) (valid : IsCode elf (fileWord elf offset)) :
    tableTargets elf offset sectionEnd (entries + 1) =
      fileWord elf offset :: tableTargets elf (offset + 4) sectionEnd entries := by
  obtain ⟨sec, found, executable⟩ := valid
  rw [fileWord] at found
  rw [tableTargets, if_neg room]
  simp only [found, executable, ne_eq, not_true_eq_false, if_false, fileWord]

theorem tableTargets_stopped (room : ¬sectionEnd < offset + 4) (invalid : ¬IsCode elf (fileWord elf offset)) :
    tableTargets elf offset sectionEnd (entries + 1) = [] := by
  rw [tableTargets, if_neg room]
  dsimp only
  split
  · rfl
  · rename_i sec found
    refine if_pos fun executable => invalid ⟨sec, found, executable⟩

/-- The decoder reads exactly the run of targets that stands in the file. -/
theorem targetRun_iff : TargetRun elf offset sectionEnd entries targets ↔ targets = tableTargets elf offset sectionEnd entries := by
  induction entries generalizing offset targets with
  | zero =>
    rw [tableTargets]
    constructor
    · exact fun run => List.eq_nil_of_length_eq_zero (Nat.le_zero.mp run.few)
    · rintro rfl
      exact ⟨le_rfl, fun i target found => by simp at found, Or.inl rfl⟩
  | succ entries ih =>
    by_cases ended : sectionEnd < offset + 4
    · rw [tableTargets_ended ended]
      cases targets with
      | nil => simp [TargetRun.nil_iff, ended]
      | cons target targets =>
        rw [TargetRun.cons_iff]
        simp [Nat.not_le.mpr ended]
    · by_cases valid : IsCode elf (fileWord elf offset)
      · rw [tableTargets_code ended valid]
        cases targets with
        | nil => simp [TargetRun.nil_iff, ended, valid]
        | cons target targets =>
          rw [TargetRun.cons_iff, ih, List.cons.injEq]
          constructor
          · rintro ⟨⟨_, same, _⟩, rest⟩
            exact ⟨same, rest⟩
          · rintro ⟨rfl, rest⟩
            exact ⟨⟨Nat.not_lt.mp ended, rfl, valid⟩, rest⟩
      · rw [tableTargets_stopped ended valid]
        cases targets with
        | nil => simp [TargetRun.nil_iff, valid]
        | cons target targets =>
          rw [TargetRun.cons_iff]
          simp only [List.cons_ne_nil, iff_false]
          rintro ⟨⟨_, rfl, inside⟩, _⟩
          exact valid inside

/-- A jump table of the file: where it stands, and its targets. -/
def TableAt (elf : ElfImage) (address : Int) (targets : List Int) : Prop :=
  ∃ sec offset, findSection elf address = some sec ∧ sec.type ≠ 8 ∧ sec.kind ≠ .executable ∧
    elf.vaddrToOffset address = some offset ∧
    TargetRun elf offset (min (sec.offset + sec.size) elf.rawData.length) 256 targets

theorem tableAt_iff {address : Int} (filled : targets ≠ []) :
    TableAt elf address targets ↔ targets = decodeJumpTableTargets elf address := by
  unfold TableAt decodeJumpTableTargets
  cases found : findSection elf address with
  | none => simp [filled]
  | some sec =>
    by_cases unfit : sec.type = 8 ∨ sec.kind = .executable
    · simp only [if_pos unfit, filled, iff_false]
      rintro ⟨_, _, same, data, plain, _⟩
      obtain rfl := Option.some.inj same
      exact unfit.elim data plain
    · simp only [if_neg unfit]
      obtain ⟨data, plain⟩ := not_or.mp unfit
      cases elf.vaddrToOffset address with
      | none => simp [filled]
      | some offset => simp [data, plain, targetRun_iff]

/-- The engine has seen a jump through a table, and it has accepted the table. -/
def JumpsThrough (text : EngineText) (record : JumpTableRecord) : Prop :=
  ∃ function ∈ text.symbolList, record.sourceFunction = function.name ∧
    record.address ∈ function.analyzer.referencedJumpTableOffsets.values ∧
    ∃ localOffset, (localOffset, record.address) ∈ function.analyzer.jumpRegisterIntrOffset ∧
      record.sourceAddress = function.vram + localOffset

theorem mem_normalizeJumpTables {text : EngineText} {record : JumpTableRecord} : record ∈ normalizeJumpTables elf text ↔
    JumpsThrough text record ∧ TableAt elf record.address record.targets ∧ 2 ≤ record.targets.length := by
  rw [normalizeJumpTables, List.mem_flatMap]
  constructor
  · rintro ⟨function, listed, member⟩
    obtain ⟨⟨localOffset, address⟩, jump, made⟩ := List.mem_filterMap.mp member
    dsimp only at made
    split at made
    · cases made
    rename_i accepted
    split at made
    · cases made
    rename_i long
    cases made
    have filled : decodeJumpTableTargets elf address ≠ [] := fun none => long (by rw [none]; exact Nat.zero_lt_two)
    exact ⟨⟨function, listed, rfl, not_not.mp accepted, localOffset, jump, rfl⟩, (tableAt_iff filled).mpr rfl, not_lt.mp long⟩
  · rintro ⟨⟨function, listed, name, accepted, localOffset, jump, source⟩, table, long⟩
    have filled : record.targets ≠ [] := fun none => by simp [none] at long
    have decoded := (tableAt_iff filled).mp table
    refine ⟨function, listed, List.mem_filterMap.mpr ⟨(localOffset, record.address), jump, ?_⟩⟩
    simp only [not_not.mpr accepted, if_false, ← decoded, not_lt.mpr long, ← name, ← source]

end Tables

section Results
variable {σ : Type} {engines : EngineModules σ} {elf : ElfImage} {model : ExecutableModel} {isPrintable : Char → Bool}
  {result : DisassemblyResult} {texts : List (Section × EngineText)}

theorem jumpTables_tellApart :
    TellsApart JumpTableRecord.key (texts.flatMap fun item => normalizeJumpTables elf item.2) := by
  intro record listed other otherListed same
  have decoded : ∀ record ∈ texts.flatMap (fun item => normalizeJumpTables elf item.2),
      record.targets = decodeJumpTableTargets elf record.address := by
    intro record listed
    obtain ⟨item, _, member⟩ := List.mem_flatMap.mp listed
    obtain ⟨_, table, long⟩ := mem_normalizeJumpTables.mp member
    exact (tableAt_iff fun none => by simp [none] at long).mp table
  have targets := decoded record listed
  have otherTargets := decoded other otherListed
  cases record
  cases other
  cases same
  rw [JumpTableRecord.mk.injEq]
  exact ⟨rfl, rfl, rfl, targets.trans otherTargets.symm⟩

theorem jumpTables_ordered {records : List JumpTableRecord} (tells : TellsApart JumpTableRecord.key records) :
    TellsApart JumpTableRecord.order (latest JumpTableRecord.key records) := by
  intro record listed other otherListed same
  refine tells record (latest_subset listed) other (latest_subset otherListed) ?_
  have addresses := congrArg (fun order => (ofLex order).1) same
  have sources := congrArg (fun order => (ofLex (ofLex order).2).1) same
  have functions := congrArg (fun order => (ofLex (ofLex order).2).2) same
  exact Prod.ext addresses (Prod.ext functions sources)

theorem FromTexts.mem_jumpTables (taken : FromTexts elf isPrintable texts result) {record : JumpTableRecord} :
    record ∈ result.jumpTables ↔ (∃ item ∈ texts, JumpsThrough item.2 record) ∧
      TableAt elf record.address record.targets ∧ 2 ≤ record.targets.length := by
  rw [taken.jumpTables, deduplicateJumpTables, mem_sortedBy, mem_latest_of_tellsApart jumpTables_tellApart, List.mem_flatMap]
  simp only [mem_normalizeJumpTables]
  constructor
  · rintro ⟨item, listed, jumps, table⟩
    exact ⟨⟨item, listed, jumps⟩, table⟩
  · rintro ⟨⟨item, listed, jumps⟩, table⟩
    exact ⟨item, listed, jumps, table⟩

/-- Whatever the engine answers, the jump tables of a disassembly are those jumps through accepted tables that the file
bears out, each once and in order: the targets are the words of the file, all of them are addresses of code, and the run
of targets ends only with the table's section, with the file, with a word that is no address of code, or after 256. -/
theorem analyze_jumpTables (analyzed : analyze engines isPrintable elf model = .ok result) :
    ∃ texts, AnalyzedTexts engines elf model texts ∧
      (∀ record, record ∈ result.jumpTables ↔ (∃ item ∈ texts, JumpsThrough item.2 record) ∧
        TableAt elf record.address record.targets ∧ 2 ≤ record.targets.length) ∧
      result.jumpTables.Pairwise fun record other => record.order < other.order := by
  obtain ⟨texts, obtained, taken⟩ := analyze_fromTexts analyzed
  refine ⟨texts, obtained, fun record => taken.mem_jumpTables, ?_⟩
  rw [taken.jumpTables]
  exact sortedBy_strict latest_nodup (jumpTables_ordered jumpTables_tellApart)

/-- Code of two instructions, and behind it a table of two targets and a text. -/
def switchImage : ElfImage where
  header := ⟨2, 8, 1, 0x100, 0, 0, 0, 52, 32, 0, 40, 2, 0⟩
  endianness := .little
  programHeaders := []
  sections := [⟨1, ".text", 1, 6, 0x100, 0, 8, 0, 0, 4, 0, .executable⟩, ⟨2, ".rodata", 1, 2, 0x200, 8, 13, 0, 0, 4, 0, .readonly⟩]
  rawData := [0, 0, 0, 0, 0, 0, 0, 0, 0x00, 0x01, 0, 0, 0x04, 0x01, 0, 0, 0x65, 0x78, 0x69, 0x74, 0]
  numbered := .nil

def switchModel : ExecutableModel :=
  ⟨"switch", .elf32, .prx, false, some .little, some switchImage.header, [], switchImage.sections, none, none, [], [], [], []⟩

/-- An engine that finds one function in every section. -/
def switchEngine : EngineModules Unit where
  spimdisasmVersion := "1"
  rabbitizerVersion := "1"
  changeGlobalSegmentRanges := fun _ _ _ => ()
  addFunction := fun _ _ _ => ()
  sectionText := fun _ _ _ vram _ _ =>
    .ok (⟨[⟨"main", vram, 2, "", [], ⟨[(0, vram)], [], [(0, 0x208)], [], [(4, 0x200)], [(0, 0x200)]⟩⟩], ""⟩, ())
  symbols := fun _ => []

theorem switchImage_analyzed : (analyze switchEngine (fun _ => true) switchImage switchModel).isOk = true := by decide

theorem switchImage_jumpTables : ∃ result, analyze switchEngine (fun _ => true) switchImage switchModel = .ok result ∧
    ∀ record ∈ result.jumpTables, TableAt switchImage record.address record.targets ∧ 2 ≤ record.targets.length := by
  obtain ⟨result, analyzed⟩ := exists_ok switchImage_analyzed
  obtain ⟨_, _, tables, _⟩ := analyze_jumpTables analyzed
  exact ⟨result, analyzed, fun record listed => ((tables record).mp listed).2⟩

end Results

end Spim

end PspDisasm
