import PspDisasm.LibraryTables

namespace PspDisasm
open Foundations

section Walk
variable {readEntry : Int → Except Failure TableStep} {what : String} {stop start address : Int}

section Laid
variable {α : Type} {library : α → Int → Library} {lies : α → Int → Prop} {rows : List α}

theorem TableLaid.le (laid : TableLaid library lies address rows stop) : address ≤ stop := by
  induction rows generalizing address with
  | nil => exact (show address = stop from laid).le
  | cons row rows ih =>
    have rest := ih laid.2
    omega

/-- Entry by entry a walk collects the libraries of a table, and it ends where the table does. -/
theorem tableLoop_laid (nonzero : ∀ {row address}, lies row address → address ≠ 0)
    (reads : ∀ {row address}, lies row address → address + (library row address).entryLength * 4 ≤ stop →
      ∃ advances, readEntry address = .ok (.library [] (library row address) advances))
    (laid : TableLaid library lies address rows stop) (result : List Library) (warnings : List String) :
    (tableLoop what stop readEntry).run ⟨address, result, warnings, false⟩ =
      .ok ⟨stop, result ++ tableLibraries library address rows, warnings, false⟩ := by
  induction rows generalizing address result with
  | nil =>
    obtain rfl : address = stop := laid
    rw [tableLibraries, List.append_nil]
    exact WhileLoop.run_done (by simp [tableLoop])
  | cons row rows ih =>
    obtain ⟨here, rest⟩ := laid
    have inside := rest.le
    obtain ⟨advances, read⟩ := reads here inside
    have going : (tableLoop what stop readEntry).test ⟨address, result, warnings, false⟩ = true := by
      simp only [tableLoop, Bool.not_false, Bool.true_and, Bool.and_eq_true, decide_eq_true_eq]
      exact ⟨nonzero here, by omega⟩
    have turn : (tableLoop what stop readEntry).body ⟨address, result, warnings, false⟩ =
        .ok ⟨address + (library row address).entryLength * 4, result ++ [library row address], warnings, false⟩ := by
      change walkEntry what readEntry _ = _
      unfold walkEntry
      rw [read]
      simp [catchParseError, bind, Except.bind, pure, Except.pure]
    rw [WhileLoop.run_turn going turn, ih rest, tableLibraries, List.append_assoc, List.singleton_append]

theorem walkTable_laid (nonzero : ∀ {row address}, lies row address → address ≠ 0)
    (reads : ∀ {row address}, lies row address → address + (library row address).entryLength * 4 ≤ stop →
      ∃ advances, readEntry address = .ok (.library [] (library row address) advances))
    (laid : TableLaid library lies start rows stop) :
    walkTable what start stop readEntry = .ok (tableLibraries library start rows, []) := by
  rw [walkTable, tableLoop_laid nonzero reads laid]
  rfl

end Laid

/-- What a walk comes to from an address of a table: the libraries up to the end of the table or up to the first
entry that is no library. -/
inductive Walked (stop : Int) (readEntry : Int → Except Failure TableStep) (Whole : Library → Prop) :
    Int → List Library → Prop
  | finished {cursor} : cursor = 0 ∨ stop ≤ cursor → Walked stop readEntry Whole cursor []
  | malformed {cursor} : cursor ≠ 0 → cursor < stop →
      (∀ warnings entry advances, readEntry cursor ≠ .ok (.library warnings entry advances)) →
      Walked stop readEntry Whole cursor []
  | library {cursor entry rest} : cursor ≠ 0 → cursor < stop → entry.address = cursor → Whole entry →
      Walked stop readEntry Whole (cursor + entry.entryLength * 4) rest →
      Walked stop readEntry Whole cursor (entry :: rest)

theorem Walked.all {Whole : Library → Prop} {libraries : List Library}
    (walked : Walked stop readEntry Whole address libraries) : ∀ entry ∈ libraries, Whole entry := by
  induction walked with
  | finished _ => simp
  | malformed _ _ _ => simp
  | library _ _ _ whole _ ih =>
    intro entry member
    rcases List.mem_cons.mp member with rfl | later
    · exact whole
    · exact ih entry later

/-- A turn that ends the walk met no library. A turn that goes on added the one it met. -/
theorem walkEntry_cases {s t : TableWalk} (turn : walkEntry what readEntry s = .ok t) :
    (t.stopped = true ∧ t.result = s.result ∧
      ∀ warnings entry advances, readEntry s.cursor ≠ .ok (.library warnings entry advances)) ∨
    ∃ warnings entry advances, readEntry s.cursor = .ok (.library warnings entry advances) ∧
      t = { s with
        cursor := s.cursor + entry.entryLength * 4, result := s.result ++ [entry], warnings := s.warnings ++ warnings } := by
  unfold walkEntry at turn
  cases read : readEntry s.cursor with
  | error failure =>
    obtain ⟨outcome, caught, rest⟩ := bind_ok.mp turn
    rw [read] at caught
    cases failure with
    | parseError message =>
      cases caught
      cases rest
      exact .inl ⟨rfl, rfl, fun _ _ _ same => nomatch same⟩
    | _ => cases caught
  | ok step =>
    rw [read] at turn
    cases step with
    | stop warning =>
      cases turn
      exact .inl ⟨rfl, rfl, fun _ _ _ same => nomatch same⟩
    | library warnings entry advances =>
      cases turn
      exact .inr ⟨warnings, entry, advances, rfl, rfl⟩

theorem tableLoop_walked {Whole : Library → Prop}
    (whole : ∀ {cursor warnings entry advances}, readEntry cursor = .ok (.library warnings entry advances) →
      entry.address = cursor ∧ Whole entry) (s : TableWalk) :
    s.stopped = false → ∀ final, (tableLoop what stop readEntry).run s = .ok final →
      ∃ libraries, final.result = s.result ++ libraries ∧ Walked stop readEntry Whole s.cursor libraries := by
  have test (s : TableWalk) (running : s.stopped = false) :
      (tableLoop what stop readEntry).test s = true ↔ s.cursor ≠ 0 ∧ s.cursor < stop := by
    simp [tableLoop, running]
  induction s using (tableLoop what stop readEntry).run_induction with
  | done s stopped =>
    intro running final ran
    rw [WhileLoop.run_done stopped] at ran
    cases ran
    have ended := mt (test s running).mpr (Bool.eq_false_iff.mp stopped)
    exact ⟨[], (List.append_nil _).symm, .finished (by omega)⟩
  | raise s raised going failure =>
    intro running final ran
    rw [WhileLoop.run_raise going failure] at ran
    cases ran
  | turn s t going outcome ih =>
    intro running final ran
    obtain ⟨nonzero, below⟩ := (test s running).mp going
    rw [WhileLoop.run_turn going outcome] at ran
    rcases walkEntry_cases outcome with ⟨stopped, same, none⟩ | ⟨warnings, entry, advances, read, rfl⟩
    · rw [WhileLoop.run_done (by simp [tableLoop, stopped])] at ran
      cases ran
      exact ⟨[], by rw [same, List.append_nil], .malformed nonzero below none⟩
    · obtain ⟨libraries, collected, walked⟩ := ih running final ran
      obtain ⟨here, complete⟩ := whole read
      exact ⟨entry :: libraries, by rw [collected, List.append_assoc, List.singleton_append],
        .library nonzero below here complete walked⟩

/-- A walk over any bytes returns. -/
theorem walkTable_walked {Whole : Library → Prop} (documented : ∀ cursor, ParseErrorsOnly (readEntry cursor))
    (whole : ∀ {cursor warnings entry advances}, readEntry cursor = .ok (.library warnings entry advances) →
      entry.address = cursor ∧ Whole entry) :
    ∃ libraries warnings, walkTable what start stop readEntry = .ok (libraries, warnings) ∧
      Walked stop readEntry Whole start libraries := by
  obtain ⟨⟨libraries, warnings⟩, returned⟩ := @walkTable_total stop what readEntry start documented
  obtain ⟨final, ran, same⟩ := bind_ok.mp returned
  cases same
  obtain ⟨found, collected, walked⟩ := tableLoop_walked whole ⟨start, [], [], false⟩ rfl final ran
  rw [List.nil_append] at collected
  exact ⟨_, _, returned, collected ▸ walked⟩

end Walk

section Whole
variable (data : Bytes) (elf : ElfImage) (stop : Int) (entry : Library)

/-- The words of an entry say what its library is, and the entry ends within the table. -/
structure WholeEntry (minimum : Nat) (word : Nat → Nat) : Prop where
  flags : entry.flags = word 1
  entryLength : entry.entryLength = word 2 &&& 0xFF
  variableCount : entry.variableCount = (word 2 >>> 8) &&& 0xFF
  functionCount : entry.functionCount = (word 2 >>> 16) &&& 0xFFFF
  minimum_le : minimum ≤ entry.entryLength
  inside : entry.address + entry.entryLength * 4 ≤ stop

/-- The words of an export entry, its name and both words of each of its functions and variables have been read. -/
def WholeExport : Prop :=
  ∃ raw, readAtVaddr data elf entry.address 16 "export library" = .ok raw ∧
    let word k := elf.endianness.value (slice raw (4 * k) 4)
    let total := entry.functionCount + entry.variableCount
    WholeEntry stop entry 4 word ∧
    (if word 0 = 0 then .ok "syslib" else cstringAtVaddr data elf (word 0) "export library name") = .ok entry.name ∧
    List.Forall₂ (fun i (listed : NidEntry) => listed.kind = .function ∧
        listed.nidAddress = (word 3 + i * 4 : Nat) ∧
        u32AtVaddr data elf listed.nidAddress "export function NID" = .ok listed.nid ∧
        (u32AtVaddr data elf (word 3 + (total + i) * 4 : Nat) "export function address").map Int.ofNat = .ok listed.address)
      (List.range entry.functionCount) entry.functions ∧
    List.Forall₂ (fun i (listed : NidEntry) => listed.kind = .variable ∧
        listed.nidAddress = (word 3 + (entry.functionCount + i) * 4 : Nat) ∧
        u32AtVaddr data elf listed.nidAddress "export variable NID" = .ok listed.nid ∧
        (u32AtVaddr data elf (word 3 + (total + (entry.functionCount + i)) * 4 : Nat)
          "export variable address").map Int.ofNat = .ok listed.address)
      (List.range entry.variableCount) entry.variables

/-- The words of an import entry, its name, the NID of each of its functions and both words of each of its variables
have been read. Without a table there are no variables. -/
def WholeImport : Prop :=
  ∃ raw varsPtr, readAtVaddr data elf entry.address 20 "import library" = .ok raw ∧
    (if 6 ≤ entry.entryLength then u32AtVaddr data elf (entry.address + 20) "import variable table pointer"
      else .ok 0) = .ok varsPtr ∧
    let word k := elf.endianness.value (slice raw (4 * k) 4)
    WholeEntry stop entry 5 word ∧ word 0 ≠ 0 ∧
    cstringAtVaddr data elf (word 0) "import library name" = .ok entry.name ∧
    List.Forall₂ (fun i (listed : NidEntry) => listed.kind = .function ∧
        listed.nidAddress = (word 3 + i * 4 : Nat) ∧
        u32AtVaddr data elf listed.nidAddress "import function NID" = .ok listed.nid ∧
        listed.address = (word 4 + i * 8 : Nat))
      (List.range entry.functionCount) entry.functions ∧
    List.Forall₂ (fun i (listed : NidEntry) => listed.kind = .variable ∧
        listed.nidAddress = (varsPtr + i * 8 + 4 : Nat) ∧
        u32AtVaddr data elf listed.nidAddress "import variable NID" = .ok listed.nid ∧
        (u32AtVaddr data elf (varsPtr + i * 8 : Nat) "import variable address").map Int.ofNat = .ok listed.address)
      (if varsPtr = 0 then [] else List.range entry.variableCount) entry.variables

end Whole

section Records
variable {data : Bytes} {elf : ElfImage} {stop cursor : Int} {warnings : List String} {entry : Library}
  {advances : 0 < entry.entryLength}

theorem word_then_word {place other nidAddress : Int} {first second : String} {kind : NidKind} {listed : NidEntry}
    (read : (do
      let nid ← u32AtVaddr data elf place first
      let address ← u32AtVaddr data elf other second
      return (⟨nid, address, kind, nidAddress⟩ : NidEntry)) = .ok listed) :
    listed.kind = kind ∧ listed.nidAddress = nidAddress ∧ u32AtVaddr data elf place first = .ok listed.nid ∧
      (u32AtVaddr data elf other second).map Int.ofNat = .ok listed.address := by
  obtain ⟨nid, nidRead, rest⟩ := bind_ok.mp read
  obtain ⟨address, addressRead, rest⟩ := bind_ok.mp rest
  cases rest
  exact ⟨rfl, rfl, nidRead, by rw [addressRead]; rfl⟩

theorem readExport_whole (read : readExport data elf stop cursor = .ok (.library warnings entry advances)) :
    entry.address = cursor ∧ WholeExport data elf stop entry := by
  rw [readExport_eq] at read
  obtain ⟨raw, header, read⟩ := bind_ok.mp read
  obtain ⟨_, _, read⟩ := bind_ok.mp read
  unfold exportStep at read
  dsimp only at read
  split at read
  · cases read
  rename_i long
  split at read
  · cases read
  rename_i inside
  obtain ⟨name, named, read⟩ := ite_bind_ok.mp read
  obtain ⟨functions, functionsRead, read⟩ := bind_ok.mp read
  obtain ⟨objects, objectsRead, read⟩ := bind_ok.mp read
  cases read
  refine ⟨rfl, raw, header, ⟨rfl, rfl, rfl, rfl, Nat.not_lt.mp long, Int.not_lt.mp inside⟩, named, ?_, ?_⟩
  · refine (mapM_ok.mp functionsRead).imp fun i listed read => ?_
    obtain ⟨kind, place, nid, address⟩ := word_then_word read
    exact ⟨kind, place, place ▸ nid, address⟩
  · refine (mapM_ok.mp objectsRead).imp fun i listed read => ?_
    obtain ⟨kind, place, nid, address⟩ := word_then_word read
    exact ⟨kind, place, place ▸ nid, address⟩

theorem readImport_whole (read : readImport data elf stop cursor = .ok (.library warnings entry advances)) :
    entry.address = cursor ∧ WholeImport data elf stop entry := by
  rw [readImport_eq] at read
  obtain ⟨raw, header, read⟩ := bind_ok.mp read
  obtain ⟨_, _, read⟩ := bind_ok.mp read
  unfold importStep at read
  dsimp only at read
  split at read
  · cases read
  rename_i long
  split at read
  · cases read
  rename_i inside
  obtain ⟨varsPtr, pointer, read⟩ := ite_bind_ok.mp read
  split at read
  · cases read
  rename_i named
  obtain ⟨name, nameRead, read⟩ := bind_ok.mp read
  obtain ⟨functions, functionsRead, read⟩ := bind_ok.mp read
  obtain ⟨objects, objectsRead, read⟩ := ite_bind_ok.mp read
  cases read
  refine ⟨rfl, raw, varsPtr, header, pointer, ⟨rfl, rfl, rfl, rfl, Nat.not_lt.mp long, Int.not_lt.mp inside⟩, named,
    nameRead, ?_, ?_⟩
  · refine (mapM_ok.mp functionsRead).imp fun i listed read => ?_
    obtain ⟨nid, nidRead, built⟩ := bind_ok.mp read
    cases built
    exact ⟨rfl, rfl, nidRead, rfl⟩
  · by_cases zero : varsPtr = 0
    · rw [if_pos zero] at objectsRead ⊢
      cases objectsRead
      exact .nil
    · rw [if_neg zero] at objectsRead ⊢
      refine (mapM_ok.mp objectsRead).imp fun i listed read => ?_
      obtain ⟨address, addressRead, read⟩ := bind_ok.mp read
      obtain ⟨nid, nidRead, built⟩ := bind_ok.mp read
      cases built
      exact ⟨rfl, rfl, nidRead, by rw [addressRead]; rfl⟩

end Records

/-- The tables of a module are read back as they are laid out. Of any other bytes a walk reads whole libraries up to
the first entry that is none. -/
theorem libraryTables_read :
    (∀ data elf (loaded : LoadedSegment data elf) (info : ModuleInfo) exports,
      TableLaid StubExport.library (fun stub address => stub.Lies loaded address) info.exportsStart exports info.exportsEnd →
        walkExports data elf info = .ok (tableLibraries StubExport.library info.exportsStart exports, [])) ∧
    (∀ data elf (loaded : LoadedSegment data elf) (info : ModuleInfo) imports,
      TableLaid StubImport.library (fun stub address => stub.Lies loaded address) info.importsStart imports info.importsEnd →
        walkImports data elf info = .ok (tableLibraries StubImport.library info.importsStart imports, [])) ∧
    ∀ data elf (info : ModuleInfo),
      (∃ libraries warnings, walkExports data elf info = .ok (libraries, warnings) ∧
        Walked info.exportsEnd (readExport data elf info.exportsEnd) (WholeExport data elf info.exportsEnd)
          info.exportsStart libraries ∧
        ∀ entry ∈ libraries, entry.functions.length = entry.functionCount) ∧
      ∃ libraries warnings, walkImports data elf info = .ok (libraries, warnings) ∧
        Walked info.importsEnd (readImport data elf info.importsEnd) (WholeImport data elf info.importsEnd)
          info.importsStart libraries ∧
        ∀ entry ∈ libraries, entry.functions.length = entry.functionCount := by
  refine ⟨fun data elf loaded info exports laid => ?_, fun data elf loaded info imports laid => ?_,
    fun data elf info => ⟨?_, ?_⟩⟩
  · exact walkTable_laid (fun lies => lies.nonzero) (fun lies inside => StubExport.read lies inside) laid
  · exact walkTable_laid (fun lies => lies.nonzero) (fun lies inside => StubImport.read lies inside) laid
  · obtain ⟨libraries, warnings, returned, walked⟩ := walkTable_walked (fun _ => readExport_parseErrors) readExport_whole
    refine ⟨libraries, warnings, returned, walked, fun entry member => ?_⟩
    obtain ⟨raw, _, _, _, functions, _⟩ := walked.all entry member
    exact functions.length_eq.symm.trans List.length_range
  · obtain ⟨libraries, warnings, returned, walked⟩ := walkTable_walked (fun _ => readImport_parseErrors) readImport_whole
    refine ⟨libraries, warnings, returned, walked, fun entry member => ?_⟩
    obtain ⟨raw, varsPtr, _, _, _, _, _, functions, _⟩ := walked.all entry member
    exact functions.length_eq.symm.trans List.length_range

instance {data : Bytes} {elf : ElfImage} (loaded : LoadedSegment data elf) (address : Int) (bytes : Bytes) :
    Decidable (loaded.Holds address bytes) := inferInstanceAs (Decidable (_ → _ ∧ _ ∧ _))

section Sample

def sampleExport : StubExport where
  name := ⟨"Ex", 0x1048, by decide, by simp, by decide⟩
  flags := 0x4001
  extra := []
  tablePtr := 0x102C
  functions := [(0x11111111, 0x10)]
  objects := [(0x22222222, 0x14)]
  extra_length := by decide
  functions_length := by decide
  objects_length := by decide

def sampleImport : StubImport where
  name := ⟨"Im", 0x104B, by decide, by simp, by decide⟩
  flags := 9
  extra := [0x1040, 0xFFFFFFFF]
  nidsPtr := 0x103C
  stubs := 0x1100
  functions := [0xAAAA0001]
  objects := [(0x50, 0xBBBB0001)]
  extra_length := by decide
  functions_length := by decide
  objects_length := by decide
  pointed := fun _ => ⟨0x1040, rfl, by decide⟩

def sampleTables : Bytes :=
  wordsBytes .big (sampleExport.words ++ sampleImport.words ++ sampleExport.table ++ [0xAAAA0001, 0x50, 0xBBBB0001]) ++
    asciiBytes "Ex" ++ [0] ++ asciiBytes "Im" ++ [0]

def sampleTablesImage : ElfImage where
  header := ⟨etScePsprelexec, 8, 1, 0, 52, 160, 0, 52, 32, 1, 40, 0, 0⟩
  endianness := .big
  programHeaders := [⟨0, 1, 0, 0x1000, 0, 78, 78, 5, 16⟩]
  sections := []
  rawData := sampleTables
  numbered := Numbered.of_indices rfl

def sampleLoaded : LoadedSegment sampleTables sampleTablesImage where
  segment := ⟨0, 1, 0, 0x1000, 0, 78, 78, 5, 16⟩
  first := rfl
  stored := by decide

def sampleTablesInfo : ModuleInfo := ⟨0, (1, 0), "Sample", 0, 0x1000, 0x1010, 0x1010, 0x102C, 0, .section⟩

theorem sampleTables_read :
    walkExports sampleTables sampleTablesImage sampleTablesInfo = .ok ([sampleExport.library 0x1000], []) ∧
      walkImports sampleTables sampleTablesImage sampleTablesInfo = .ok ([sampleImport.library 0x1010], []) := by
  obtain ⟨exports, imports, -⟩ := libraryTables_read
  refine ⟨exports _ _ sampleLoaded sampleTablesInfo [sampleExport] ⟨?_, rfl⟩,
    imports _ _ sampleLoaded sampleTablesInfo [sampleImport] ⟨?_, rfl⟩⟩
  · exact ⟨by decide, by decide, by decide, by decide⟩
  · exact ⟨by decide, by decide, by decide, by decide, by decide⟩

end Sample
end PspDisasm
