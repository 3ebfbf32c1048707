import PspDisasm.FrontEndErrors

namespace PspDisasm
open Foundations

/-- The image of the file without its section headers. -/
def ElfImage.withoutSections (elf : ElfImage) : ElfImage :=
  { elf with header := { elf.header with shoff := 0, shentsize := 0, shnum := 0, shstrndx := 0 }, sections := [] }

/-- A loaded segment holds the address in the file. -/
def ElfImage.Loads (elf : ElfImage) (address : Int) : Prop := ∃ ph ∈ elf.programHeaders, (ph.vaddrToOffset address).isSome

section Addresses
variable (data : Bytes) (elf : ElfImage) (stop cursor : Int)

/-- The addresses at which the walk over the exports reads for an entry: the entry itself, the name, and the table of the
NIDs and addresses. -/
def exportAddresses : List Int :=
  match readAtVaddr data elf cursor 16 "export library" with
  | .error _ => [cursor]
  | .ok raw =>
    let word k := elf.endianness.value (slice raw (4 * k) 4)
    let namePtr := word 0
    let counts := word 2
    let exportsPtr := word 3
    let entryLength := counts &&& 0xFF
    let total := ((counts >>> 16) &&& 0xFFFF) + ((counts >>> 8) &&& 0xFF)
    if entryLength < 4 ∨ stop < cursor + entryLength * 4 then [cursor]
    else
      let name : List Int := if namePtr = 0 then [] else [(namePtr : Int)]
      let table := (List.range (2 * total)).map fun k => ((exportsPtr + k * 4 : Nat) : Int)
      [cursor] ++ name ++ table

/-- The addresses at which the walk over the imports reads for an entry: the entry itself, the pointer to its variables, the
name, the table of the NIDs and that of the variables. -/
def importAddresses : List Int :=
  match readAtVaddr data elf cursor 20 "import library" with
  | .error _ => [cursor]
  | .ok raw =>
    let word k := elf.endianness.value (slice raw (4 * k) 4)
    let namePtr := word 0
    let counts := word 2
    let nidsPtr := word 3
    let entryLength := counts &&& 0xFF
    let varCount := (counts >>> 8) &&& 0xFF
    let funcCount := (counts >>> 16) &&& 0xFFFF
    if entryLength < 5 ∨ stop < cursor + entryLength * 4 then [cursor]
    else
      let pointer : List Int := if 6 ≤ entryLength then [cursor + 20] else []
      let varsPtr := if 6 ≤ entryLength then u32AtVaddr data elf (cursor + 20) "import variable table pointer" else .ok 0
      let table := (List.range funcCount).map fun i => ((nidsPtr + i * 4 : Nat) : Int)
      let pairs : List Int :=
        match varsPtr with
        | .error _ => []
        | .ok varsPtr =>
          if varsPtr = 0 then []
          else (List.range varCount).flatMap fun i => [((varsPtr + i * 8 : Nat) : Int), ((varsPtr + i * 8 + 4 : Nat) : Int)]
      [cursor] ++ pointer ++ if namePtr = 0 then [] else [(namePtr : Int)] ++ table ++ pairs

end Addresses

section Readers
variable {data : Bytes} {elf : ElfImage} {address stop cursor : Int} {what : String}

theorem withoutSections_vaddrToOffset (loaded : elf.Loads address) :
    elf.withoutSections.vaddrToOffset address = elf.vaddrToOffset address := by
  obtain ⟨ph, listed, found⟩ := loaded
  have some : (elf.programHeaders.findSome? (·.vaddrToOffset address)).isSome := by
    rw [List.isSome_findSome?, List.any_eq_true]
    exact ⟨ph, listed, found⟩
  change (elf.programHeaders.findSome? (·.vaddrToOffset address)).or ([].findSome? _) = _
  rw [ElfImage.vaddrToOffset, Option.or_of_isSome some, Option.or_of_isSome some]

theorem readAtVaddr_withoutSections {size : Nat} (loaded : elf.Loads address) :
    readAtVaddr data elf.withoutSections address size what = readAtVaddr data elf address size what := by
  rw [readAtVaddr, readAtVaddr, withoutSections_vaddrToOffset loaded]

theorem u32AtVaddr_withoutSections (loaded : elf.Loads address) :
    u32AtVaddr data elf.withoutSections address what = u32AtVaddr data elf address what := by
  rw [u32AtVaddr, u32AtVaddr, readAtVaddr_withoutSections loaded]
  rfl

theorem cstringAtVaddr_withoutSections (loaded : elf.Loads address) :
    cstringAtVaddr data elf.withoutSections address what = cstringAtVaddr data elf address what := by
  rw [cstringAtVaddr, cstringAtVaddr, withoutSections_vaddrToOffset loaded]

theorem mem_exportAddresses : cursor ∈ exportAddresses data elf stop cursor := by
  unfold exportAddresses
  split
  · exact List.mem_singleton_self _
  · dsimp only
    split <;> simp

theorem mem_importAddresses : cursor ∈ importAddresses data elf stop cursor := by
  unfold importAddresses
  split
  · exact List.mem_singleton_self _
  · dsimp only
    split <;> simp

theorem bind_same {α β : Type} {x y : Except Failure α} {f g : α → Except Failure β} (first : x = y)
    (rest : ∀ a, y = .ok a → f a = g a) : (x >>= f) = (y >>= g) := by
  rw [first]
  cases y with
  | error raised => rfl
  | ok a => exact rest a rfl

theorem nidPair_withoutSections {other : Int} {first second : String} {build : Nat → Nat → NidEntry}
    (here : elf.Loads address) (there : elf.Loads other) :
    (do
      let word ← u32AtVaddr data elf.withoutSections address first
      let next ← u32AtVaddr data elf.withoutSections other second
      return build word next) =
    (do
      let word ← u32AtVaddr data elf address first
      let next ← u32AtVaddr data elf other second
      return build word next) := by
  rw [u32AtVaddr_withoutSections here, u32AtVaddr_withoutSections there]

/-- An export entry whose addresses are all loaded is read the same without the sections. -/
theorem readExport_withoutSections (loaded : ∀ address ∈ exportAddresses data elf stop cursor, elf.Loads address) :
    readExport data elf.withoutSections stop cursor = readExport data elf stop cursor := by
  have entry := @readAtVaddr_withoutSections data elf cursor "export library" 16 (loaded _ mem_exportAddresses)
  unfold readExport
  rw [entry]
  unfold exportAddresses at loaded
  cases read : readAtVaddr data elf cursor 16 "export library" with
  | error raised => rfl
  | ok raw =>
    have order : elf.withoutSections.endianness = elf.endianness := rfl
    simp only [read] at loaded
    simp only [ok_bind, requireExact_total (readAtVaddr_length read), order]
    split
    · rfl
    · rename_i long
      split
      · rfl
      · rename_i past
        rw [if_neg (not_or.mpr ⟨long, past⟩)] at loaded
        have table (k : Nat) (inside : k < 2 * ((elf.endianness.value (slice raw (4 * 2) 4) >>> 16 &&& 0xFFFF) +
            (elf.endianness.value (slice raw (4 * 2) 4) >>> 8 &&& 0xFF))) :
            elf.Loads ((elf.endianness.value (slice raw (4 * 3) 4) + k * 4 : Nat) : Int) :=
          loaded _ (List.mem_append_right _ (List.mem_map.mpr ⟨k, List.mem_range.mpr inside, rfl⟩))
        split
        · refine bind_same (mapM_congr fun i listed => ?_) fun functions _ => bind_same (mapM_congr fun i listed => ?_) fun _ _ => rfl
          · have inside := List.mem_range.mp listed
            exact nidPair_withoutSections (table _ (by omega)) (table _ (by omega))
          · have inside := List.mem_range.mp listed
            exact nidPair_withoutSections (table _ (by omega)) (table _ (by omega))
        · rename_i named
          refine bind_same ?_ fun name _ => bind_same (mapM_congr fun i listed => ?_) fun functions _ =>
            bind_same (mapM_congr fun i listed => ?_) fun _ _ => rfl
          · apply cstringAtVaddr_withoutSections
            apply loaded
            rw [if_neg named]
            simp
          · have inside := List.mem_range.mp listed
            exact nidPair_withoutSections (table _ (by omega)) (table _ (by omega))
          · have inside := List.mem_range.mp listed
            exact nidPair_withoutSections (table _ (by omega)) (table _ (by omega))

/-- An import entry whose addresses are all loaded is read the same without the sections. -/
theorem readImport_withoutSections (loaded : ∀ address ∈ importAddresses data elf stop cursor, elf.Loads address) :
    readImport data elf.withoutSections stop cursor = readImport data elf stop cursor := by
  have entry := @readAtVaddr_withoutSections data elf cursor "import library" 20 (loaded _ mem_importAddresses)
  unfold readImport
  rw [entry]
  unfold importAddresses at loaded
  cases read : readAtVaddr data elf cursor 20 "import library" with
  | error raised => rfl
  | ok raw =>
    have order : elf.withoutSections.endianness = elf.endianness := rfl
    simp only [read] at loaded
    simp only [ok_bind, requireExact_total (readAtVaddr_length read), order]
    split
    · rfl
    · rename_i long
      split
      · rfl
      · rename_i past
        rw [if_neg (not_or.mpr ⟨long, past⟩)] at loaded
        have pointer (given : 6 ≤ elf.endianness.value (slice raw (4 * 2) 4) &&& 0xFF) : elf.Loads (cursor + 20) := by
          rw [if_pos given] at loaded
          exact loaded _ (List.mem_append_left _ (List.mem_append_right _ (List.mem_singleton_self _)))
        have name (named : elf.endianness.value (slice raw (4 * 0) 4) ≠ 0) :
            elf.Loads (elf.endianness.value (slice raw (4 * 0) 4) : Int) := by
          rw [if_neg named] at loaded
          exact loaded _ (List.mem_append_right _ (List.mem_append_left _ (List.mem_append_left _ (List.mem_singleton_self _))))
        have table (named : elf.endianness.value (slice raw (4 * 0) 4) ≠ 0) (i : Nat)
            (listed : i ∈ List.range (elf.endianness.value (slice raw (4 * 2) 4) >>> 16 &&& 0xFFFF)) :
            elf.Loads ((elf.endianness.value (slice raw (4 * 3) 4) + i * 4 : Nat) : Int) := by
          rw [if_neg named] at loaded
          exact loaded _ (List.mem_append_right _ (List.mem_append_left _ (List.mem_append_right _ (List.mem_map.mpr ⟨i, listed, rfl⟩))))
        have pairs (named : elf.endianness.value (slice raw (4 * 0) 4) ≠ 0) (varsPtr : Nat) (present : varsPtr ≠ 0)
            (found : (if 6 ≤ elf.endianness.value (slice raw (4 * 2) 4) &&& 0xFF then
              u32AtVaddr data elf (cursor + 20) "import variable table pointer" else .ok 0) = .ok varsPtr) (i : Nat)
            (listed : i ∈ List.range (elf.endianness.value (slice raw (4 * 2) 4) >>> 8 &&& 0xFF)) :
            elf.Loads ((varsPtr + i * 8 : Nat) : Int) ∧ elf.Loads ((varsPtr + i * 8 + 4 : Nat) : Int) := by
          rw [if_neg named, found] at loaded
          simp only [if_neg present] at loaded
          constructor
          · exact loaded _ (List.mem_append_right _ (List.mem_append_right _ (List.mem_flatMap.mpr ⟨i, listed, List.mem_cons_self⟩)))
          · exact loaded _ (List.mem_append_right _ (List.mem_append_right _
              (List.mem_flatMap.mpr ⟨i, listed, List.mem_cons_of_mem _ (List.mem_singleton_self _)⟩)))
        -- With or without a pointer to a variable table, the rest of the entry is read alike.
        split
        · rename_i given
          refine bind_same (u32AtVaddr_withoutSections (pointer given)) fun varsPtr found => ?_
          split
          · rfl
          · rename_i named
            refine bind_same (cstringAtVaddr_withoutSections (name named)) fun _ _ =>
              bind_same (mapM_congr fun i listed => ?_) fun _ _ => ?_
            · rw [u32AtVaddr_withoutSections (table named i listed)]
            · split
              · rfl
              · rename_i present
                refine bind_same (mapM_congr fun i listed => ?_) fun _ _ => rfl
                obtain ⟨first, second⟩ := pairs named varsPtr present ((if_pos given).trans found) i listed
                exact nidPair_withoutSections first second
        · split
          · rfl
          · rename_i named
            refine bind_same (cstringAtVaddr_withoutSections (name named)) fun _ _ =>
              bind_same (mapM_congr fun i listed => ?_) fun _ _ => ?_
            · rw [u32AtVaddr_withoutSections (table named i listed)]
            · simp only [if_true]

end Readers

section Walks
variable {data : Bytes} {elf : ElfImage} {info : ModuleInfo}

/-- At every entry that a walk over a table comes to, the addresses it reads at are loaded. -/
def TableLoaded (elf : ElfImage) (what : String) (start stop : Int) (readEntry : Int → Except Failure TableStep)
    (addresses : Int → List Int) : Prop :=
  ∀ s, (tableLoop what stop readEntry).Reaches ⟨start, [], [], false⟩ s → (tableLoop what stop readEntry).test s = true →
    ∀ address ∈ addresses s.cursor, elf.Loads address

/-- All that the walks read from the tables of a module is mapped by loaded segments. -/
structure TablesLoaded (data : Bytes) (elf : ElfImage) (info : ModuleInfo) : Prop where
  exports : TableLoaded elf "Export" info.exportsStart info.exportsEnd (readExport data elf info.exportsEnd)
    (exportAddresses data elf info.exportsEnd)
  imports : TableLoaded elf "Import" info.importsStart info.importsEnd (readImport data elf info.importsEnd)
    (importAddresses data elf info.importsEnd)

theorem walkTable_congr {what : String} {start stop : Int} {readEntry other : Int → Except Failure TableStep}
    (agree : ∀ s, (tableLoop what stop readEntry).Reaches ⟨start, [], [], false⟩ s →
      (tableLoop what stop readEntry).test s = true → other s.cursor = readEntry s.cursor) :
    walkTable what start stop other = walkTable what start stop readEntry := by
  have runs := @WhileLoop.run_congr _ _ (tableLoop what stop readEntry) ⟨start, [], [], false⟩ (tableLoop what stop other)
    (fun _ => rfl) (fun s reached going => by
      change walkEntry what other s = walkEntry what readEntry s
      rw [walkEntry, walkEntry, agree s reached going])
  rw [walkTable, walkTable, runs]

theorem walkExports_withoutSections (loaded : TablesLoaded data elf info) :
    walkExports data elf.withoutSections info = walkExports data elf info :=
  walkTable_congr fun s reached going => readExport_withoutSections (loaded.exports s reached going)

theorem walkImports_withoutSections (loaded : TablesLoaded data elf info) :
    walkImports data elf.withoutSections info = walkImports data elf info :=
  walkTable_congr fun s reached going => readImport_withoutSections (loaded.imports s reached going)

end Walks

section ModuleInfo
variable {data : Bytes} {elf : ElfImage}

/-- The place and the address of a module information change nothing in what is read. -/
theorem parseModuleInfoAt_inFile {fileOffset : Nat} (inside : fileOffset + moduleInfoSize ≤ data.length) :
    ∃ info : ModuleInfo, ∀ address location,
      parseModuleInfoAt data elf fileOffset address location = .ok { info with address := address, location := location } ∧
        parseModuleInfoAt data elf.withoutSections fileOffset address location =
          .ok { info with address := address, location := location } := by
  have long : ¬data.length < fileOffset + moduleInfoSize := by omega
  unfold moduleInfoSize at inside
  obtain ⟨info, read⟩ : ∃ info, parseModuleInfoAt data elf fileOffset 0 .section = .ok info := by
    unfold parseModuleInfoAt
    rw [raiseIf, if_neg long, requireBuffer_total (by omega), requireBuffer_total (by omega)]
    exact ⟨_, rfl⟩
  refine ⟨info, fun address location => ?_⟩
  unfold parseModuleInfoAt at read ⊢
  rw [raiseIf, if_neg long, requireBuffer_total (by omega), requireBuffer_total (by omega)] at read
  rw [raiseIf, if_neg long, requireBuffer_total (by omega), requireBuffer_total (by omega)]
  cases read
  exact ⟨rfl, rfl⟩

theorem firstLoad_vaddrToOffset {ph : ProgramHeader} {address : Int} {offset : Nat}
    (first : elf.programHeaders.find? (·.type = ptLoad) = some ph) (found : ph.vaddrToOffset address = some offset) :
    elf.vaddrToOffset address = some offset := by
  obtain ⟨_, before, after, listed, others⟩ := List.find?_eq_some_iff_append.mp first
  have skipped : before.findSome? (·.vaddrToOffset address) = none := by
    rw [List.findSome?_eq_none_iff]
    intro other member
    have type : other.type ≠ 1 := by
      intro same
      have no := others other member
      rw [decide_eq_true (show other.type = ptLoad from same)] at no
      cases no
    rw [ProgramHeader.vaddrToOffset, if_pos type]
  rw [ElfImage.vaddrToOffset, listed, List.findSome?_append, skipped, List.findSome?_cons, found]
  rfl

theorem findModuleInfo_section {sec : Section} {info : ModuleInfo}
    (named : elf.sections.find? (·.name = moduleInfoSection) = some sec)
    (parsed : parseModuleInfoAt data elf sec.offset sec.addr .section = .ok info) :
    findModuleInfo data elf = .ok (some info, []) := by
  rw [findModuleInfo, named]
  dsimp only
  rw [parsed]
  rfl

theorem findModuleInfo_fallback {ph : ProgramHeader} {fileOffset : Nat} {info : ModuleInfo}
    (first : elf.programHeaders.find? (·.type = ptLoad) = some ph)
    (mapped : elf.withoutSections.vaddrToOffset (ph.paddr % 2 ^ 31 - ph.offset) = some fileOffset)
    (parsed : parseModuleInfoAt data elf.withoutSections fileOffset (ph.paddr % 2 ^ 31 - ph.offset) .programHeaderFallback = .ok info) :
    findModuleInfo data elf.withoutSections = .ok (some info, []) := by
  have noSection : elf.withoutSections.sections.find? (·.name = moduleInfoSection) = none := rfl
  have same : elf.withoutSections.programHeaders.find? (·.type = ptLoad) = some ph := first
  rw [findModuleInfo, noSection, same]
  dsimp only
  rw [mapped]
  dsimp only
  rw [parsed]
  rfl

/-- What the fallback finds lies at the address that it computes. -/
theorem findModuleInfo_address {ph : ProgramHeader} {info : ModuleInfo} {warnings : List String}
    (first : elf.programHeaders.find? (·.type = ptLoad) = some ph)
    (found : findModuleInfo data elf.withoutSections = .ok (some info, warnings)) :
    info.address = ph.paddr % 2 ^ 31 - ph.offset := by
  have noSection : elf.withoutSections.sections.find? (·.name = moduleInfoSection) = none := rfl
  have same : elf.withoutSections.programHeaders.find? (·.type = ptLoad) = some ph := first
  rw [findModuleInfo, noSection, same] at found
  dsimp only at found
  split at found
  · cases found
  · rename_i fileOffset _
    by_cases inside : fileOffset + moduleInfoSize ≤ data.length
    · obtain ⟨whole, parsed⟩ := @parseModuleInfoAt_inFile data elf fileOffset inside
      rw [(parsed _ _).2] at found
      cases found
      rfl
    · have short : data.length < fileOffset + moduleInfoSize := by omega
      rw [parseModuleInfoAt, raiseIf, if_pos short] at found
      cases found

end ModuleInfo

/-- A module whose information section lies in the first loaded segment, at the file offset that the physical address of
the segment gives, and whose metadata loaded segments hold. -/
structure ConventionalModule (data : Bytes) (elf : ElfImage) (sec : Section) (ph : ProgramHeader) : Prop where
  parsed : elf.ParsedFrom data
  named : elf.sections.find? (·.name = moduleInfoSection) = some sec
  firstLoad : elf.programHeaders.find? (·.type = ptLoad) = some ph
  above : ph.vaddr ≤ sec.addr
  inside : sec.addr + sec.size ≤ ph.vaddr + ph.filesz
  consistent : (sec.offset : Int) - ph.offset = sec.addr - ph.vaddr
  convention : ph.paddr % 2 ^ 31 = sec.offset
  infoLoaded : sec.addr + moduleInfoSize ≤ ph.vaddr + ph.filesz
  tablesLoaded : ∀ info warnings, findModuleInfo data elf = .ok (some info, warnings) → TablesLoaded data elf info

/-- The same module information, up to the way it was found, and the same libraries. -/
def SameMetadata (original stripped : PrxAnalysis) : Prop :=
  original.moduleInfo.map (fun info => { info with location := .section }) =
      stripped.moduleInfo.map (fun info => { info with location := .section }) ∧
    original.imports = stripped.imports ∧ original.exports = stripped.exports

section Stripping
variable {data : Bytes} {elf : ElfImage} {sec : Section} {ph : ProgramHeader} {original stripped : PrxAnalysis}

theorem analyzePrx_parts {analysis : PrxAnalysis} (analyzed : analyzePrx data elf = .ok analysis) :
    (∃ warnings, findModuleInfo data elf = .ok (analysis.moduleInfo, warnings)) ∧
      ∀ info, analysis.moduleInfo = some info →
        (∃ warnings, walkExports data elf info = .ok (analysis.exports, warnings)) ∧
          ∃ warnings, walkImports data elf info = .ok (analysis.imports, warnings) := by
  obtain ⟨⟨moduleInfo, warnings⟩, found, rest⟩ := bind_ok.mp analyzed
  cases moduleInfo with
  | none =>
    obtain ⟨_, _, rest⟩ := bind_ok.mp rest
    obtain ⟨_, _, rest⟩ := bind_ok.mp rest
    obtain ⟨_, _, rest⟩ := bind_ok.mp rest
    cases rest
    exact ⟨⟨warnings, found⟩, fun info same => by cases same⟩
  | some info =>
    obtain ⟨⟨exports, exportWarnings⟩, walked, rest⟩ := bind_ok.mp rest
    obtain ⟨⟨imports, importWarnings⟩, imported, rest⟩ := bind_ok.mp rest
    obtain ⟨_, _, rest⟩ := bind_ok.mp rest
    cases rest
    refine ⟨⟨warnings, found⟩, fun other same => ?_⟩
    cases same
    exact ⟨⟨_, walked⟩, ⟨_, imported⟩⟩

theorem ConventionalModule.offset_inFile (module : ConventionalModule data elf sec ph) :
    sec.offset + moduleInfoSize ≤ data.length := by
  have listed := List.mem_of_find?_eq_some module.firstLoad
  have inFile := module.parsed.headerInFile ph listed
  have above := module.above
  have consistent := module.consistent
  have infoLoaded := module.infoLoaded
  unfold moduleInfoSize at infoLoaded ⊢
  omega

/-- At base zero the fallback comes to the section's place. -/
theorem ConventionalModule.fallback_place (module : ConventionalModule data elf sec ph) (base : ph.vaddr = 0) :
    ph.paddr % 2 ^ 31 - ph.offset = sec.addr ∧ elf.withoutSections.vaddrToOffset sec.addr = some sec.offset := by
  have above := module.above
  have consistent := module.consistent
  have infoLoaded := module.infoLoaded
  have convention := module.convention
  unfold moduleInfoSize at infoLoaded
  have found := List.find?_some module.firstLoad
  have load : ph.type = 1 := of_decide_eq_true found
  refine ⟨by omega, @firstLoad_vaddrToOffset elf.withoutSections ph _ _ module.firstLoad ?_⟩
  rw [ProgramHeader.vaddrToOffset, if_neg (not_not.mpr load), if_pos ⟨above, by omega⟩]
  congr 1
  omega

theorem ConventionalModule.same_of_base (module : ConventionalModule data elf sec ph) (base : ph.vaddr = 0)
    (analyzed : analyzePrx data elf = .ok original) (reanalyzed : analyzePrx data elf.withoutSections = .ok stripped) :
    SameMetadata original stripped := by
  obtain ⟨info, parsed⟩ := @parseModuleInfoAt_inFile data elf sec.offset module.offset_inFile
  obtain ⟨place, mapped⟩ := module.fallback_place base
  have found := findModuleInfo_section module.named (parsed sec.addr .section).1
  have refound := findModuleInfo_fallback module.firstLoad (by rw [place]; exact mapped)
    (parsed (ph.paddr % 2 ^ 31 - ph.offset) .programHeaderFallback).2
  obtain ⟨⟨_, first⟩, walks⟩ := analyzePrx_parts analyzed
  obtain ⟨⟨_, second⟩, rewalks⟩ := analyzePrx_parts reanalyzed
  have originalInfo : original.moduleInfo = some _ := congrArg Prod.fst (Except.ok.inj (first.symm.trans found))
  have strippedInfo : stripped.moduleInfo = some _ := congrArg Prod.fst (Except.ok.inj (second.symm.trans refound))
  obtain ⟨⟨_, exports⟩, ⟨_, imports⟩⟩ := walks _ originalInfo
  obtain ⟨⟨_, reexports⟩, ⟨_, reimports⟩⟩ := rewalks _ strippedInfo
  have loaded := module.tablesLoaded _ _ found
  have sameExports := walkExports_withoutSections loaded
  have sameImports := walkImports_withoutSections loaded
  refine ⟨?_, ?_, ?_⟩
  · rw [originalInfo, strippedInfo]
    simp only [Option.map_some, place]
  · exact congrArg Prod.fst (Except.ok.inj (imports.symm.trans (sameImports.symm.trans reimports)))
  · exact congrArg Prod.fst (Except.ok.inj (exports.symm.trans (sameExports.symm.trans reexports)))

/-- Whatever the fallback finds at another base has another address. -/
theorem ConventionalModule.base_of_same (module : ConventionalModule data elf sec ph)
    (analyzed : analyzePrx data elf = .ok original) (reanalyzed : analyzePrx data elf.withoutSections = .ok stripped)
    (same : SameMetadata original stripped) : ph.vaddr = 0 := by
  obtain ⟨info, parsed⟩ := @parseModuleInfoAt_inFile data elf sec.offset module.offset_inFile
  have found := findModuleInfo_section module.named (parsed sec.addr .section).1
  obtain ⟨⟨_, first⟩, _⟩ := analyzePrx_parts analyzed
  obtain ⟨⟨_, second⟩, _⟩ := analyzePrx_parts reanalyzed
  have originalInfo : original.moduleInfo = some _ := congrArg Prod.fst (Except.ok.inj (first.symm.trans found))
  have infos := same.1
  rw [originalInfo] at infos
  obtain ⟨other, strippedInfo, sameFields⟩ := Option.map_eq_some_iff.mp infos.symm
  rw [strippedInfo] at second
  have address := findModuleInfo_address module.firstLoad second
  have sameAddress : other.address = sec.addr := congrArg ModuleInfo.address sameFields
  have consistent := module.consistent
  have convention := module.convention
  omega

/-- The analysis returns with and without the section headers, and finds the same module just when the first loaded segment
is based at zero: the fallback takes the offset in the segment for the virtual address. -/
theorem analyzePrx_stripped_iff (module : ConventionalModule data elf sec ph) :
    ∃ original stripped, analyzePrx data elf = .ok original ∧ analyzePrx data elf.withoutSections = .ok stripped ∧
      (SameMetadata original stripped ↔ ph.vaddr = 0) := by
  have parsedStripped : elf.withoutSections.ParsedFrom data :=
    ⟨module.parsed.rawData, module.parsed.headerInFile, fun _ listed => absurd listed List.not_mem_nil⟩
  obtain ⟨original, analyzed⟩ := analyzePrx_total module.parsed
  obtain ⟨stripped, reanalyzed⟩ := analyzePrx_total parsedStripped
  exact ⟨original, stripped, analyzed, reanalyzed, module.base_of_same analyzed reanalyzed,
    fun base => module.same_of_base base analyzed reanalyzed⟩

end Stripping

section Sample

def namedText : Bytes := [0] ++ moduleInfoSection.toList.map (fun c => UInt8.ofNat c.toNat) ++ [0, 0]

/-- A module without exports and imports, loaded at a base address. -/
def strippableFile (base : Nat) : Bytes :=
  [0x7F, 0x45, 0x4C, 0x46, 1, 1, 1, 0, 0, 0, 0, 0, 0, 0, 0, 0] ++ littleBytes 2 etScePsprelexec ++ littleBytes 2 8 ++
    littleWords [1, 0, 52, 160, 0] ++ [52, 32, 1, 40, 2, 1].flatMap (littleBytes 2) ++
    littleWords [ptLoad, 84, base, 84, 52, 52, 5, 4] ++ littleWords [0x1010000] ++ List.replicate 48 0 ++ namedText ++
    littleWords [1, 1, 2, base, 84, 52, 0, 0, 4, 0] ++ littleWords [0, 3, 0, 0, 136, 23, 0, 0, 1, 0]

def loadHeader (base : Nat) : ProgramHeader := ⟨0, ptLoad, 84, base, 84, 52, 52, 5, 4⟩

def infoSection (base : Nat) : Section := ⟨0, moduleInfoSection, 1, 2, base, 84, 52, 0, 0, 4, 0, .readonly⟩

def strippableImage (base : Nat) : ElfImage where
  header := ⟨etScePsprelexec, 8, 1, 0, 52, 160, 0, 52, 32, 1, 40, 2, 1⟩
  endianness := .little
  programHeaders := [loadHeader base]
  sections := [infoSection base, ⟨1, "", 3, 0, 0, 136, 23, 0, 0, 1, 0, .metadata⟩]
  rawData := strippableFile base
  numbered := Numbered.of_indices rfl

theorem strippable_conventional {base : Nat} (parsed : parseElf32 (strippableFile base) = .ok (strippableImage base))
    (empty : (fun found => found.1.map fun info => (info.exportsStart, info.importsStart)) <$>
      findModuleInfo (strippableFile base) (strippableImage base) = .ok (some (0, 0))) :
    ConventionalModule (strippableFile base) (strippableImage base) (infoSection base) (loadHeader base) where
  parsed := parseElf32_parsedFrom parsed
  named := rfl
  firstLoad := rfl
  above := le_refl _
  inside := le_refl _
  consistent := by simp [infoSection, loadHeader]
  convention := rfl
  infoLoaded := le_refl _
  tablesLoaded := by
    intro info warnings found
    rw [found] at empty
    have starts := Option.some.inj (Except.ok.inj empty)
    obtain ⟨noExports, noImports⟩ := Prod.mk.inj starts
    -- A walk that starts at zero takes no turn.
    have stays : ∀ {what : String} {stop : Int} {readEntry : Int → Except Failure TableStep} {s : TableWalk},
        (tableLoop what stop readEntry).Reaches ⟨0, [], [], false⟩ s → (tableLoop what stop readEntry).test s = false := by
      intro what stop readEntry s reached
      induction reached with
      | start => rfl
      | turn _ going _ stopped => rw [stopped] at going; cases going
    constructor
    · intro s reached going
      rw [noExports] at reached
      rw [stays reached] at going
      cases going
    · intro s reached going
      rw [noImports] at reached
      rw [stays reached] at going
      cases going

/-- A module based at zero. -/
theorem analyzePrx_stripped_zero :
    ∃ original stripped, analyzePrx (strippableFile 0) (strippableImage 0) = .ok original ∧
      analyzePrx (strippableFile 0) (strippableImage 0).withoutSections = .ok stripped ∧
      (SameMetadata original stripped ↔ (loadHeader 0).vaddr = 0) :=
  analyzePrx_stripped_iff (strippable_conventional (by decide +kernel) (by decide +kernel))

/-- Without its sections, a module based elsewhere has no module information any more. -/
theorem strippable_lost : ¬∀ data elf sec ph, ConventionalModule data elf sec ph → ∀ original stripped,
    analyzePrx data elf = .ok original → analyzePrx data elf.withoutSections = .ok stripped → SameMetadata original stripped := by
  intro same
  have module : ConventionalModule (strippableFile 0x1000) (strippableImage 0x1000) (infoSection 0x1000) (loadHeader 0x1000) :=
    strippable_conventional (by decide +kernel) (by decide +kernel)
  have seen : (fun analysis => analysis.moduleInfo.isSome) <$> analyzePrx (strippableFile 0x1000) (strippableImage 0x1000) = .ok true := by
    decide +kernel
  have lost : (fun analysis => analysis.moduleInfo.isSome) <$>
      analyzePrx (strippableFile 0x1000) (strippableImage 0x1000).withoutSections = .ok false := by decide +kernel
  obtain ⟨original, analyzed, found⟩ := map_ok.mp seen
  obtain ⟨stripped, reanalyzed, none⟩ := map_ok.mp lost
  have infos := congrArg Option.isSome (same _ _ _ _ module original stripped analyzed reanalyzed).1
  rw [Option.isSome_map, Option.isSome_map, found, none] at infos
  cases infos

end Sample

end PspDisasm
