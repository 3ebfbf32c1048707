import PspDisasm.LoadViewFrame
import PspDisasm.LoadViewLayout
import PspDisasm.ModelAddresses

namespace PspDisasm
open Foundations

/-- The address lies in a non-empty loaded segment of the image. -/
def IsLoaded (elf : ElfImage) (address : Int) : Prop := ∃ segment ∈ loadedSegments elf, containsAddress segment address

/-- The same, with the end of the segment counted as inside. -/
def IsLoadedEnd (elf : ElfImage) (address : Int) : Prop :=
  ∃ segment ∈ loadedSegments elf, containsRangeEnd segment address

instance (elf : ElfImage) (address : Int) : Decidable (IsLoaded elf address) :=
  inferInstanceAs (Decidable (∃ _ ∈ _, _))

instance (elf : ElfImage) (address : Int) : Decidable (IsLoadedEnd elf address) :=
  inferInstanceAs (Decidable (∃ _ ∈ _, _))

def moved (elf : ElfImage) (delta address : Int) : Int := if IsLoaded elf address then address + delta else address

def movedEnd (elf : ElfImage) (delta address : Int) : Int :=
  if IsLoadedEnd elf address then address + delta else address

section Rebase
variable {elf : ElfImage} {delta address result : Int}

theorem rebaseWhere_ok {contains : ProgramHeader → Int → Prop}
    [∀ segment address, Decidable (contains segment address)] {what : String} :
    rebaseWhere contains what elf address delta = .ok result ↔
      ((∃ segment ∈ loadedSegments elf, contains segment address) → IsU32 (address + delta)) ∧
        result = if ∃ segment ∈ loadedSegments elf, contains segment address then address + delta else address := by
  unfold rebaseWhere
  split
  · rename_i inside
    rw [bind_ok]
    constructor
    · rintro ⟨_, fits, same⟩
      exact ⟨fun _ => requireU32Address_ok.mp fits, (Except.ok.inj same).symm⟩
    · rintro ⟨fits, rfl⟩
      exact ⟨(), requireU32Address_ok.mpr (fits inside), rfl⟩
  · rename_i outside
    constructor
    · intro same
      exact ⟨fun inside => absurd inside outside, (Except.ok.inj same).symm⟩
    · rintro ⟨_, rfl⟩
      rfl

theorem rebaseLoadedAddress_ok : rebaseLoadedAddress elf address delta = .ok result ↔
    (IsLoaded elf address → IsU32 (address + delta)) ∧ result = moved elf delta address :=
  rebaseWhere_ok

theorem rebaseNonzeroLoadedAddress_ok : rebaseNonzeroLoadedAddress elf address delta = .ok result ↔
    (address ≠ 0 → IsLoaded elf address → IsU32 (address + delta)) ∧
      result = unlessZero (moved elf delta) address := by
  unfold rebaseNonzeroLoadedAddress unlessZero
  split
  · rename_i zero
    simp only [zero, ne_eq, not_true, false_implies, true_and, Except.ok.injEq, eq_comm]
  · rename_i nonzero
    rw [rebaseLoadedAddress_ok]
    simp only [ne_eq, nonzero, not_false_iff, true_implies]

theorem rebaseNonzeroLoadedRangeEnd_ok : rebaseNonzeroLoadedRangeEnd elf address delta = .ok result ↔
    (address ≠ 0 → IsLoadedEnd elf address → IsU32 (address + delta)) ∧
      result = unlessZero (movedEnd elf delta) address := by
  unfold rebaseNonzeroLoadedRangeEnd unlessZero
  split
  · rename_i zero
    simp only [zero, ne_eq, not_true, false_implies, true_and, Except.ok.injEq, eq_comm]
  · rename_i nonzero
    rw [rebaseWhere_ok]
    simp only [ne_eq, nonzero, not_false_iff, true_implies]
    rfl

end Rebase

section Model
variable {elf : ElfImage} {delta : Int}

theorem rebaseNidEntry_ok {entry result : NidEntry} (run : rebaseNidEntry elf delta entry = .ok result) :
    result = entry.mapAddresses (unlessZero (moved elf delta)) := by
  simp only [rebaseNidEntry, bind_ok, rebaseNonzeroLoadedAddress_ok] at run
  obtain ⟨_, ⟨_, rfl⟩, _, ⟨_, rfl⟩, same⟩ := run
  exact (Except.ok.inj same).symm

theorem rebaseLibrary_ok {library result : Library} (run : rebaseLibrary elf delta library = .ok result) :
    result = library.mapAddresses (moved elf delta) (unlessZero (moved elf delta)) := by
  simp only [rebaseLibrary, bind_ok, rebaseLoadedAddress_ok] at run
  obtain ⟨_, ⟨_, rfl⟩, functions, functionsRan, variables', variablesRan, same⟩ := run
  rw [← Except.ok.inj same, mapM_eq_map rebaseNidEntry_ok functionsRan, mapM_eq_map rebaseNidEntry_ok variablesRan]
  rfl

/-- The end of a table is checked on its own, because it may lie just past every segment. -/
def EndFits (elf : ElfImage) (delta address : Int) : Prop :=
  address ≠ 0 → IsLoadedEnd elf address → IsU32 (address + delta)

theorem rebaseModuleInfo_ok {info result : ModuleInfo} (run : rebaseModuleInfo elf delta info = .ok result) :
    result = info.mapAddresses (moved elf delta) (unlessZero (moved elf delta)) (unlessZero (movedEnd elf delta)) ∧
      EndFits elf delta info.exportsEnd ∧ EndFits elf delta info.importsEnd := by
  simp only [rebaseModuleInfo, bind_ok, rebaseLoadedAddress_ok, rebaseNonzeroLoadedAddress_ok,
    rebaseNonzeroLoadedRangeEnd_ok] at run
  obtain ⟨_, ⟨_, rfl⟩, _, ⟨_, rfl⟩, _, ⟨exportsFit, rfl⟩, _, ⟨_, rfl⟩, _, ⟨importsFit, rfl⟩, _, ⟨_, rfl⟩, same⟩ := run
  exact ⟨(Except.ok.inj same).symm, exportsFit, importsFit⟩

/-- The metadata of a rebased model. -/
structure ModelRebased (elf : ElfImage) (delta : Int) (model result : ExecutableModel) : Prop where
  moduleInfo : result.moduleInfo = model.moduleInfo.map
    (·.mapAddresses (moved elf delta) (unlessZero (moved elf delta)) (unlessZero (movedEnd elf delta)))
  imports : result.imports = model.imports.map (·.mapAddresses (moved elf delta) (unlessZero (moved elf delta)))
  exports : result.exports = model.exports.map (·.mapAddresses (moved elf delta) (unlessZero (moved elf delta)))
  ends : ∀ info ∈ model.moduleInfo, EndFits elf delta info.exportsEnd ∧ EndFits elf delta info.importsEnd

theorem rebaseModel_ok {model result : ExecutableModel} {relocated : ElfImage}
    (run : rebaseModel model elf relocated delta = .ok result) : ModelRebased elf delta model result := by
  simp only [rebaseModel, bind_ok] at run
  obtain ⟨info, infoRan, imports, importsRan, exports, exportsRan, same⟩ := run
  cases same
  have libraries : imports = _ ∧ exports = _ :=
    ⟨mapM_eq_map rebaseLibrary_ok importsRan, mapM_eq_map rebaseLibrary_ok exportsRan⟩
  cases present : model.moduleInfo with
  | none =>
    rw [present] at infoRan
    cases infoRan
    exact ⟨by rw [present]; rfl, libraries.1, libraries.2, by simp [present]⟩
  | some original =>
    rw [present] at infoRan
    cases rebased : rebaseModuleInfo elf delta original with
    | error failure =>
      rw [Option.mapM_some, rebased] at infoRan
      cases infoRan
    | ok moved =>
      rw [Option.mapM_some, rebased] at infoRan
      cases infoRan
      obtain ⟨rfl, ends⟩ := rebaseModuleInfo_ok rebased
      exact ⟨by rw [present]; rfl, libraries.1, libraries.2, by simpa [present] using ends⟩

end Model

/-- Every address of the metadata moves exactly when it is loaded, as the entry
point does. Zero stands for an absent value only in the module information. -/
structure MetadataAgrees (elf : ElfImage) (model : ExecutableModel) (view : RelocatedLoadView) : Prop where
  entry : view.elf.header.entry = moved elf view.addressDelta elf.header.entry
  moduleInfo : view.model.moduleInfo = model.moduleInfo.map
    (·.mapAddresses (moved elf view.addressDelta) (unlessZero (moved elf view.addressDelta))
      (unlessZero (movedEnd elf view.addressDelta)))
  imports : view.model.imports = model.imports.map
    (·.mapAddresses (moved elf view.addressDelta) (moved elf view.addressDelta))
  exports : view.model.exports = model.exports.map
    (·.mapAddresses (moved elf view.addressDelta) (moved elf view.addressDelta))
  entryExports : ∀ (i j : Nat) (library library' : Library) (entry entry' : NidEntry),
    model.exports[i]? = some library → view.model.exports[i]? = some library' →
      library.functions[j]? = some entry → library'.functions[j]? = some entry' →
        entry.address = elf.header.entry → entry'.address = view.elf.header.entry

section View
variable {data : Bytes} {elf : ElfImage} {model : ExecutableModel} {loadAddress : Int} {view : RelocatedLoadView}

theorem view_metadata (built : buildRelocatedLoadView data elf model loadAddress = .ok view) :
    ∃ base, imageBase elf = some base ∧ view.addressDelta = loadAddress - base ∧
      LayoutFits elf view.addressDelta ∧ view.segmentBases = segmentBases elf view.addressDelta ∧
      view.elf = rebaseElf elf view.elf.rawData view.addressDelta ∧
      ModelRebased elf view.addressDelta model view.model := by
  obtain ⟨final, run⟩ := buildRelocatedLoadView_ok built
  obtain ⟨checked, delta, bases, ran, _, relocated, rebased⟩ := runLoadView_ok run
  obtain ⟨_, _, found, _, fits⟩ := checkedImageBase_ok.mp checked
  obtain ⟨writes, _, same⟩ := relocateWords_writes ran
  have elfSame : final.elf = elf := by rw [same]
  have modelSame : final.model = model := by rw [same]
  rw [elfSame] at relocated rebased
  rw [modelSame] at rebased
  refine ⟨_, found, delta, delta ▸ fits, bases, ?_, rebaseModel_ok rebased⟩
  rw [relocated]
  rfl

/-- An address that is at the entry point stays there when both move. -/
theorem entryExports_of_map {move : Int → Int} {entryBefore entryAfter : Int} {before after : List Library}
    (mapped : after = before.map (·.mapAddresses move move)) (entryMoves : entryAfter = move entryBefore)
    {i j : Nat} {library library' : Library} {entry entry' : NidEntry} (atLibrary : before[i]? = some library)
    (atLibrary' : after[i]? = some library') (atEntry : library.functions[j]? = some entry)
    (atEntry' : library'.functions[j]? = some entry') (start : entry.address = entryBefore) :
    entry'.address = entryAfter := by
  rw [mapped, List.getElem?_map, atLibrary] at atLibrary'
  cases atLibrary'
  dsimp only [Library.mapAddresses] at atEntry'
  rw [List.getElem?_map, atEntry] at atEntry'
  cases atEntry'
  dsimp only [NidEntry.mapAddresses]
  rw [start, entryMoves]

theorem moved_zero_iff {delta : Int} : moved elf delta 0 = 0 ↔ (delta = 0 ∨ ¬IsLoaded elf 0) := by
  unfold moved
  split
  · rename_i inside
    simp only [inside, not_true, or_false, Int.zero_add]
  · rename_i outside
    simp only [outside, not_false_iff, or_true]

/-- The metadata agrees with the entry point unless an import or export entry
has address zero and that is an address of the image. -/
theorem buildRelocatedLoadView_metadata_iff (built : buildRelocatedLoadView data elf model loadAddress = .ok view) :
    MetadataAgrees elf model view ↔
      imageBase elf = some loadAddress ∨ ¬IsLoaded elf 0 ∨
        ∀ library ∈ model.imports ++ model.exports, library.AllEntries (· ≠ 0) := by
  obtain ⟨base, found, delta, _, _, relocated, rebased⟩ := view_metadata built
  have still : imageBase elf = some loadAddress ↔ view.addressDelta = 0 := by
    rw [found, Option.some.injEq, delta]
    omega
  have entries : ∀ {libraries : List Library} {result : List Library},
      result = libraries.map (·.mapAddresses (moved elf view.addressDelta) (unlessZero (moved elf view.addressDelta))) →
        (result = libraries.map (·.mapAddresses (moved elf view.addressDelta) (moved elf view.addressDelta)) ↔
          ∀ library ∈ libraries, library.AllEntries fun address => address = 0 →
            moved elf view.addressDelta 0 = 0) := by
    rintro libraries _ rfl
    simp only [Library.map_mapAddresses_eq_iff, unlessZero_eq_iff]
  have entryMoves : view.elf.header.entry = moved elf view.addressDelta elf.header.entry := by rw [relocated]; rfl
  rw [still, ← or_assoc, ← moved_zero_iff]
  constructor
  · intro agrees
    by_cases fixed : moved elf view.addressDelta 0 = 0
    · exact Or.inl fixed
    · right
      intro library member
      rcases List.mem_append.mp member with imported | exported
      · exact ((entries rebased.imports).mp agrees.imports library imported).imp fun _ zero => mt zero fixed
      · exact ((entries rebased.exports).mp agrees.exports library exported).imp fun _ zero => mt zero fixed
  · intro condition
    have all : ∀ library ∈ model.imports ++ model.exports, library.AllEntries fun address => address = 0 →
        moved elf view.addressDelta 0 = 0 := by
      intro library member
      rcases condition with fixed | nonzero
      · exact ⟨fun _ _ => ⟨fun _ => fixed, fun _ => fixed⟩, fun _ _ => ⟨fun _ => fixed, fun _ => fixed⟩⟩
      · exact (nonzero library member).imp fun _ other zero => absurd zero other
    have exports := (entries rebased.exports).mpr fun library member => all library (List.mem_append_right _ member)
    exact {
      entry := entryMoves
      moduleInfo := rebased.moduleInfo
      imports := (entries rebased.imports).mpr fun library member => all library (List.mem_append_left _ member)
      exports := exports
      entryExports := fun _ _ _ _ _ _ atLibrary atLibrary' atEntry atEntry' start =>
        entryExports_of_map exports entryMoves atLibrary atLibrary' atEntry atEntry' start }

end View

/-- A module that exports one function, whose NID table is not part of the image. -/
def exportingModel (address : Int) : ExecutableModel :=
  { sampleModel with exports := [⟨"syslib", 0, 4, 1, 0, 0, [⟨0xD632ACDB, address, .function, 0x100⟩], []⟩] }

theorem exportingModel_agrees : ∃ view,
    buildRelocatedLoadView sampleWords sampleImage (exportingModel 4) 0x08804000 = .ok view ∧
      MetadataAgrees sampleImage (exportingModel 4) view := by
  obtain ⟨view, built⟩ := exists_ok
    (x := buildRelocatedLoadView sampleWords sampleImage (exportingModel 4) 0x08804000) (by decide)
  refine ⟨view, built, (buildRelocatedLoadView_metadata_iff built).mpr (Or.inr (Or.inr ?_))⟩
  simp [exportingModel, sampleModel, Library.AllEntries, NidEntry.All]

/-- A function exported at the entry point is left behind when the entry point is address zero. -/
theorem buildRelocatedLoadView_detaches_entry :
    ¬∀ (data : Bytes) (elf : ElfImage) (model : ExecutableModel) (loadAddress : Int) (view : RelocatedLoadView),
      buildRelocatedLoadView data elf model loadAddress = .ok view → MetadataAgrees elf model view := by
  intro agree
  obtain ⟨view, built⟩ := exists_ok
    (x := buildRelocatedLoadView sampleWords sampleImage (exportingModel 0) 0x08804000) (by decide)
  have seen : (fun view => (view.elf.header.entry, view.model.exports)) <$>
      buildRelocatedLoadView sampleWords sampleImage (exportingModel 0) 0x08804000 =
        .ok (0x08804000, [⟨"syslib", 0, 4, 1, 0, 0x08804000, [⟨0xD632ACDB, 0, .function, 0x100⟩], []⟩]) := by
    decide
  rw [built] at seen
  obtain ⟨entry, exports⟩ := Prod.mk.inj (Except.ok.inj seen)
  have together := (agree _ _ _ _ _ built).entryExports 0 0 _ _ _ _ rfl (by rw [exports]; rfl) rfl rfl rfl
  rw [entry] at together
  exact absurd together (by decide)

end PspDisasm
