import PspDisasm.LoadViewMetadata

namespace PspDisasm
open Foundations

/-- Every address of a view is a 32-bit address, and everything it places ends within the 32-bit space. -/
structure ThirtyTwoBit (view : RelocatedLoadView) : Prop where
  programHeaders : ∀ ph ∈ view.elf.programHeaders, IsU32 ph.vaddr ∧ IsU32 ph.paddr
  sections : ∀ sec ∈ view.elf.sections, sec.flags &&& shfAlloc ≠ 0 → IsU32 sec.addr
  entry : IsU32 view.elf.header.entry
  bases : ∀ base ∈ view.segmentBases, IsU32 base.2
  metadata : view.model.All IsU32 IsU32
  segmentEnds : ∀ segment ∈ loadedSegments view.elf, segment.vaddr + segment.memsz ≤ 2 ^ 32
  sectionEnds : ∀ sec ∈ view.elf.sections, sec.flags &&& shfAlloc ≠ 0 → sec.addr + sec.size ≤ 2 ^ 32

/-- An address that does not move is a 32-bit address already. -/
def KeptFits (elf : ElfImage) (address : Int) : Prop := ¬IsLoaded elf address → IsU32 address

def KeptEndFits (elf : ElfImage) (address : Int) : Prop := ¬IsLoadedEnd elf address → IsU32 address

/-- What the layout checks leave out: the empty loaded segments, which move all
the same, and every address that stays where it is. -/
structure UncheckedFits (elf : ElfImage) (model : ExecutableModel) (delta : Int) : Prop where
  emptySegments : ∀ ph ∈ elf.programHeaders, ph.type = ptLoad → ph.memsz = 0 →
    IsU32 (ph.vaddr + delta) ∧ IsU32 (ph.paddr + delta)
  otherHeaders : ∀ ph ∈ elf.programHeaders, ph.type ≠ ptLoad → IsU32 ph.vaddr ∧ IsU32 ph.paddr
  emptySections : ∀ sec ∈ elf.sections, sec.flags &&& shfAlloc ≠ 0 → sec.size = 0 → IsU32 sec.addr
  entry : KeptFits elf elf.header.entry
  metadata : model.All (KeptFits elf) (KeptEndFits elf)

theorem isU32_zero : IsU32 0 := by decide

section Bounds
variable {elf : ElfImage} {delta address : Int} {model result : ExecutableModel}

/-- A loaded address keeps within its segment, which has been checked. -/
theorem isU32_moved (fits : LayoutFits elf delta) : IsU32 (moved elf delta address) ↔ KeptFits elf address := by
  unfold moved KeptFits
  split
  · rename_i inside
    obtain ⟨segment, member, within⟩ := inside
    have inside : IsLoaded elf address := ⟨segment, member, within⟩
    obtain ⟨start, stop, _⟩ := fits.segments segment member
    simp only [inside, not_true, false_implies, iff_true]
    simp only [IsU32, containsAddress] at start within ⊢
    omega
  · rename_i outside
    simp only [outside, not_false_iff, true_implies]

theorem isU32_unlessZero_moved (fits : LayoutFits elf delta) :
    IsU32 (unlessZero (moved elf delta) address) ↔ KeptFits elf address := by
  unfold unlessZero
  split
  · rename_i zero
    simp only [KeptFits, zero, isU32_zero, implies_true]
  · exact isU32_moved fits

theorem isU32_unlessZero_movedEnd (fits : EndFits elf delta address) :
    IsU32 (unlessZero (movedEnd elf delta) address) ↔ KeptEndFits elf address := by
  unfold unlessZero movedEnd KeptEndFits
  split
  · rename_i zero
    simp only [zero, isU32_zero, implies_true]
  · rename_i nonzero
    split
    · rename_i inside
      simp only [inside, fits nonzero inside, not_true, false_implies]
    · rename_i outside
      simp only [outside, not_false_iff, true_implies]

theorem library_all (fits : LayoutFits elf delta) {library : Library} :
    (library.mapAddresses (moved elf delta) (unlessZero (moved elf delta))).All IsU32 ↔
      library.All (KeptFits elf) := by
  have entries : (fun address => IsU32 (unlessZero (moved elf delta) address)) = KeptFits elf :=
    funext fun _ => propext (isU32_unlessZero_moved fits)
  rw [Library.mapAddresses_all, entries, isU32_moved fits, Library.All]

theorem rebased_all (fits : LayoutFits elf delta) (rebased : ModelRebased elf delta model result) :
    result.All IsU32 IsU32 ↔ model.All (KeptFits elf) (KeptEndFits elf) := by
  have info : ∀ info ∈ model.moduleInfo, (info.mapAddresses (moved elf delta) (unlessZero (moved elf delta))
      (unlessZero (movedEnd elf delta))).All IsU32 IsU32 ↔ info.All (KeptFits elf) (KeptEndFits elf) := by
    intro info present
    obtain ⟨exportsFit, importsFit⟩ := rebased.ends info present
    simp only [ModuleInfo.All, ModuleInfo.mapAddresses, isU32_moved fits, isU32_unlessZero_moved fits,
      isU32_unlessZero_movedEnd exportsFit, isU32_unlessZero_movedEnd importsFit]
  have infos : (∀ info ∈ result.moduleInfo, info.All IsU32 IsU32) ↔
      ∀ info ∈ model.moduleInfo, info.All (KeptFits elf) (KeptEndFits elf) := by
    rw [rebased.moduleInfo]
    constructor
    · intro all original present
      exact (info original present).mp (all _ (Option.mem_map_of_mem _ present))
    · intro all rebasedInfo present
      obtain ⟨original, found, rfl⟩ := Option.mem_map.mp present
      exact (info original found).mpr (all original found)
  have libraries : ∀ {before after : List Library},
      after = before.map (·.mapAddresses (moved elf delta) (unlessZero (moved elf delta))) →
        ((∀ library ∈ after, library.All IsU32) ↔ ∀ library ∈ before, library.All (KeptFits elf)) := by
    rintro before _ rfl
    simp only [List.forall_mem_map, library_all fits]
  constructor
  · rintro ⟨moduleInfo, imports, exports⟩
    exact ⟨infos.mp moduleInfo, (libraries rebased.imports).mp imports, (libraries rebased.exports).mp exports⟩
  · rintro ⟨moduleInfo, imports, exports⟩
    exact ⟨infos.mpr moduleInfo, (libraries rebased.imports).mpr imports, (libraries rebased.exports).mpr exports⟩

/-- The addresses of the shifted program headers: the checks cover the non-empty loaded segments. -/
theorem rebased_headers (fits : LayoutFits elf delta) (data : Bytes) :
    (∀ ph ∈ (rebaseElf elf data delta).programHeaders, IsU32 ph.vaddr ∧ IsU32 ph.paddr) ↔
      (∀ ph ∈ elf.programHeaders, ph.type = ptLoad → ph.memsz = 0 →
        IsU32 (ph.vaddr + delta) ∧ IsU32 (ph.paddr + delta)) ∧
      ∀ ph ∈ elf.programHeaders, ph.type ≠ ptLoad → IsU32 ph.vaddr ∧ IsU32 ph.paddr := by
  simp only [rebaseElf, List.forall_mem_map]
  constructor
  · intro all
    refine ⟨fun ph member load _ => ?_, fun ph member other => ?_⟩
    · simpa only [rebaseProgramHeader, if_pos load] using all ph member
    · simpa only [rebaseProgramHeader, if_neg other] using all ph member
  · rintro ⟨empty, others⟩ ph member
    by_cases load : ph.type = ptLoad
    · simp only [rebaseProgramHeader, if_pos load]
      by_cases nothing : ph.memsz = 0
      · exact empty ph member load nothing
      · obtain ⟨virtual, _, physical⟩ := fits.segments ph
          (mem_loadedSegments.mpr ⟨member, load, Nat.pos_of_ne_zero nothing⟩)
        exact ⟨virtual, physical⟩
    · simpa only [rebaseProgramHeader, if_neg load] using others ph member load

theorem rebased_sections (fits : LayoutFits elf delta) (data : Bytes) :
    (∀ sec ∈ (rebaseElf elf data delta).sections, sec.flags &&& shfAlloc ≠ 0 → IsU32 sec.addr) ↔
      ∀ sec ∈ elf.sections, sec.flags &&& shfAlloc ≠ 0 → sec.size = 0 → IsU32 sec.addr := by
  have flags : ∀ sec : Section, (rebaseSection delta sec).flags = sec.flags := by
    intro sec
    unfold rebaseSection
    split <;> rfl
  simp only [rebaseElf, List.forall_mem_map, flags]
  constructor
  · intro all sec member alloc empty
    have still : ¬sec.IsAllocated := fun placed => by
      obtain ⟨_, positive⟩ := placed
      omega
    simpa only [rebaseSection, if_neg still] using all sec member alloc
  · intro all sec member alloc
    unfold rebaseSection
    split
    · rename_i placed
      exact (fits.sections sec member placed).1
    · rename_i still
      exact all sec member alloc (Nat.eq_zero_of_not_pos fun positive => still ⟨alloc, positive⟩)

theorem rebased_segmentEnds (fits : LayoutFits elf delta) {data : Bytes} :
    ∀ segment ∈ loadedSegments (rebaseElf elf data delta), segment.vaddr + segment.memsz ≤ 2 ^ 32 := by
  intro segment listed
  obtain ⟨member, load, nonempty⟩ := mem_loadedSegments.mp listed
  obtain ⟨original, inOriginal, rfl⟩ := List.mem_map.mp member
  unfold rebaseProgramHeader at load nonempty ⊢
  split at load
  · rename_i loadBefore
    rw [if_pos loadBefore] at nonempty ⊢
    exact (fits.segments original (mem_loadedSegments.mpr ⟨inOriginal, loadBefore, nonempty⟩)).2.1
  · rename_i other
    exact absurd load other

theorem rebased_sectionEnds (fits : LayoutFits elf delta) {data : Bytes}
    (addresses : ∀ sec ∈ (rebaseElf elf data delta).sections, sec.flags &&& shfAlloc ≠ 0 → IsU32 sec.addr) :
    ∀ sec ∈ (rebaseElf elf data delta).sections, sec.flags &&& shfAlloc ≠ 0 → sec.addr + sec.size ≤ 2 ^ 32 := by
  intro sec listed alloc
  have start := addresses sec listed alloc
  obtain ⟨original, member, rfl⟩ := List.mem_map.mp listed
  unfold rebaseSection at alloc start ⊢
  split
  · rename_i placed
    exact (fits.sections original member placed).2
  · rename_i still
    rw [if_neg still] at alloc start
    have empty : original.size = 0 := Nat.eq_zero_of_not_pos fun positive => still ⟨alloc, positive⟩
    simp only [IsU32] at start
    omega

end Bounds

section View
variable {data : Bytes} {elf : ElfImage} {model : ExecutableModel} {loadAddress base : Int} {view : RelocatedLoadView}

/-- A view keeps to 32-bit addresses exactly when the parts that its checks leave out do. -/
theorem buildRelocatedLoadView_thirtyTwoBit_iff (built : buildRelocatedLoadView data elf model loadAddress = .ok view)
    (found : imageBase elf = some base) : ThirtyTwoBit view ↔ UncheckedFits elf model (loadAddress - base) := by
  obtain ⟨other, foundOther, delta, fits, bases, relocated, rebased⟩ := view_metadata built
  cases Option.some.inj (foundOther.symm.trans found)
  rw [← delta]
  have headers := rebased_headers fits view.elf.rawData
  have sections := rebased_sections fits view.elf.rawData
  have metadata := rebased_all fits rebased
  rw [← relocated] at headers sections
  have entry : IsU32 view.elf.header.entry ↔ KeptFits elf elf.header.entry := by
    rw [relocated]
    exact isU32_moved fits
  constructor
  · intro bits
    obtain ⟨empty, others⟩ := headers.mp bits.programHeaders
    exact ⟨empty, others, sections.mp bits.sections, entry.mp bits.entry, metadata.mp bits.metadata⟩
  · intro unchecked
    have addresses := sections.mpr unchecked.emptySections
    refine {
      programHeaders := headers.mpr ⟨unchecked.emptySegments, unchecked.otherHeaders⟩
      sections := addresses
      entry := entry.mpr unchecked.entry
      bases := ?_
      metadata := metadata.mpr unchecked.metadata
      segmentEnds := ?_
      sectionEnds := ?_ }
    · intro pair listed
      rw [bases] at listed
      obtain ⟨segment, member, rfl⟩ := List.mem_map.mp listed
      exact (fits.segments segment member).1
    · rw [relocated]
      exact rebased_segmentEnds fits
    · rw [relocated] at addresses ⊢
      exact rebased_sectionEnds fits addresses

end View

/-- The sample image with an empty loaded segment after its last word, at the given address. -/
def imageWithEmptySegment (address : Nat) : ElfImage :=
  { sampleImage with
    programHeaders := [⟨0, ptLoad, 0, 0, 0, 16, 16, 5, 4⟩, ⟨1, ptLoad, 0, address, address, 0, 0, 6, 4⟩]
    numbered := .of_indices rfl }

theorem imageWithEmptySegment_thirtyTwoBit : ∃ view,
    buildRelocatedLoadView sampleWords (imageWithEmptySegment 0x10) sampleModel 0x08804000 = .ok view ∧
      ThirtyTwoBit view := by
  obtain ⟨view, built⟩ := exists_ok
    (x := buildRelocatedLoadView sampleWords (imageWithEmptySegment 0x10) sampleModel 0x08804000) (by decide)
  have atZero : imageBase (imageWithEmptySegment 0x10) = some 0 := by decide
  refine ⟨view, built, (buildRelocatedLoadView_thirtyTwoBit_iff built atZero).mpr ?_⟩
  refine ⟨by decide, by decide, by simp [imageWithEmptySegment, sampleImage], ?_, ?_⟩
  · exact fun _ => by decide
  · exact ⟨by simp [sampleModel], by simp [sampleModel], by simp [sampleModel]⟩

/-- An empty segment near the top of the address space is shifted past it. -/
theorem buildRelocatedLoadView_exceeds_thirtyTwoBit :
    ¬∀ (data : Bytes) (elf : ElfImage) (model : ExecutableModel) (loadAddress : Int) (view : RelocatedLoadView),
      buildRelocatedLoadView data elf model loadAddress = .ok view → ThirtyTwoBit view := by
  intro fits
  obtain ⟨view, built⟩ := exists_ok
    (x := buildRelocatedLoadView sampleWords (imageWithEmptySegment 0xFFFFFFF0) sampleModel 0x08804000)
    (by decide)
  have seen : (fun view => view.elf.programHeaders.map (·.vaddr)) <$>
      buildRelocatedLoadView sampleWords (imageWithEmptySegment 0xFFFFFFF0) sampleModel 0x08804000 =
        .ok [0x08804000, 0x108803FF0] := by
    decide
  rw [built] at seen
  have addresses : view.elf.programHeaders.map (·.vaddr) = _ := Except.ok.inj seen
  have shifted : (0x108803FF0 : Int) ∈ view.elf.programHeaders.map (·.vaddr) := by
    rw [addresses]
    decide
  obtain ⟨ph, member, same⟩ := List.mem_map.mp shifted
  have bound := ((fits _ _ _ _ _ built).programHeaders ph member).1
  rw [same] at bound
  exact absurd bound (by decide)

end PspDisasm
