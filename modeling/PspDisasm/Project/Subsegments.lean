import PspDisasm.Foundations.Dict
import PspDisasm.Project.FlatImage

namespace PspDisasm
open Foundations

namespace Project

def knownSegmentTypes : Dict String String :=
  [(".text", "asm"), (".data", "data"), (".rodata", "rodata"), (".sdata", "sdata"), (".sbss", "sbss"), (".bss", "bss"),
    (".gcc_except_table", "gcc_except_table"), (".eh_frame", "eh_frame")]

/-- `_segment_type`. -/
def segmentType (sec : Section) : String :=
  if sec.type = shtNobits then if sec.name = ".sbss" then "sbss" else "bss"
  else
    match knownSegmentTypes.get? sec.name with
    | some known => known
    | none =>
      match sec.kind with
      | .executable => "asm"
      | .writable => "data"
      | _ => "rodata"

/-- A part of the image, up to the next one: the bytes of a section, or padding. -/
structure FileSubsegment where
  start : Int
  type : String
  name : String
deriving DecidableEq

/-- The subsegment of a section without bytes. -/
structure BssSubsegment where
  type : String
  vram : Int
  name : String
deriving DecidableEq

def paddingSubsegment (cursor : Int) : FileSubsegment := ⟨cursor, "bin", s!"padding/{hexPadded 6 cursor}"⟩

def sectionSubsegment (baseVram : Int) (sec : Section) : FileSubsegment :=
  ⟨sec.addr - baseVram, segmentType sec, s!"main/{hexPadded 6 (sec.addr - baseVram)}"⟩

/-- The loop over the sections with bytes, and what is behind it. -/
def fileSubsegments (baseVram : Int) (targetSize : Nat) : Int → List Section → List FileSubsegment
  | cursor, [] => if cursor < targetSize then [paddingSubsegment cursor] else []
  | cursor, sec :: sections =>
    let start := sec.addr - baseVram
    (if cursor < start then [paddingSubsegment cursor] else []) ++
      sectionSubsegment baseVram sec :: fileSubsegments baseVram targetSize (max cursor (start + sec.size)) sections

structure Subsegments where
  file : List FileSubsegment
  bss : List BssSubsegment
  bssSize : Nat

/-- `_build_subsegments`, whose list has the parts of the image first. -/
def buildSubsegments (baseVram : Int) (targetSize : Nat) (sections : List Section) : Subsegments :=
  let bssSections := sections.filter (! isFileBacked ·)
  { file := fileSubsegments baseVram targetSize 0 (sections.filter isFileBacked)
    bss := bssSections.map fun sec => ⟨segmentType sec, sec.addr, s!"main/{addressDigits sec.addr}"⟩
    bssSize := (bssSections.map (·.size)).sum }

/-- The parts of the image from a cursor to its end: the sections in order, and padding wherever there is none. -/
inductive Splits (baseVram : Int) (targetSize : Nat) : Int → List Section → List FileSubsegment → Prop
  | full : Splits baseVram targetSize targetSize [] []
  | rest {cursor : Int} : cursor < targetSize → Splits baseVram targetSize cursor [] [paddingSubsegment cursor]
  | stored {cursor : Int} {sec sections subsegments} : sec.addr - baseVram = cursor → 0 < sec.size →
      Splits baseVram targetSize (cursor + sec.size) sections subsegments →
      Splits baseVram targetSize cursor (sec :: sections) (sectionSubsegment baseVram sec :: subsegments)
  | gap {cursor : Int} {sec sections subsegments} : cursor < sec.addr - baseVram →
      Splits baseVram targetSize (sec.addr - baseVram) (sec :: sections) subsegments →
      Splits baseVram targetSize cursor (sec :: sections) (paddingSubsegment cursor :: subsegments)

section Splits
variable {baseVram cursor : Int} {targetSize : Nat} {sections : List Section} {subsegments : List FileSubsegment}

theorem fileSubsegments_splits (ordered : sections.Pairwise fun first second => sectionStop first ≤ second.addr)
    (behind : ∀ sec ∈ sections, cursor ≤ sec.addr - baseVram ∧ 0 < sec.size ∧ sectionStop sec - baseVram ≤ targetSize)
    (inside : cursor ≤ targetSize) :
    Splits baseVram targetSize cursor sections (fileSubsegments baseVram targetSize cursor sections) := by
  induction sections generalizing cursor with
  | nil =>
    rw [fileSubsegments]
    split
    · rename_i room
      exact .rest room
    · obtain rfl : (targetSize : Int) = cursor := by omega
      exact .full
  | cons sec sections ih =>
    obtain ⟨⟨above, positive, below⟩, later⟩ := List.forall_mem_cons.mp behind
    obtain ⟨first, rest⟩ := List.pairwise_cons.mp ordered
    have stop : sec.addr - baseVram + sec.size = sectionStop sec - baseVram := by
      unfold sectionStop
      omega
    have there : Splits baseVram targetSize (sec.addr - baseVram) (sec :: sections) (sectionSubsegment baseVram sec ::
        fileSubsegments baseVram targetSize (sec.addr - baseVram + sec.size) sections) := by
      refine .stored rfl positive (ih rest (fun other member => ?_) (by omega))
      obtain ⟨_, nonempty, inside⟩ := later other member
      have order := first other member
      exact ⟨by omega, nonempty, inside⟩
    rw [fileSubsegments, max_eq_right (by omega)]
    split
    · rename_i gap
      exact .gap gap there
    · obtain rfl : cursor = sec.addr - baseVram := by omega
      exact there

theorem Splits.start_ge (splits : Splits baseVram targetSize cursor sections subsegments) :
    ∀ sub ∈ subsegments, cursor ≤ sub.start := by
  induction splits with
  | full => simp
  | rest _ => exact List.forall_mem_singleton.mpr le_rfl
  | stored here _ _ ih =>
    refine List.forall_mem_cons.mpr ⟨here.ge, fun sub member => ?_⟩
    have behind := ih sub member
    omega
  | gap room _ ih =>
    refine List.forall_mem_cons.mpr ⟨le_rfl, fun sub member => ?_⟩
    have behind := ih sub member
    omega

theorem Splits.increasing (splits : Splits baseVram targetSize cursor sections subsegments) :
    (subsegments.map (·.start)).Pairwise (· < ·) := by
  induction splits with
  | full => exact .nil
  | rest _ => exact List.pairwise_singleton _ _
  | stored here positive later ih =>
    refine List.pairwise_cons.mpr ⟨List.forall_mem_map.mpr fun sub member => ?_, ih⟩
    have behind := later.start_ge sub member
    dsimp only [sectionSubsegment]
    omega
  | gap room later ih =>
    refine List.pairwise_cons.mpr ⟨List.forall_mem_map.mpr fun sub member => ?_, ih⟩
    have behind := later.start_ge sub member
    dsimp only [paddingSubsegment]
    omega

theorem Splits.le (splits : Splits baseVram targetSize cursor sections subsegments) : cursor ≤ targetSize := by
  induction splits with
  | full => exact le_rfl
  | rest room => exact room.le
  | stored _ _ _ ih => omega
  | gap _ _ ih => omega

theorem Splits.start_lt (splits : Splits baseVram targetSize cursor sections subsegments) :
    ∀ sub ∈ subsegments, sub.start < targetSize := by
  induction splits with
  | full => simp
  | rest room => exact List.forall_mem_singleton.mpr room
  | stored here positive later ih =>
    have inside := later.le
    refine List.forall_mem_cons.mpr ⟨?_, ih⟩
    dsimp only [sectionSubsegment]
    omega
  | gap room later ih =>
    have inside := later.le
    refine List.forall_mem_cons.mpr ⟨?_, ih⟩
    dsimp only [paddingSubsegment]
    omega

theorem Splits.head (splits : Splits baseVram targetSize cursor sections subsegments) (room : cursor < targetSize) :
    subsegments.head?.map (·.start) = some cursor := by
  cases splits with
  | full => omega
  | rest _ => rfl
  | stored here _ _ => exact congrArg some here
  | gap _ _ => rfl

theorem Splits.mem_of_section (splits : Splits baseVram targetSize cursor sections subsegments) :
    ∀ sec ∈ sections, sectionSubsegment baseVram sec ∈ subsegments := by
  induction splits with
  | full => simp
  | rest _ => simp
  | stored _ _ _ ih =>
    exact List.forall_mem_cons.mpr ⟨List.mem_cons_self, fun sec member => List.mem_cons_of_mem _ (ih sec member)⟩
  | gap _ _ ih => exact fun sec member => List.mem_cons_of_mem _ (ih sec member)

/-- The part that a byte is in: that of the section that covers it, or padding where none does. -/
def PartOf (baseVram : Int) (stored : Section → Prop) (sub : FileSubsegment) (i : Int) : Prop :=
  (∃ sec, stored sec ∧ Covers sec (baseVram + i) ∧ sub = sectionSubsegment baseVram sec) ∨
    ((∀ sec, stored sec → ¬Covers sec (baseVram + i)) ∧ sub = paddingSubsegment sub.start)

theorem Splits.bytes (splits : Splits baseVram targetSize cursor sections subsegments)
    (ordered : sections.Pairwise fun first second => sectionStop first ≤ second.addr) {i : Int} (lower : cursor ≤ i)
    (upper : i < targetSize) : ∃ before sub after, subsegments = before ++ sub :: after ∧ sub.start ≤ i ∧
      (∀ next ∈ after, i < next.start) ∧ PartOf baseVram (· ∈ sections) sub i := by
  induction splits with
  | full => omega
  | rest _ =>
    exact ⟨[], _, [], rfl, lower, List.forall_mem_nil _, Or.inr ⟨List.forall_mem_nil _, rfl⟩⟩
  | @stored cursor sec sections subsegments here positive later ih =>
    by_cases inside : i < cursor + sec.size
    · refine ⟨[], _, subsegments, rfl, here.trans_le lower, fun next member => ?_, Or.inl ⟨sec, List.mem_cons_self, ?_, rfl⟩⟩
      · have behind := later.start_ge next member
        omega
      · unfold Covers sectionStop
        omega
    · obtain ⟨before, sub, after, split, start, next, part⟩ := ih (List.pairwise_cons.mp ordered).2 (by omega)
      refine ⟨sectionSubsegment baseVram sec :: before, sub, after, congrArg _ split, start, next, ?_⟩
      rcases part with ⟨other, member, covers, same⟩ | ⟨none, same⟩
      · exact Or.inl ⟨other, List.mem_cons_of_mem _ member, covers, same⟩
      · refine Or.inr ⟨List.forall_mem_cons.mpr ⟨fun covers => ?_, none⟩, same⟩
        have below := covers.2
        unfold sectionStop at below
        omega
  | @gap cursor sec sections subsegments room later ih =>
    by_cases inside : i < sec.addr - baseVram
    · have first := (List.pairwise_cons.mp ordered).1
      refine ⟨[], _, subsegments, rfl, lower, fun next member => ?_, Or.inr ⟨List.forall_mem_cons.mpr ⟨?_, ?_⟩, rfl⟩⟩
      · have behind := later.start_ge next member
        omega
      · intro covers
        have above := covers.1
        omega
      · intro other member covers
        have order := first other member
        have above := covers.1
        unfold sectionStop at order
        omega
    · obtain ⟨before, sub, after, split, start, next, part⟩ := ih ordered (by omega)
      exact ⟨paddingSubsegment cursor :: before, sub, after, congrArg _ split, start, next, part⟩

end Splits

/-- The parts that an image is split into. -/
structure SplitsImage (elf : ElfImage) (flat : FlatImage) (parts : List FileSubsegment) : Prop where
  start : parts.head?.map (·.start) = some 0
  increasing : (parts.map (·.start)).Pairwise (· < ·)
  inside : ∀ sub ∈ parts, sub.start < flat.target.length
  stored : ∀ sec, InImage elf sec → sectionSubsegment flat.baseVram sec ∈ parts
  bytes : ∀ i : Nat, i < flat.target.length → ∃ before sub after, parts = before ++ sub :: after ∧ sub.start ≤ (i : Int) ∧
    (∀ next ∈ after, (i : Int) < next.start) ∧ PartOf flat.baseVram (InImage elf) sub i

section Split
variable {elf : ElfImage} {flat : FlatImage}

theorem Flattened.splits (flattened : Flattened elf flat) (apart : SectionsApart elf) :
    Splits flat.baseVram flat.target.length 0 (flat.sections.filter isFileBacked)
      (buildSubsegments flat.baseVram flat.target.length flat.sections).file := by
  rw [flattened.sections]
  refine fileSubsegments_splits ((allocatedSections_pairwise apart).filter isFileBacked) (fun sec listed => ?_) (Int.natCast_nonneg _)
  have lower := flattened.le_addr (List.mem_filter.mp listed).1
  have upper := le_max?_stop listed
  have length := flattened.length
  exact ⟨by omega, isAllocated_pos (mem_fileSections.mp listed).2.1, by omega⟩

theorem Flattened.length_pos (flattened : Flattened elf flat) : 0 < flat.target.length := by
  obtain ⟨sec, image⟩ := flattened.nonempty
  have listed := mem_fileSections.mpr image
  have lower := flattened.le_addr (List.mem_filter.mp listed).1
  have upper := le_max?_stop listed
  have length := flattened.length
  have positive := isAllocated_pos image.2.1
  have stop : sectionStop sec = sec.addr + sec.size := rfl
  omega

theorem Flattened.splitsImage (flattened : Flattened elf flat) (apart : SectionsApart elf) :
    SplitsImage elf flat (buildSubsegments flat.baseVram flat.target.length flat.sections).file := by
  have splits := flattened.splits apart
  have ordered := (allocatedSections_pairwise apart).filter isFileBacked
  have image : (· ∈ (allocatedSections elf).filter isFileBacked) = InImage elf := funext fun _ => propext mem_fileSections
  rw [flattened.sections] at splits ⊢
  refine ⟨splits.head (by exact_mod_cast flattened.length_pos), splits.increasing, splits.start_lt,
    fun sec held => splits.mem_of_section sec (mem_fileSections.mpr held), fun i below => ?_⟩
  have part := splits.bytes ordered (Int.natCast_nonneg i) (by exact_mod_cast below)
  rw [image] at part
  exact part

/-- The flat image has the bytes of the sections at their addresses, and its parts are those of the sections. -/
theorem flattenElf_agrees (apart : SectionsApart elf) (ran : flattenElf elf = .ok flat) :
    ((∃ sec ∈ elf.sections, isAllocated sec = true ∧ sec.addr = flat.baseVram) ∧
        ∀ sec ∈ elf.sections, isAllocated sec = true → flat.baseVram ≤ sec.addr) ∧
      (∀ i : Nat, i < flat.target.length →
        (∀ sec, InImage elf sec → Covers sec (flat.baseVram + i) →
          flat.target[i]? = elf.rawData[sec.offset + (flat.baseVram + i - sec.addr).toNat]?) ∧
        ((∀ sec, InImage elf sec → ¬Covers sec (flat.baseVram + i)) → flat.target[i]? = some 0)) ∧
      SplitsImage elf flat (buildSubsegments flat.baseVram flat.target.length flat.sections).file := by
  have flattened := flattenElf_flattened ran
  obtain ⟨held, image⟩ := flattened.nonempty
  obtain ⟨below, lowest, listed, base⟩ := min?_addr (mem_allocatedSections.mpr ⟨image.1, image.2.1⟩)
  rw [← flattened.base] at below base
  refine ⟨⟨⟨lowest, (mem_allocatedSections.mp listed).1, (mem_allocatedSections.mp listed).2, base⟩,
    fun sec member allocated => below sec (mem_allocatedSections.mpr ⟨member, allocated⟩)⟩, fun i inside => ⟨?_, ?_⟩,
    flattened.splitsImage apart⟩
  · exact fun sec stored covers => flattened.byte_of_section apart stored covers
  · exact flattened.byte_of_gap inside

end Split

/-- Bss below the code, a gap behind it, and data. -/
def gapElf : ElfImage :=
  { header := ⟨0xFFA0, 8, 1, 0x1010, 0, 0, 0, 52, 0, 0, 0, 0, 0⟩
    endianness := .little
    programHeaders := []
    sections := [⟨1, ".data", 1, 3, 0x1018, 8, 4, 0, 0, 4, 0, .writable⟩, ⟨2, ".text", 1, 6, 0x1010, 0, 4, 0, 0, 4, 0, .executable⟩,
      ⟨3, ".bss", 8, 3, 0x1008, 0, 4, 0, 0, 4, 0, .bss⟩]
    rawData := [8, 0, 0xE0, 3, 0, 0, 0, 0, 1, 2, 3, 4]
    numbered := .nil }

theorem gapElf_agrees : ∃ flat, flattenElf gapElf = .ok flat ∧
    SplitsImage gapElf flat (buildSubsegments flat.baseVram flat.target.length flat.sections).file := by
  obtain ⟨flat, ran⟩ := exists_ok (x := flattenElf gapElf) (by decide)
  refine ⟨flat, ran, (flattenElf_agrees ?_ ran).2.2⟩
  unfold SectionsApart Span.Apart sectionStop
  decide

end Project

end PspDisasm
