import PspDisasm.LoadView
import PspDisasm.RelocationWords

namespace PspDisasm
open Foundations

theorem segment_ok {role : String} {elf : ElfImage} {index : Nat} {found : ProgramHeader} :
    segment elf index role = .ok found ↔ elf.programHeaders[index]? = some found ∧ found.type = ptLoad :=
  selectSegment_ok

/-- Where a record's source word starts in the file. -/
def sourceWord (elf : ElfImage) (relocation : Relocation) : Nat :=
  match elf.programHeaders[(relocationSegments relocation).1]? with
  | none => 0
  | some source => source.offset + relocation.offset

theorem sourceFileOffset_ok {elf : ElfImage} {relocation : Relocation} {index offset : Nat} :
    sourceFileOffset elf relocation = .ok (index, offset) ↔
      (∃ source, elf.programHeaders[(relocationSegments relocation).1]? = some source ∧ source.type = ptLoad ∧
        relocation.offset + 4 ≤ source.filesz) ∧
      index = (relocationSegments relocation).1 ∧ offset = sourceWord elf relocation := by
  simp only [sourceFileOffset, bind_ok, segment_ok, raiseIf_ok, pure, Except.pure, Except.ok.injEq, Prod.mk.injEq,
    Nat.not_lt]
  constructor
  · rintro ⟨source, ⟨atIndex, load⟩, _, within, rfl, rfl⟩
    exact ⟨⟨source, atIndex, load, within⟩, rfl, by simp only [sourceWord, atIndex]⟩
  · rintro ⟨⟨source, atIndex, load, within⟩, rfl, rfl⟩
    exact ⟨source, ⟨atIndex, load⟩, (), within, rfl, by simp only [sourceWord, atIndex]⟩

theorem segmentBase_ok {elf : ElfImage} {delta base : Int} {index : Nat} :
    segmentBase (segmentBases elf delta) index = .ok base ↔
      ∃ target, elf.programHeaders[index]? = some target ∧ target.type = ptLoad ∧ 0 < target.memsz ∧
        base = target.vaddr + delta := by
  have entry : ∀ {i : Nat} {b : Int}, (i, b) ∈ segmentBases elf delta ↔
      ∃ target, elf.programHeaders[i]? = some target ∧ target.type = ptLoad ∧ 0 < target.memsz ∧
        b = target.vaddr + delta := by
    intro i b
    simp only [segmentBases, loadedSegments, List.mem_map, List.mem_filter, decide_eq_true_eq, Prod.mk.injEq]
    constructor
    · rintro ⟨target, ⟨member, load, nonempty⟩, rfl, rfl⟩
      obtain ⟨j, atIndex⟩ := List.mem_iff_getElem?.mp member
      exact ⟨target, elf.numbered j target atIndex ▸ atIndex, load, nonempty, rfl⟩
    · rintro ⟨target, atIndex, load, nonempty, rfl⟩
      exact ⟨target, ⟨List.mem_of_getElem? atIndex, load, nonempty⟩, elf.numbered i target atIndex, rfl⟩
  rw [← entry]
  unfold segmentBase
  cases found : (segmentBases elf delta).lookup index with
  | none =>
    rw [List.lookup_eq_none_iff] at found
    simp only [reduceCtorEq, false_iff]
    intro member
    simpa using found _ member
  | some other =>
    obtain ⟨front, back, split, _⟩ := List.lookup_eq_some_iff.mp found
    have member : (index, other) ∈ segmentBases elf delta := by rw [split]; simp
    simp only [Except.ok.injEq]
    constructor
    · rintro rfl
      exact member
    · intro listed
      obtain ⟨target, atIndex, _, _, rfl⟩ := entry.mp listed
      obtain ⟨same, again, _, _, rfl⟩ := entry.mp member
      rw [Option.some.inj (again.symm.trans atIndex)]

/-- A later record that a HI16 record with these segments takes its low half from. -/
def IsCompanion (segments : Nat × Nat) (candidate : Relocation) : Prop :=
  candidate.type ∈ [1, 6] ∧ relocationSegments candidate = segments

instance (segments : Nat × Nat) (candidate : Relocation) : Decidable (IsCompanion segments candidate) :=
  inferInstanceAs (Decidable (_ ∧ _))

def companion (relocation : Relocation) (later : List Relocation) : Option Relocation :=
  later.find? fun candidate => IsCompanion (relocationSegments relocation) candidate

/-- The record that a Type-A HI16 without a low half of its own is paired with. -/
def selectedCompanion (relocation : Relocation) (later : List Relocation) : Option Relocation :=
  if relocation.type = 5 ∧ relocation.addend = none ∧ relocation.source ≠ .programHeaderRel2 then
    companion relocation later
  else none

/-- The low half that goes with a record: for a HI16 without one of its own, the
signed low half of its companion's word in the unpatched bytes. -/
def pairedLowHalf (data : Bytes) (elf : ElfImage) (relocation : Relocation) (later : List Relocation) : Option Int :=
  if relocation.type = 5 ∧ relocation.addend = none then
    (companion relocation later).map fun candidate => signedHalf (littleWord data (sourceWord elf candidate) % 2 ^ 16)
  else none

section Companion
variable {data : Bytes} {elf : ElfImage} {segments : Nat × Nat} {candidate : Relocation} {later : List Relocation}

/-- The search goes on past a record that is not a companion. -/
theorem companionLowHalf_skip (other : ¬IsCompanion segments candidate) :
    companionLowHalf data elf segments (candidate :: later) = companionLowHalf data elf segments later := by
  rw [companionLowHalf]
  split
  · rfl
  · split
    · rfl
    · rename_i low
      rw [if_pos fun same => other ⟨not_not.mp low, same⟩]

theorem companionLowHalf_stop (found : IsCompanion segments candidate) :
    companionLowHalf data elf segments (candidate :: later) = do
      let (_, fileOffset) ← sourceFileOffset elf candidate
      raiseIf (data.length < fileOffset + 4)
        (.parseError "Type-A HI16 companion word extends beyond the input")
      return some (signedHalf (littleWord data fileOffset &&& 0xFFFF)) := by
  obtain ⟨low, same⟩ := found
  have notHigh : candidate.type ≠ 5 := by
    rintro high
    simp [high] at low
  rw [companionLowHalf, if_neg notHigh, if_neg (not_not.mpr low), if_neg (not_not.mpr same)]

theorem companionLowHalf_ok {low : Option Int} (run : companionLowHalf data elf segments later = .ok low) :
    low = (later.find? fun candidate => IsCompanion segments candidate).map fun candidate =>
      signedHalf (littleWord data (sourceWord elf candidate) % 2 ^ 16) := by
  induction later with
  | nil =>
    cases run
    rfl
  | cons candidate later ih =>
    by_cases found : IsCompanion segments candidate
    · rw [companionLowHalf_stop found] at run
      obtain ⟨⟨index, offset⟩, place, rest⟩ := bind_ok.mp run
      obtain ⟨_, _, same⟩ := bind_ok.mp rest
      obtain ⟨_, _, rfl⟩ := sourceFileOffset_ok.mp place
      cases same
      rw [List.find?_cons_of_pos (by simpa using found), Option.map_some, and_0xFFFF]
    · rw [companionLowHalf_skip found] at run
      rw [List.find?_cons_of_neg (by simpa using found)]
      exact ih run

end Companion

/-- What one record does to the bytes: it writes the word that it names, and the
new word is a function of the old one. -/
structure Patches (data : Bytes) (elf : ElfImage) (bases : List (Nat × Int)) (relocation : Relocation)
    (later : List Relocation) (patched : Bytes) (w : Write) : Prop where
  start : w.start = sourceWord elf relocation
  size : w.bytes.length = 4
  fits : w.stop ≤ patched.length
  applied : ∃ base, segmentBase bases (relocationSegments relocation).2 = .ok base ∧
    applyPspRelocationWord (littleWord patched w.start) relocation base
      (pairedLowHalf data elf relocation later) = .ok (littleValue w.bytes)

theorem toBytes_ok {value : Nat} {bytes : Bytes} (stored : toBytes value = .ok bytes) :
    bytes.length = 4 ∧ littleValue bytes = value := by
  obtain ⟨_, fits, same⟩ := bind_ok.mp stored
  have small : value < 256 ^ 4 := by simpa [uint32Limit] using raiseIf_ok.mp fits
  cases same
  rw [littleBytes_length, littleValue_littleBytes, Nat.mod_eq_of_lt small]
  exact ⟨rfl, rfl⟩

/-- Without a low half of its own, a record of the second stream format is never applied as a HI16. -/
theorem lo16Argument_ok {data : Bytes} {elf : ElfImage} {relocation : Relocation} {later : List Relocation}
    {lo16 : Option Int} {word result : Nat} {base : Int}
    (found : lo16Argument data elf relocation later = .ok lo16)
    (applied : applyPspRelocationWord word relocation base lo16 = .ok result) :
    lo16 = pairedLowHalf data elf relocation later := by
  unfold pairedLowHalf
  unfold lo16Argument at found
  split at found
  · rename_i high
    rw [if_pos high]
    unfold typeAHi16LowHalf at found
    split at found
    · cases found
      have supported := applyPspRelocationWord_ok.mp ⟨result, applied⟩
      simp [Relocation.Supported, high.1, high.2] at supported
    · exact companionLowHalf_ok found
  · rename_i plain
    rw [if_neg plain]
    exact (Except.ok.inj found).symm

theorem relocateWord_patches {bases : List (Nat × Int)} {relocation : Relocation} {later : List Relocation}
    {s t : BuildState} (run : relocateWord bases relocation later s = .ok t) :
    ∃ w, Patches s.data s.elf bases relocation later s.patched w ∧
      t = { s with patched := w.apply s.patched, applied := s.applied + 1 } := by
  simp only [relocateWord, bind_ok] at run
  obtain ⟨_, _, ⟨index, offset⟩, place, _, within, lo16, low, base, known, result, applied, bytes, stored, same⟩ := run
  obtain ⟨_, _, rfl⟩ := sourceFileOffset_ok.mp place
  have inside := raiseIf_ok.mp within
  obtain ⟨size, value⟩ := toBytes_ok stored
  cases same
  refine ⟨⟨sourceWord s.elf relocation, bytes⟩, ⟨rfl, size, ?_, base, known, ?_⟩, rfl⟩
  · simp only [Write.stop, size]
    omega
  · rw [value, ← lo16Argument_ok low applied]
    exact applied

/-- A write of four bytes to a record's source word. -/
def WritesWord (elf : ElfImage) (size : Nat) (relocation : Relocation) (w : Write) : Prop :=
  w.start = sourceWord elf relocation ∧ w.bytes.length = 4 ∧ w.stop ≤ size

section Run
variable {bases : List (Nat × Int)} {relocation : Relocation} {relocations before later : List Relocation}
  {s t : BuildState} {writes : List Write}

theorem Patches.writesWord {data patched : Bytes} {elf : ElfImage} {w : Write}
    (patch : Patches data elf bases relocation later patched w) : WritesWord elf patched.length relocation w :=
  ⟨patch.start, patch.size, patch.fits⟩

theorem writesWord_fits {elf : ElfImage} {size : Nat}
    (words : List.Forall₂ (WritesWord elf size) relocations writes) : ∀ w ∈ writes, w.stop ≤ size := by
  intro w member
  obtain ⟨_, _, word⟩ := forall₂_mem words member
  exact word.2.2

/-- A run of the loop is one write per record. It touches nothing but its own copy and its counter. -/
theorem relocateWords_writes (run : relocateWords bases relocations s = .ok t) :
    ∃ writes, List.Forall₂ (WritesWord s.elf s.patched.length) relocations writes ∧
      t = { s with patched := writeAll writes s.patched, applied := s.applied + relocations.length } := by
  induction relocations generalizing s with
  | nil =>
    cases run
    exact ⟨[], .nil, rfl⟩
  | cons relocation later ih =>
    obtain ⟨next, step, rest⟩ := bind_ok.mp run
    obtain ⟨w, patch, rfl⟩ := relocateWord_patches step
    have length : (w.apply s.patched).length = s.patched.length := splice_length patch.fits
    obtain ⟨writes, words, rfl⟩ := ih rest
    refine ⟨w :: writes, .cons patch.writesWord (length ▸ words), ?_⟩
    have count : s.applied + 1 + later.length = s.applied + (relocation :: later).length := by
      rw [List.length_cons]
      omega
    simp only [count]
    rfl

/-- The writes of a run, seen from one of its records. -/
theorem relocateWords_at (run : relocateWords bases (before ++ relocation :: later) s = .ok t) :
    ∃ front w back, t.patched = writeAll (front ++ w :: back) s.patched ∧
      List.Forall₂ (WritesWord s.elf s.patched.length) before front ∧
      List.Forall₂ (WritesWord s.elf s.patched.length) later back ∧
      Patches s.data s.elf bases relocation later (writeAll front s.patched) w := by
  induction before generalizing s with
  | nil =>
    obtain ⟨next, step, rest⟩ := bind_ok.mp run
    obtain ⟨w, patch, rfl⟩ := relocateWord_patches step
    have length : (w.apply s.patched).length = s.patched.length := splice_length patch.fits
    obtain ⟨back, words, rfl⟩ := relocateWords_writes rest
    exact ⟨[], w, back, rfl, .nil, length ▸ words, patch⟩
  | cons first before ih =>
    obtain ⟨next, step, rest⟩ := bind_ok.mp run
    obtain ⟨v, patch, rfl⟩ := relocateWord_patches step
    have length : (v.apply s.patched).length = s.patched.length := splice_length patch.fits
    obtain ⟨front, w, back, patched, words, backWords, at_w⟩ := ih rest
    exact ⟨v :: front, w, back, patched, .cons patch.writesWord (length ▸ words), length ▸ backWords, at_w⟩

end Run

/-- Two records whose source words share no byte. -/
def WordsApart (elf : ElfImage) (relocation other : Relocation) : Prop :=
  sourceWord elf relocation + 4 ≤ sourceWord elf other ∨ sourceWord elf other + 4 ≤ sourceWord elf relocation

instance (elf : ElfImage) (relocation other : Relocation) : Decidable (WordsApart elf relocation other) :=
  inferInstanceAs (Decidable (_ ∨ _))

theorem writesWord_apart {elf : ElfImage} {size : Nat} {relocation : Relocation} {relocations : List Relocation}
    {w : Write} {writes : List Write} (word : WritesWord elf size relocation w)
    (words : List.Forall₂ (WritesWord elf size) relocations writes)
    (apart : ∀ other ∈ relocations, WordsApart elf relocation other) : ∀ other ∈ writes, w.Apart other := by
  intro other member
  obtain ⟨record, listed, start, size, _⟩ := forall₂_mem words member
  have away := apart record listed
  obtain ⟨start', size', _⟩ := word
  simp only [WordsApart, Write.Apart, Write.stop] at away ⊢
  omega

/-- A word that no other record touches is patched exactly once, from its original value. -/
theorem relocateWords_isolated {bases : List (Nat × Int)} {relocation : Relocation} {before later : List Relocation}
    {s t : BuildState} (run : relocateWords bases (before ++ relocation :: later) s = .ok t)
    (apart : ∀ other ∈ before ++ later, WordsApart s.elf relocation other) :
    ∃ base, segmentBase bases (relocationSegments relocation).2 = .ok base ∧
      applyPspRelocationWord (littleWord s.patched (sourceWord s.elf relocation)) relocation base
        (pairedLowHalf s.data s.elf relocation later) =
          .ok (littleWord t.patched (sourceWord s.elf relocation)) := by
  obtain ⟨front, w, back, patched, frontWords, backWords, patch⟩ := relocateWords_at run
  have fitsFront := writesWord_fits frontWords
  have length := writeAll_length fitsFront
  have word : WritesWord s.elf s.patched.length relocation w := ⟨patch.start, patch.size, length ▸ patch.fits⟩
  have original : slice (writeAll front s.patched) w.start w.bytes.length = slice s.patched w.start w.bytes.length :=
    writeAll_slice fitsFront (writesWord_apart word frontWords fun other member => apart other (by simp [member]))
  have final : slice (writeAll (front ++ w :: back) s.patched) w.start w.bytes.length = w.bytes := by
    apply writeAll_isolated
    · intro other member
      rcases List.mem_append.mp member with inFront | inBack
      · exact fitsFront other inFront
      · rcases List.mem_cons.mp inBack with rfl | inBack
        · exact word.2.2
        · exact writesWord_fits backWords other inBack
    · exact writesWord_apart word backWords fun other member => apart other (by simp [member])
  obtain ⟨base, known, applied⟩ := patch.applied
  refine ⟨base, known, ?_⟩
  rw [patch.size, patch.start] at original final
  rw [patch.start] at applied
  simp only [littleWord] at applied ⊢
  rw [patched, final, ← original]
  exact applied

section View
variable {data : Bytes} {elf : ElfImage} {model : ExecutableModel} {loadAddress : Int} {view : RelocatedLoadView}
  {final : BuildState}

theorem runLoadView_ok (run : runLoadView data elf model loadAddress = .ok (view, final)) :
    checkedImageBase elf loadAddress = .ok view.originalImageBase ∧
    view.addressDelta = loadAddress - view.originalImageBase ∧
    view.segmentBases = segmentBases elf view.addressDelta ∧
    relocateWords view.segmentBases model.relocations ⟨data, elf, model, data, 0⟩ = .ok final ∧
    view.appliedRelocations = final.applied ∧
    view.elf = rebaseElf final.elf final.patched view.addressDelta ∧
    rebaseModel final.model final.elf view.elf view.addressDelta = .ok view.model := by
  simp only [runLoadView, bind_ok] at run
  obtain ⟨base, checked, last, ran, relocatedModel, rebased, same⟩ := run
  cases same
  exact ⟨checked, rfl, rfl, ran, rfl, rfl, rebased⟩

theorem buildRelocatedLoadView_ok (built : buildRelocatedLoadView data elf model loadAddress = .ok view) :
    ∃ final, runLoadView data elf model loadAddress = .ok (view, final) := by
  unfold buildRelocatedLoadView at built
  cases run : runLoadView data elf model loadAddress with
  | error failure =>
    rw [run] at built
    cases built
  | ok result =>
    rw [run] at built
    cases built
    exact ⟨result.2, rfl⟩

/-- The final value of a word that no other record touches. -/
theorem view_isolated (built : buildRelocatedLoadView data elf model loadAddress = .ok view)
    {before later : List Relocation} {relocation : Relocation}
    (order : model.relocations = before ++ relocation :: later)
    (apart : ∀ other ∈ before ++ later, WordsApart elf relocation other) :
    ∃ target, elf.programHeaders[(relocationSegments relocation).2]? = some target ∧ target.type = ptLoad ∧
      applyPspRelocationWord (littleWord data (sourceWord elf relocation)) relocation
        (target.vaddr + view.addressDelta) (pairedLowHalf data elf relocation later) =
          .ok (littleWord view.elf.rawData (sourceWord elf relocation)) := by
  obtain ⟨final, run⟩ := buildRelocatedLoadView_ok built
  obtain ⟨_, _, bases, ran, _, relocated, _⟩ := runLoadView_ok run
  have raw : view.elf.rawData = final.patched := by rw [relocated]; rfl
  rw [order] at ran
  obtain ⟨base, known, applied⟩ := relocateWords_isolated ran apart
  rw [bases] at known
  obtain ⟨target, atIndex, load, _, rfl⟩ := segmentBase_ok.mp known
  rw [raw]
  exact ⟨target, atIndex, load, applied⟩

/-- Nothing but the listed words changes, every word that stands alone is
patched from its original value, and the caller's objects stay as they were. -/
theorem buildRelocatedLoadView_frame (built : buildRelocatedLoadView data elf model loadAddress = .ok view) :
    view.elf.rawData.length = data.length ∧
    (∀ i, (∀ relocation ∈ model.relocations,
        ¬(sourceWord elf relocation ≤ i ∧ i < sourceWord elf relocation + 4)) → view.elf.rawData[i]? = data[i]?) ∧
    (∀ before relocation later, model.relocations = before ++ relocation :: later →
      (∀ other ∈ before ++ later, WordsApart elf relocation other) →
        ∃ target, elf.programHeaders[(relocationSegments relocation).2]? = some target ∧ target.type = ptLoad ∧
          applyPspRelocationWord (littleWord data (sourceWord elf relocation)) relocation
            (target.vaddr + view.addressDelta) (pairedLowHalf data elf relocation later) =
              .ok (littleWord view.elf.rawData (sourceWord elf relocation))) ∧
    ∃ final, runLoadView data elf model loadAddress = .ok (view, final) ∧
      final.data = data ∧ final.elf = elf ∧ final.model = model := by
  obtain ⟨final, run⟩ := buildRelocatedLoadView_ok built
  obtain ⟨_, _, _, ran, _, relocated, _⟩ := runLoadView_ok run
  obtain ⟨writes, words, same⟩ := relocateWords_writes ran
  have fits := writesWord_fits words
  have raw : view.elf.rawData = writeAll writes data := by rw [relocated, same]; rfl
  refine ⟨?_, ?_, fun _ _ _ order apart => view_isolated built order apart,
    final, run, by rw [same], by rw [same], by rw [same]⟩
  · rw [raw, writeAll_length fits]
  · intro i outside
    rw [raw]
    refine writeAll_outside fits fun w member covered => ?_
    obtain ⟨relocation, listed, start, size, _⟩ := forall₂_mem words member
    apply outside relocation listed
    simpa only [Write.Covers, Write.stop, start, size] using covered

end View

/-- One loaded segment: a pointer, a jump and a HI16/LO16 pair, each pointing sixteen bytes into it. -/
def sampleWords : Bytes :=
  [0x10, 0, 0, 0, 0x04, 0, 0, 0x0C, 0, 0, 0x04, 0x3C, 0x10, 0x80, 0x84, 0x24]

def sampleImage : ElfImage where
  header := ⟨0xFFA0, 8, 1, 0, 0x34, 0, 0, 0x34, 0x20, 1, 0x28, 0, 0⟩
  endianness := .little
  programHeaders := [⟨0, ptLoad, 0, 0, 0, 16, 16, 5, 4⟩]
  sections := []
  rawData := sampleWords
  numbered := .of_indices rfl

def sampleRelocation (type offset : Nat) : Relocation :=
  ⟨"", offset, type, type, "", 0, none, .programHeader, none, none, none, none, none⟩

def sampleModel : ExecutableModel :=
  ⟨"", .elf32, .prx, false, some .little, some sampleImage.header, sampleImage.programHeaders, [], none, none, [], [],
    [sampleRelocation 2 0, sampleRelocation 4 4, sampleRelocation 5 8, sampleRelocation 6 12], []⟩

theorem sampleImage_frame : ∃ view, buildRelocatedLoadView sampleWords sampleImage sampleModel 0x08804000 = .ok view ∧
    view.elf.rawData.length = 16 ∧ ∃ target, sampleImage.programHeaders[0]? = some target ∧
      applyPspRelocationWord 0x10 (sampleRelocation 2 0) (target.vaddr + view.addressDelta) none =
        .ok (littleWord view.elf.rawData 0) := by
  obtain ⟨view, built⟩ := exists_ok (x := buildRelocatedLoadView sampleWords sampleImage sampleModel 0x08804000)
    (by decide)
  obtain ⟨length, _, isolated, _⟩ := buildRelocatedLoadView_frame built
  obtain ⟨target, atIndex, _, applied⟩ := isolated [] (sampleRelocation 2 0) _ rfl (by decide)
  exact ⟨view, built, length, target, atIndex, applied⟩

end PspDisasm
