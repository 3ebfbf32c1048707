import PspDisasm.Analyzer
import PspDisasm.LoadViewMetadata
import PspDisasm.Prxreloc2Errors

namespace PspDisasm
open Foundations

/-- The index names a loaded segment, empty or not, with this property. -/
def LoadSegment (elf : ElfImage) (index : Nat) (P : ProgramHeader → Prop) : Prop :=
  ∃ segment ∈ elf.programHeaders[index]?, segment.type = ptLoad ∧ P segment

/-- The record's source word is a complete word of the file-backed part of its segment. -/
def HasSource (elf : ElfImage) (relocation : Relocation) : Prop :=
  LoadSegment elf (relocationSegments relocation).1 fun source => relocation.offset + 4 ≤ source.filesz

def CompanionHasSource (elf : ElfImage) (relocation : Relocation) (later : List Relocation) : Prop :=
  ∀ candidate ∈ selectedCompanion relocation later, HasSource elf candidate

/-- The record is of a known type, and a HI16 has a low half from somewhere. -/
def HasKnownType (relocation : Relocation) (later : List Relocation) : Prop :=
  relocation.type ∈ [0, 7, 2, 1, 6, 4, 14, 15] ∨
    relocation.type = 5 ∧ (relocation.addend.isSome ∨ (selectedCompanion relocation later).isSome)

/-- The record is patched without an exception. -/
def Applies (elf : ElfImage) (relocation : Relocation) (later : List Relocation) : Prop :=
  HasSource elf relocation ∧ CompanionHasSource elf relocation later ∧ HasKnownType relocation later ∧
    LoadSegment elf (relocationSegments relocation).2 fun target => 0 < target.memsz

/-- The record passes its own checks, but its target is a loaded segment without memory. -/
def HitsEmptyTarget (elf : ElfImage) (relocation : Relocation) (later : List Relocation) : Prop :=
  HasSource elf relocation ∧ CompanionHasSource elf relocation later ∧
    LoadSegment elf (relocationSegments relocation).2 fun target => target.memsz = 0

/-- The first record that is not patched is one whose target is empty. -/
def ReachesEmptyTarget (elf : ElfImage) : List Relocation → Prop
  | [] => False
  | relocation :: later =>
    HitsEmptyTarget elf relocation later ∨ Applies elf relocation later ∧ ReachesEmptyTarget elf later

section Word
variable {data : Bytes} {elf : ElfImage} {relocation : Relocation} {later : List Relocation}

theorem sourceFileOffset_ok_iff : (∃ place, sourceFileOffset elf relocation = .ok place) ↔ HasSource elf relocation := by
  constructor
  · rintro ⟨⟨index, offset⟩, found⟩
    obtain ⟨⟨source, atIndex, load, within⟩, _⟩ := sourceFileOffset_ok.mp found
    exact ⟨source, atIndex, load, within⟩
  · rintro ⟨source, atIndex, load, within⟩
    exact ⟨(_, _), sourceFileOffset_ok.mpr ⟨⟨source, atIndex, load, within⟩, rfl, rfl⟩⟩

/-- In a parsed image a source word lies in the file. -/
theorem sourceWord_inFile (parsed : elf.ParsedFrom data) (source : HasSource elf relocation) :
    sourceWord elf relocation + 4 ≤ data.length := by
  obtain ⟨segment, atIndex, _, within⟩ := source
  have inFile := parsed.headerInFile segment (List.mem_of_getElem? atIndex)
  have start : sourceWord elf relocation = segment.offset + relocation.offset := by
    simp only [sourceWord, Option.mem_def.mp atIndex]
  omega

theorem sourceFileOffset_parseErrors : ParseErrorsOnly (sourceFileOffset elf relocation) :=
  raisesOnly_bind selectSegment_parseErrors fun _ _ => raisesOnly_bind (raisesOnly_raiseIf rfl) fun _ _ =>
    raisesOnly_value _

theorem companionLowHalf_parseErrors {segments : Nat × Nat} : ParseErrorsOnly (companionLowHalf data elf segments later) := by
  induction later with
  | nil => exact raisesOnly_value _
  | cons candidate later ih =>
    by_cases found : IsCompanion segments candidate
    · rw [companionLowHalf_stop found]
      exact raisesOnly_bind sourceFileOffset_parseErrors fun _ _ =>
        raisesOnly_bind (raisesOnly_raiseIf rfl) fun _ _ => raisesOnly_value _
    · rw [companionLowHalf_skip found]
      exact ih

/-- The search for a low half returns exactly when the first companion has a source word. -/
theorem companionLowHalf_ok_iff (parsed : elf.ParsedFrom data) {segments : Nat × Nat} :
    (∃ low, companionLowHalf data elf segments later = .ok low) ↔
      ∀ candidate ∈ later.find? (fun candidate => IsCompanion segments candidate), HasSource elf candidate := by
  induction later with
  | nil => exact iff_of_true ⟨_, rfl⟩ (by simp)
  | cons candidate later ih =>
    by_cases found : IsCompanion segments candidate
    · rw [companionLowHalf_stop found, List.find?_cons_of_pos (by simpa using found)]
      simp only [Option.mem_def, Option.some.injEq, forall_eq']
      constructor
      · rintro ⟨low, run⟩
        obtain ⟨place, placed, _⟩ := bind_ok.mp run
        exact sourceFileOffset_ok_iff.mp ⟨place, placed⟩
      · intro source
        obtain ⟨⟨index, offset⟩, placed⟩ := sourceFileOffset_ok_iff.mpr source
        obtain ⟨_, _, rfl⟩ := sourceFileOffset_ok.mp placed
        have inFile := sourceWord_inFile parsed source
        refine ⟨_, bind_ok.mpr ⟨_, placed, bind_ok.mpr ⟨(), raiseIf_ok.mpr (Nat.not_lt.mpr inFile), rfl⟩⟩⟩
    · rw [companionLowHalf_skip found, List.find?_cons_of_neg (by simpa using found)]
      exact ih

theorem lo16Argument_parseErrors : ParseErrorsOnly (lo16Argument data elf relocation later) := by
  unfold lo16Argument typeAHi16LowHalf
  split
  · split
    · exact raisesOnly_value _
    · exact companionLowHalf_parseErrors
  · exact raisesOnly_value _

/-- The low half that a record is given is the one of the companion it looks for. -/
theorem lo16Argument_ok_iff (parsed : elf.ParsedFrom data) {low : Option Int} :
    lo16Argument data elf relocation later = .ok low ↔ CompanionHasSource elf relocation later ∧
      low = (selectedCompanion relocation later).map fun candidate =>
        signedHalf (littleWord data (sourceWord elf candidate) % 2 ^ 16) := by
  unfold lo16Argument typeAHi16LowHalf CompanionHasSource selectedCompanion companion
  by_cases high : relocation.type = 5 ∧ relocation.addend = none
  · by_cases stream : relocation.source = .programHeaderRel2
    · simp [high, stream, eq_comm]
    · rw [if_pos high, if_neg (by simp [high.1, stream]), if_pos ⟨high.1, high.2, stream⟩]
      constructor
      · intro run
        exact ⟨(companionLowHalf_ok_iff parsed).mp ⟨low, run⟩, companionLowHalf_ok run⟩
      · rintro ⟨source, rfl⟩
        obtain ⟨low, run⟩ := (companionLowHalf_ok_iff parsed).mpr source
        rw [run, companionLowHalf_ok run]
  · rw [if_neg high, if_neg fun sought => high ⟨sought.1, sought.2.1⟩]
    simp [eq_comm]

theorem segment_ok_iff (role : String) {index : Nat} :
    (∃ found, segment elf index role = .ok found) ↔ LoadSegment elf index fun _ => True := by
  simp only [segment_ok, LoadSegment, Option.mem_def, and_true]

theorem segmentBase_ok_iff (delta : Int) {index : Nat} :
    (∃ base, segmentBase (segmentBases elf delta) index = .ok base) ↔
      LoadSegment elf index fun target => 0 < target.memsz := by
  simp only [segmentBase_ok, LoadSegment, Option.mem_def]
  constructor
  · rintro ⟨_, target, atIndex, load, nonempty, _⟩
    exact ⟨target, atIndex, load, nonempty⟩
  · rintro ⟨target, atIndex, load, nonempty⟩
    exact ⟨_, target, atIndex, load, nonempty, rfl⟩

theorem supported_iff {candidate : Option Relocation} {half : Relocation → Int}
    (sought : candidate = selectedCompanion relocation later) :
    relocation.Supported (candidate.map half) ↔ HasKnownType relocation later := by
  rw [sought]
  unfold Relocation.Supported HasKnownType
  cases selectedCompanion relocation later <;> simp

theorem toBytes_total {value : Nat} (small : value < 2 ^ 32) : ∃ bytes, toBytes value = .ok bytes :=
  ⟨_, bind_ok.mpr ⟨(), raiseIf_ok.mpr (by rw [uint32Limit, Nat.one_shiftLeft]; omega), rfl⟩⟩

end Word

/-- The loop's own copy of the bytes keeps its length, and the caller's objects keep their values. -/
structure InBuild (data : Bytes) (elf : ElfImage) (s : BuildState) : Prop where
  length : s.patched.length = data.length
  sameData : s.data = data
  sameElf : s.elf = elf

section Loop
variable {data : Bytes} {elf : ElfImage} {delta : Int} {relocation : Relocation} {later : List Relocation}
  {s : BuildState}

theorem InBuild.step {t : BuildState} {bases : List (Nat × Int)} (state : InBuild data elf s)
    (turn : relocateWord bases relocation later s = .ok t) : InBuild data elf t := by
  obtain ⟨w, patch, rfl⟩ := relocateWord_patches turn
  exact ⟨(splice_length patch.fits).trans state.length, state.sameData, state.sameElf⟩

/-- Past its own checks, a record is patched unless its target's base is missing. -/
theorem relocateWord_checked (bases : List (Nat × Int)) (parsed : elf.ParsedFrom data) (state : InBuild data elf s)
    (source : HasSource elf relocation) (companionSource : CompanionHasSource elf relocation later)
    (target : LoadSegment elf (relocationSegments relocation).2 fun _ => True) :
    relocateWord bases relocation later s = (do
      let base ← segmentBase bases (relocationSegments relocation).2
      let relocated ← applyPspRelocationWord (littleWord s.patched (sourceWord elf relocation)) relocation base
        ((selectedCompanion relocation later).map fun candidate =>
          signedHalf (littleWord data (sourceWord elf candidate) % 2 ^ 16))
      let bytes ← toBytes relocated
      return { s with patched := splice s.patched (sourceWord elf relocation) bytes, applied := s.applied + 1 }) := by
  obtain ⟨found, atTarget⟩ := (segment_ok_iff "target").mpr target
  obtain ⟨⟨index, offset⟩, placed⟩ := sourceFileOffset_ok_iff.mpr source
  obtain ⟨_, _, rfl⟩ := sourceFileOffset_ok.mp placed
  have inFile := sourceWord_inFile parsed source
  have room : raiseIf (s.patched.length < sourceWord elf relocation + 4)
      (Failure.parseError "Relocation source word extends beyond the input") = .ok () := by
    rw [raiseIf_ok, state.length]
    omega
  have low := (lo16Argument_ok_iff parsed).mpr ⟨companionSource, rfl⟩
  simp only [relocateWord, state.sameElf, state.sameData, atTarget, placed, room, low, bind, Except.bind]

theorem relocateWord_ok_iff (parsed : elf.ParsedFrom data) (state : InBuild data elf s) :
    (∃ t, relocateWord (segmentBases elf delta) relocation later s = .ok t) ↔ Applies elf relocation later := by
  constructor
  · rintro ⟨t, turn⟩
    have run := turn
    simp only [relocateWord, bind_ok, state.sameElf, state.sameData] at run
    obtain ⟨_, _, place, placed, _, _, low, lowRun, base, known, result, applied, _⟩ := run
    obtain ⟨companionSource, rfl⟩ := (lo16Argument_ok_iff parsed).mp lowRun
    exact ⟨sourceFileOffset_ok_iff.mp ⟨place, placed⟩, companionSource,
      (supported_iff rfl).mp (applyPspRelocationWord_ok.mp ⟨result, applied⟩), (segmentBase_ok_iff _).mp ⟨base, known⟩⟩
  · rintro ⟨source, companionSource, type, target⟩
    have loaded : LoadSegment elf (relocationSegments relocation).2 fun _ => True := by
      obtain ⟨segment, atIndex, load, _⟩ := target
      exact ⟨segment, atIndex, load, trivial⟩
    obtain ⟨base, known⟩ := (segmentBase_ok_iff delta).mpr target
    obtain ⟨result, applied⟩ := applyPspRelocationWord_ok.mpr ((supported_iff rfl).mpr type)
    obtain ⟨bytes, stored⟩ := toBytes_total (applyPspRelocationWord_lt applied)
    refine ⟨{ s with patched := splice s.patched (sourceWord elf relocation) bytes, applied := s.applied + 1 }, ?_⟩
    rw [relocateWord_checked _ parsed state source companionSource loaded]
    exact bind_ok.mpr ⟨base, known, bind_ok.mpr ⟨result, applied, bind_ok.mpr ⟨bytes, stored, rfl⟩⟩⟩

/-- One record raises something undocumented exactly when it reaches an empty target. -/
theorem relocateWord_parseErrors_iff (parsed : elf.ParsedFrom data) (state : InBuild data elf s) :
    ParseErrorsOnly (relocateWord (segmentBases elf delta) relocation later s) ↔
      ¬HitsEmptyTarget elf relocation later := by
  constructor
  · rintro documented ⟨source, companionSource, target, atIndex, load, empty⟩
    have missing : segmentBase (segmentBases elf delta) (relocationSegments relocation).2 =
        .error (.keyError (toString (relocationSegments relocation).2)) := by
      cases known : segmentBase (segmentBases elf delta) (relocationSegments relocation).2 with
      | ok base =>
        obtain ⟨other, atOther, _, nonempty⟩ := (segmentBase_ok_iff _).mp ⟨base, known⟩
        cases Option.some.inj (atIndex.symm.trans atOther)
        omega
      | error failure =>
        unfold segmentBase at known
        split at known
        · exact known.symm
        · cases known
    have failed := relocateWord_checked (segmentBases elf delta) parsed state source companionSource
      ⟨target, atIndex, load, trivial⟩
    rw [missing] at failed
    have parse := documented _ failed
    cases parse
  · intro unaffected
    unfold relocateWord
    rw [state.sameElf, state.sameData]
    refine raisesOnly_bind selectSegment_parseErrors fun found atTarget => ?_
    refine raisesOnly_bind sourceFileOffset_parseErrors fun place placed => ?_
    refine raisesOnly_bind (raisesOnly_raiseIf rfl) fun _ _ => ?_
    refine raisesOnly_bind lo16Argument_parseErrors fun low lowRun => ?_
    obtain ⟨segment, atIndex, load, _⟩ := (segment_ok_iff _).mp ⟨found, atTarget⟩
    obtain ⟨companionSource, _⟩ := (lo16Argument_ok_iff parsed).mp lowRun
    have nonempty : 0 < segment.memsz := Nat.pos_of_ne_zero fun empty =>
      unaffected ⟨sourceFileOffset_ok_iff.mp ⟨place, placed⟩, companionSource, segment, atIndex, load, empty⟩
    obtain ⟨base, known⟩ := (segmentBase_ok_iff delta).mpr ⟨segment, atIndex, load, nonempty⟩
    rw [known]
    refine raisesOnly_bind (raisesOnly_value _) fun _ _ => ?_
    refine raisesOnly_bind (fun _ failed => applyPspRelocationWord_error failed) fun result applied => ?_
    obtain ⟨bytes, stored⟩ := toBytes_total (applyPspRelocationWord_lt applied)
    rw [stored]
    exact raisesOnly_bind (raisesOnly_value _) fun _ _ => raisesOnly_value _

/-- A run of the loop raises something undocumented exactly when its first
failing record is one that reaches an empty target. -/
theorem relocateWords_parseErrors_iff (parsed : elf.ParsedFrom data) {relocations : List Relocation}
    (state : InBuild data elf s) :
    ParseErrorsOnly (relocateWords (segmentBases elf delta) relocations s) ↔ ¬ReachesEmptyTarget elf relocations := by
  induction relocations generalizing s with
  | nil => exact iff_of_true (raisesOnly_value _) id
  | cons relocation later ih =>
    have documented : ParseErrorsOnly (relocateWord (segmentBases elf delta) relocation later s) ↔
        ¬HitsEmptyTarget elf relocation later := relocateWord_parseErrors_iff parsed state
    have applies : (∃ t, relocateWord (segmentBases elf delta) relocation later s = .ok t) ↔
        Applies elf relocation later := relocateWord_ok_iff parsed state
    rw [relocateWords, ReachesEmptyTarget, not_or, ← documented, not_and, ← applies]
    cases turn : relocateWord (segmentBases elf delta) relocation later s with
    | error failure =>
      rw [error_bind]
      constructor
      · intro only
        refine ⟨only, ?_⟩
        rintro ⟨_, returned⟩
        cases returned
      · rintro ⟨only, _⟩
        exact only
    | ok t =>
      have rest := ih (state.step turn)
      rw [ok_bind]
      constructor
      · intro only
        exact ⟨raisesOnly_value _, fun _ => rest.mp only⟩
      · rintro ⟨_, unreached⟩
        exact rest.mpr (unreached ⟨t, rfl⟩)

end Loop

section Checks
variable {data : Bytes} {elf : ElfImage} {model : ExecutableModel} {loadAddress : Int}

theorem requireU32Range_parseErrors {start : Int} {size : Nat} {what : String} :
    ParseErrorsOnly (requireU32Range start size what) :=
  raisesOnly_bind (raisesOnly_raiseIf rfl) fun _ _ => raisesOnly_raiseIf rfl

theorem validateRebasedLayout_parseErrors {delta : Int} : ParseErrorsOnly (validateRebasedLayout elf delta) := by
  refine raisesOnly_bind (raisesOnly_forM fun segment _ => ?_) fun _ _ => raisesOnly_forM fun sec _ => ?_
  · exact raisesOnly_bind requireU32Range_parseErrors fun _ _ => raisesOnly_raiseIf rfl
  · unfold validateSection
    split
    · exact requireU32Range_parseErrors
    · exact raisesOnly_value _

theorem checkedImageBase_parseErrors : ParseErrorsOnly (checkedImageBase elf loadAddress) := by
  refine raisesOnly_bind (raisesOnly_raiseIf rfl) fun _ _ => raisesOnly_bind (raisesOnly_raiseIf rfl) fun _ _ => ?_
  split
  · exact raisesOnly_error.mpr rfl
  · exact raisesOnly_bind (raisesOnly_raiseIf rfl) fun _ _ =>
      raisesOnly_bind validateRebasedLayout_parseErrors fun _ _ => raisesOnly_value _

theorem rebaseWhere_parseErrors {contains : ProgramHeader → Int → Prop}
    [∀ segment address, Decidable (contains segment address)] {what : String} {address delta : Int} :
    ParseErrorsOnly (rebaseWhere contains what elf address delta) := by
  unfold rebaseWhere
  split
  · exact raisesOnly_bind (raisesOnly_raiseIf rfl) fun _ _ => raisesOnly_value _
  · exact raisesOnly_value _

theorem rebaseNonzeroLoadedAddress_parseErrors {address delta : Int} :
    ParseErrorsOnly (rebaseNonzeroLoadedAddress elf address delta) := by
  unfold rebaseNonzeroLoadedAddress
  split
  · exact raisesOnly_value _
  · exact rebaseWhere_parseErrors

theorem rebaseNonzeroLoadedRangeEnd_parseErrors {address delta : Int} :
    ParseErrorsOnly (rebaseNonzeroLoadedRangeEnd elf address delta) := by
  unfold rebaseNonzeroLoadedRangeEnd
  split
  · exact raisesOnly_value _
  · exact rebaseWhere_parseErrors

theorem rebaseNidEntry_parseErrors {delta : Int} {entry : NidEntry} :
    ParseErrorsOnly (rebaseNidEntry elf delta entry) :=
  raisesOnly_bind rebaseNonzeroLoadedAddress_parseErrors fun _ _ =>
    raisesOnly_bind rebaseNonzeroLoadedAddress_parseErrors fun _ _ => raisesOnly_value _

theorem rebaseLibrary_parseErrors {delta : Int} {library : Library} :
    ParseErrorsOnly (rebaseLibrary elf delta library) :=
  raisesOnly_bind rebaseWhere_parseErrors fun _ _ =>
    raisesOnly_bind (raisesOnly_mapM fun _ _ => rebaseNidEntry_parseErrors) fun _ _ =>
      raisesOnly_bind (raisesOnly_mapM fun _ _ => rebaseNidEntry_parseErrors) fun _ _ => raisesOnly_value _

theorem rebaseModuleInfo_parseErrors {delta : Int} {info : ModuleInfo} :
    ParseErrorsOnly (rebaseModuleInfo elf delta info) := by
  refine raisesOnly_bind rebaseNonzeroLoadedAddress_parseErrors fun _ _ => ?_
  refine raisesOnly_bind rebaseNonzeroLoadedAddress_parseErrors fun _ _ => ?_
  refine raisesOnly_bind rebaseNonzeroLoadedRangeEnd_parseErrors fun _ _ => ?_
  refine raisesOnly_bind rebaseNonzeroLoadedAddress_parseErrors fun _ _ => ?_
  refine raisesOnly_bind rebaseNonzeroLoadedRangeEnd_parseErrors fun _ _ => ?_
  exact raisesOnly_bind rebaseWhere_parseErrors fun _ _ => raisesOnly_value _

theorem rebaseModel_parseErrors {relocated : ElfImage} {delta : Int} :
    ParseErrorsOnly (rebaseModel model elf relocated delta) := by
  refine raisesOnly_bind ?_ fun _ _ => raisesOnly_bind (raisesOnly_mapM fun _ _ => rebaseLibrary_parseErrors) fun _ _ =>
    raisesOnly_bind (raisesOnly_mapM fun _ _ => rebaseLibrary_parseErrors) fun _ _ => raisesOnly_value _
  cases model.moduleInfo with
  | none => exact raisesOnly_value _
  | some info =>
    intro failure failed
    cases rebased : rebaseModuleInfo elf delta info with
    | ok result =>
      rw [Option.mapM_some, rebased] at failed
      cases failed
    | error other =>
      rw [Option.mapM_some, rebased] at failed
      cases failed
      exact rebaseModuleInfo_parseErrors _ rebased

/-- The image passes the checks that are made before the first word is touched. -/
def Loadable (elf : ElfImage) (loadAddress : Int) : Prop :=
  elf.endianness = .little ∧ IsU32 loadAddress ∧ ∃ base, imageBase elf = some base ∧
    (-2 ^ 32 < loadAddress - base ∧ loadAddress - base < 2 ^ 32) ∧ LayoutFits elf (loadAddress - base)

theorem checkedImageBase_ok_iff : (∃ base, checkedImageBase elf loadAddress = .ok base) ↔ Loadable elf loadAddress := by
  simp only [checkedImageBase_ok, Loadable, exists_and_left]

/-- A build raises nothing but parse errors unless, in an image that passes the
layout checks, the first record that cannot be applied is one with a sound
source word whose target is an empty loaded segment. -/
theorem buildRelocatedLoadView_parseErrors_iff (parsed : parseElf32 data = .ok elf) :
    ParseErrorsOnly (buildRelocatedLoadView data elf model loadAddress) ↔
      ¬(Loadable elf loadAddress ∧ ReachesEmptyTarget elf model.relocations) := by
  have inFile := parseElf32_parsedFrom parsed
  have views : ParseErrorsOnly (buildRelocatedLoadView data elf model loadAddress) ↔
      ParseErrorsOnly (runLoadView data elf model loadAddress) := by
    unfold buildRelocatedLoadView
    cases runLoadView data elf model loadAddress with
    | ok result => exact iff_of_true (raisesOnly_value _) (raisesOnly_value _)
    | error failure =>
      change RaisesOnly _ (Except.error failure) ↔ RaisesOnly _ (Except.error failure)
      rw [raisesOnly_error, raisesOnly_error]
  rw [views, ← checkedImageBase_ok_iff]
  constructor
  · rintro documented ⟨⟨base, checked⟩, reaches⟩
    have fresh : InBuild data elf ⟨data, elf, model, data, 0⟩ := ⟨rfl, rfl, rfl⟩
    have loop : ¬ParseErrorsOnly (relocateWords (segmentBases elf (loadAddress - base)) model.relocations
        ⟨data, elf, model, data, 0⟩) ↔ ¬¬ReachesEmptyTarget elf model.relocations :=
      (relocateWords_parseErrors_iff inFile fresh).not
    obtain ⟨failure, failed, undocumented⟩ : ∃ failure,
        relocateWords (segmentBases elf (loadAddress - base)) model.relocations ⟨data, elf, model, data, 0⟩ =
          .error failure ∧ ¬failure.isParseError := by
      simpa only [ParseErrorsOnly, RaisesOnly, not_forall, exists_prop] using loop.mpr (not_not.mpr reaches)
    refine undocumented (documented failure ?_)
    rw [runLoadView, checked, ok_bind]
    dsimp only
    rw [failed, error_bind]
  · intro unreached
    refine raisesOnly_bind checkedImageBase_parseErrors fun base checked => ?_
    refine raisesOnly_bind ?_ fun _ _ => raisesOnly_bind rebaseModel_parseErrors fun _ _ => raisesOnly_value _
    exact (relocateWords_parseErrors_iff inFile ⟨rfl, rfl, rfl⟩).mpr fun reaches => unreached ⟨⟨base, checked⟩, reaches⟩

end Checks

/-- The second loaded segment of this file is empty. Its relocation entry names the given target segment. -/
def emptySegmentFile (target : Nat) : Bytes := moduleFile [ptLoad, 0, 8, 8, 0, 0, 6, 4] [0, 2 + 2 ^ 16 * target]

theorem emptySegmentFile_parseErrors : ∃ elf, parseElf32 (emptySegmentFile 0) = .ok elf ∧
    ParseErrorsOnly (buildRelocatedLoadView (emptySegmentFile 0) elf
      { sampleModel with relocations := [sampleRelocation 2 0] } 0x08804000) := by
  obtain ⟨elf, parsed⟩ := exists_ok (x := parseElf32 (emptySegmentFile 0)) (by decide +kernel)
  have seen : (·.programHeaders) <$> parseElf32 (emptySegmentFile 0) =
      .ok [⟨0, ptLoad, 164, 0, 0, 8, 8, 5, 4⟩, ⟨1, ptLoad, 0, 8, 8, 0, 0, 6, 4⟩] := by decide +kernel
  rw [parsed] at seen
  have headers : elf.programHeaders = _ := Except.ok.inj seen
  refine ⟨elf, parsed, (buildRelocatedLoadView_parseErrors_iff parsed).mpr ?_⟩
  rintro ⟨_, ⟨_, _, target, atIndex, _, empty⟩ | ⟨_, none⟩⟩
  · rw [headers] at atIndex
    cases atIndex
    cases empty
  · exact none

/-- A relocation against the empty segment stops the build with a `KeyError`. -/
theorem buildRelocatedLoadView_raises_keyError :
    ¬∀ (data : Bytes) (sourceName : String) (elf : ElfImage) (model : ExecutableModel) (loadAddress : Int),
      parseElf32 data = .ok elf → analyzeBytes data sourceName = .ok model →
        ParseErrorsOnly (buildRelocatedLoadView data elf model loadAddress) := by
  intro confined
  obtain ⟨elf, parsed⟩ := exists_ok (x := parseElf32 (emptySegmentFile 1)) (by decide +kernel)
  obtain ⟨model, analyzed⟩ := exists_ok (x := analyzeBytes (emptySegmentFile 1) "module.prx") (by decide +kernel)
  have seen : (do
      let elf ← parseElf32 (emptySegmentFile 1)
      let model ← analyzeBytes (emptySegmentFile 1) "module.prx"
      buildRelocatedLoadView (emptySegmentFile 1) elf model 0x08804000) = .error (.keyError "1") := by decide +kernel
  rw [parsed, analyzed, ok_bind, ok_bind] at seen
  have parse := confined _ _ elf model _ parsed analyzed _ seen
  cases parse

end PspDisasm
