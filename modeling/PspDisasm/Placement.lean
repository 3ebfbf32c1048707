import Mathlib.Data.List.Sort
import PspDisasm.Foundations.AddressSpans
import PspDisasm.Foundations.Dict
import PspDisasm.Foundations.WhileLoop
import PspDisasm.LoadView

namespace PspDisasm
open Foundations

def etExec : Nat := 2
def pspUserMemoryBase : Nat := 0x08800000
def pspUserReservedPrefix : Nat := 0x4000
def pspFirstUserAllocation : Nat := pspUserMemoryBase + pspUserReservedPrefix
def pspAllocatorGrain : Nat := 0x10

structure ModulePlacementInput where
  path : String
  isBoot : Bool
  model : ExecutableModel
deriving DecidableEq, Repr

inductive PlacementKind
  | fixed
  | bootInferred
  | analysis
deriving DecidableEq, Repr

structure ModulePlacement where
  path : String
  loadAddress : Int
  originalImageBase : Int
  imageSize : Int
  imageEnd : Int
  alignment : Nat
  placementKind : PlacementKind
  placementConfidence : Rat
  runtimeAddressClaim : Bool
  requiresRelocation : Bool
  placementEvidence : List String
deriving DecidableEq, Repr

def ModulePlacement.span (placement : ModulePlacement) : Span := (placement.loadAddress, placement.imageEnd)

/-- The extent of an image. It is not empty, and its alignment is a power of two. -/
structure Layout where
  imageBase : Int
  imageSize : Int
  alignment : Nat
  positive : 0 < imageSize
  power : alignment.isPowerOfTwo

def placedSegments (model : ExecutableModel) : List ProgramHeader :=
  (model.programHeaders.filter fun segment => segment.type = ptLoad ∧ 0 < segment.memsz).insertionSort fun segment other =>
    segment.vaddr < other.vaddr ∨ segment.vaddr = other.vaddr ∧ segment.index ≤ other.index

/-- An alignment that is no power of two above one counts as the allocator's grain. -/
def requestedAlignment (segment : ProgramHeader) : Nat :=
  if segment.align ≤ 1 ∨ segment.align &&& (segment.align - 1) ≠ 0 then pspAllocatorGrain else segment.align

theorem requestedAlignment_power (segment : ProgramHeader) : (requestedAlignment segment).isPowerOfTwo := by
  unfold requestedAlignment
  split
  · exact ⟨4, rfl⟩
  · rename_i wellFormed
    simp only [not_or, not_not, Nat.not_le] at wellFormed
    exact (Nat.and_sub_one_eq_zero_iff_isPowerOfTwo (by omega)).mp wellFormed.2

def strictestAlignment (segments : List ProgramHeader) : Nat :=
  segments.foldl (fun alignment segment => max alignment (requestedAlignment segment)) pspAllocatorGrain

theorem max_power {a b : Nat} (first : a.isPowerOfTwo) (second : b.isPowerOfTwo) : (max a b).isPowerOfTwo := by
  rcases Nat.le_total a b with below | above
  · rw [Nat.max_eq_right below]
    exact second
  · rw [Nat.max_eq_left above]
    exact first

theorem strictestAlignment_power (segments : List ProgramHeader) : (strictestAlignment segments).isPowerOfTwo :=
  List.foldlRecOn segments _ ⟨4, rfl⟩ fun _ power segment _ => max_power power (requestedAlignment_power segment)

def layout (model : ExecutableModel) : Except Failure Layout :=
  let segments := placedSegments model
  match (segments.map (·.vaddr)).min?, (segments.map fun segment => segment.vaddr + (segment.memsz : Int)).max? with
  | some imageBase, some imageEnd =>
    let imageSize := imageEnd - imageBase
    if positive : 0 < imageSize then do
      raiseIf ((uint32Limit : Int) < imageEnd)
        (.parseError "Runtime placement image extends outside the 32-bit address space")
      return ⟨imageBase, imageSize, strictestAlignment segments, positive, strictestAlignment_power segments⟩
    else .error (.parseError "Runtime placement image extends outside the 32-bit address space")
  | _, _ => .error (.parseError "Runtime placement requires at least one non-empty PT_LOAD segment")

/-- The first occupied range, in order of address, that the span meets. -/
def overlap (start stop : Int) (occupied : List Span) : Option Span :=
  (occupied.insertionSort fun span other => span.1 < other.1 ∨ span.1 = other.1 ∧ span.2 ≤ other.2).find? fun existing =>
    start < existing.2 ∧ existing.1 < stop

theorem overlap_meets {start stop : Int} {occupied : List Span} {existing : Span}
    (found : overlap start stop occupied = some existing) : start < existing.2 := by
  have meets := List.find?_some found
  exact (of_decide_eq_true meets).1

structure FreeSearch where
  candidate : Int
  found : Bool
deriving DecidableEq, Repr

/-- One turn of the search: stop at a candidate without a collision, or go past the range it meets. -/
def searchFrom (layout : Layout) (occupied : List Span) (s : FreeSearch) : Except Failure FreeSearch := do
  let stop := s.candidate + layout.imageSize
  raiseIf (s.candidate < 0 ∨ (uint32Limit : Int) < stop)
    (.parseError "No 32-bit address range remains for module analysis placement")
  match overlap s.candidate stop occupied with
  | none => return { s with found := true }
  | some collision => return { s with candidate := alignUp collision.2 layout.alignment }

def freeLoop (layout : Layout) (occupied : List Span) : WhileLoop Failure FreeSearch where
  test s := !s.found
  body := searchFrom layout occupied
  measure s := if s.found then 0 else 1 + ((uint32Limit : Int) - s.candidate).toNat
  shrinks := by
    intro s t going run
    have searching : s.found = false := by simpa using going
    obtain ⟨_, checked, rest⟩ := bind_ok.mp run
    have room := raiseIf_ok.mp checked
    have positive := layout.positive
    split at rest
    · cases rest
      simp only [searching, if_true, Bool.false_eq_true, if_false]
      omega
    · rename_i collision found
      cases rest
      have beyond := overlap_meets found
      have up := (alignUp_spec layout.power (by omega : 0 ≤ collision.2)).2.1
      simp only [searching, Bool.false_eq_true, if_false]
      omega

def findFree (start : Int) (layout : Layout) (occupied : List Span) : Except Failure Int := do
  let final ← (freeLoop layout occupied).run ⟨alignUp start layout.alignment, false⟩
  return final.candidate

def fixedPlacement (item : ModulePlacementInput) : Except Failure ModulePlacement := do
  let layout ← layout item.model
  return {
    path := item.path, loadAddress := layout.imageBase, originalImageBase := layout.imageBase,
    imageSize := layout.imageSize, imageEnd := layout.imageBase + layout.imageSize, alignment := layout.alignment,
    placementKind := .fixed, placementConfidence := 1, runtimeAddressClaim := true, requiresRelocation := false,
    placementEvidence := [
      "ET_EXEC carries fixed PT_LOAD virtual addresses, so no PSP relocation placement is required."] }

def bootEvidence (loadAddress : Int) : String :=
  if loadAddress = pspFirstUserAllocation then
    "Relocatable boot module uses the PSP low-allocation path; user memory starts at 0x08800000 and the initial 0x4000 bytes are reserved, making 0x08804000 the first default allocation."
  else
    s!"Relocatable boot module uses the PSP low-allocation path; the first default allocation is 0x08804000 and the strictest PT_LOAD alignment moves the selected base to 0x{hexPadded 8 loadAddress}."

def bootPlacement (item : ModulePlacementInput) : Except Failure ModulePlacement := do
  let layout ← layout item.model
  let loadAddress := alignUp pspFirstUserAllocation layout.alignment
  let imageEnd := loadAddress + layout.imageSize
  raiseIf ((uint32Limit : Int) < imageEnd)
    (.parseError "Relocatable boot module extends outside the 32-bit address space")
  return {
    path := item.path, loadAddress, originalImageBase := layout.imageBase, imageSize := layout.imageSize, imageEnd,
    alignment := layout.alignment, placementKind := .bootInferred, placementConfidence := 95 / 100,
    runtimeAddressClaim := true, requiresRelocation := true, placementEvidence := [bootEvidence loadAddress] }

/-- An analysis-only placement in the first free range from the cursor on. -/
def analysisPlacement (evidence : String) (item : ModulePlacementInput) (cursor : Int) (occupied : List Span) :
    Except Failure ModulePlacement := do
  let layout ← layout item.model
  let loadAddress ← findFree cursor layout occupied
  return {
    path := item.path, loadAddress, originalImageBase := layout.imageBase, imageSize := layout.imageSize,
    imageEnd := loadAddress + layout.imageSize, alignment := layout.alignment, placementKind := .analysis,
    placementConfidence := 50 / 100, runtimeAddressClaim := false, requiresRelocation := true,
    placementEvidence := [evidence] }

def extraBootEvidence : String :=
  "Only one boot module can receive the PSP default boot-placement claim; this additional boot-marked image uses a deterministic analysis-only placement."

def secondaryEvidence : String :=
  "Secondary PRX runtime load order and allocation direction/options are not encoded on disc; this deterministic low-memory placement is for analysis only."

/-- The placements planned so far, the ranges the next one has to avoid, and where its search starts. -/
structure Planning where
  planned : Dict String ModulePlacement
  occupied : List Span
  cursor : Int

section Plan
variable (casefold : String → String)

def sortByPath (items : List ModulePlacementInput) : List ModulePlacementInput :=
  items.insertionSort fun item other => casefold item.path ≤ casefold other.path

/-- The fixed images. A module without an ELF header cannot be placed at all. -/
def placeFixed : List ModulePlacementInput → Dict String ModulePlacement → Except Failure (Dict String ModulePlacement)
  | [], fixed => .ok fixed
  | item :: items, fixed =>
    match item.model.elfHeader with
    | none => .error (.parseError s!"Runtime placement requires an ELF header for {item.path}")
    | some header =>
      if header.fileType = etExec then do
        let placement ← fixedPlacement item
        placeFixed items (fixed.set item.path placement)
      else placeFixed items fixed

/-- A boot-marked module after the first one avoids only the boot ranges. -/
def placeExtraBoot (s : Planning) (item : ModulePlacementInput) : Except Failure Planning := do
  let placement ← analysisPlacement extraBootEvidence item s.cursor s.occupied
  return {
    planned := s.planned.set item.path placement, occupied := s.occupied ++ [placement.span],
    cursor := max s.cursor placement.imageEnd }

def placeBoots (fixed : Dict String ModulePlacement) : List ModulePlacementInput → Except Failure Planning
  | [] => .ok ⟨fixed, [], pspFirstUserAllocation⟩
  | first :: rest => do
    let placement ← bootPlacement first
    rest.foldlM placeExtraBoot
      ⟨fixed.set first.path placement, [placement.span], max (pspFirstUserAllocation : Int) placement.imageEnd⟩

def placeSecondary (s : Planning) (item : ModulePlacementInput) : Except Failure Planning := do
  let placement ← analysisPlacement secondaryEvidence item s.cursor s.occupied
  return {
    planned := s.planned.set item.path placement, occupied := s.occupied ++ [placement.span],
    cursor := placement.imageEnd }

def lookupPlacement (planned : Dict String ModulePlacement) (item : ModulePlacementInput) :
    Except Failure ModulePlacement :=
  match planned.get? item.path with
  | some placement => .ok placement
  | none => .error (.keyError item.path)

def planModulePlacements (inputs : List ModulePlacementInput) : Except Failure (List ModulePlacement) := do
  let ordered := sortByPath casefold inputs
  let fixed ← placeFixed ordered []
  let relocatable := ordered.filter fun item => item.path ∉ fixed.keys
  let bootItems := sortByPath casefold (relocatable.filter (·.isBoot))
  let secondaryItems := sortByPath casefold (relocatable.filter fun item => !item.isBoot)
  let booted ← placeBoots fixed bootItems
  let occupied := fixed.values.map (·.span) ++ booted.occupied
  let final ← secondaryItems.foldlM placeSecondary { booted with occupied }
  ordered.mapM (lookupPlacement final.planned)

end Plan

end PspDisasm
