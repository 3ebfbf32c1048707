import PspDisasm.StrippedSections

namespace PspDisasm
open Foundations

/-- A range of addresses with the place of its bytes in the file. -/
structure FileMapping where
  start : Int
  size : Nat
  offset : Nat
deriving DecidableEq

namespace FileMapping

def Covers (mapping : FileMapping) (address : Int) : Prop := mapping.start ≤ address ∧ address < mapping.start + mapping.size

instance (mapping : FileMapping) (address : Int) : Decidable (mapping.Covers address) := inferInstanceAs (Decidable (_ ∧ _))

def place (mapping : FileMapping) (address : Int) : Nat := mapping.offset + (address - mapping.start).toNat

end FileMapping

def ProgramHeader.mapping (ph : ProgramHeader) : Option FileMapping :=
  if ph.type ≠ 1 then none else some ⟨ph.vaddr, ph.filesz, ph.offset⟩

def Section.mapping (sec : Section) : Option FileMapping := if sec.type = 8 then none else some ⟨sec.addr, sec.size, sec.offset⟩

namespace ElfImage
variable (elf : ElfImage)

/-- The segments and sections with bytes in the file, in the order of the search. -/
def mappings : List FileMapping := elf.programHeaders.filterMap (·.mapping) ++ elf.sections.filterMap (·.mapping)

def mappingAt (address : Int) : Option FileMapping := elf.mappings.find? fun mapping => mapping.Covers address

/-- Wherever the search may come to another mapping within the range, at the end of the one before or at the start of
one that is searched earlier, it finds one that goes on with the same bytes of the file. -/
def Unbroken (address : Int) (size : Nat) : Prop :=
  ∀ boundary, address < boundary → boundary < address + size → ∀ before mapping after,
    elf.mappings = before ++ mapping :: after → mapping.Covers (boundary - 1) → (∀ earlier ∈ before, ¬earlier.Covers (boundary - 1)) →
    boundary = mapping.start + mapping.size ∨ (∃ earlier ∈ before, earlier.start = boundary) →
      ∃ next, elf.mappingAt boundary = some next ∧ next.place boundary = mapping.place boundary

end ElfImage

/-- A read returns, for each of its addresses, the byte of the file to which that address is mapped. -/
def ReadsMapped (data : Bytes) (elf : ElfImage) (address : Int) (size : Nat) (what : String) : Prop :=
  ∀ bytes, readAtVaddr data elf address size what = .ok bytes → ∃ offset, bytes = slice data offset size ∧ bytes.length = size ∧
    ∀ index < size, elf.vaddrToOffset (address + index) = some (offset + index)

section Mappings
variable {elf : ElfImage} {address : Int} {size : Nat} {mapping : FileMapping} {place : Nat}

theorem findSome?_mapping {α : Type} {mappingOf : α → Option FileMapping} {translate : α → Option Nat} {items : List α}
    (each : ∀ item, translate item = ((mappingOf item).filter fun mapping => mapping.Covers address).map (·.place address)) :
    items.findSome? translate = ((items.filterMap mappingOf).find? fun mapping => mapping.Covers address).map (·.place address) := by
  induction items with
  | nil => rfl
  | cons item items ih =>
    rw [List.findSome?_cons, each item]
    cases known : mappingOf item with
    | none =>
      rw [List.filterMap_cons_none known]
      exact ih
    | some mapping =>
      rw [List.filterMap_cons_some known, List.find?_cons, Option.filter_some]
      by_cases inside : mapping.Covers address
      · rw [if_pos (decide_eq_true inside), decide_eq_true inside]
        rfl
      · rw [if_neg (by rwa [decide_eq_true_eq]), decide_eq_false inside]
        exact ih

/-- The translation is a search for the first mapping that covers the address. -/
theorem vaddrToOffset_eq : elf.vaddrToOffset address = (elf.mappingAt address).map (·.place address) := by
  have segments : ∀ ph : ProgramHeader, ph.vaddrToOffset address =
      (ph.mapping.filter fun mapping => mapping.Covers address).map (·.place address) := by
    intro ph
    unfold ProgramHeader.vaddrToOffset ProgramHeader.mapping
    by_cases loaded : ph.type = 1
    · rw [if_neg (not_not.mpr loaded), if_neg (not_not.mpr loaded)]
      by_cases inside : ph.vaddr ≤ address ∧ address < ph.vaddr + ph.filesz
      · simp [inside, FileMapping.Covers, FileMapping.place]
      · simp [inside, FileMapping.Covers]
    · simp [loaded]
  have sections : ∀ sec : Section, sec.vaddrToOffset address =
      (sec.mapping.filter fun mapping => mapping.Covers address).map (·.place address) := by
    intro sec
    unfold Section.vaddrToOffset Section.mapping
    by_cases stored : sec.type = 8
    · simp [stored]
    · rw [if_neg stored, if_neg stored]
      by_cases inside : sec.addr ≤ address ∧ address < sec.addr + sec.size
      · simp [inside, FileMapping.Covers, FileMapping.place]
      · simp [inside, FileMapping.Covers]
  rw [ElfImage.vaddrToOffset, ElfImage.mappingAt, ElfImage.mappings, findSome?_mapping segments, findSome?_mapping sections,
    List.find?_append, Option.map_or]

theorem mappingAt_eq_some : elf.mappingAt address = some mapping ↔ mapping.Covers address ∧ ∃ before after,
    elf.mappings = before ++ mapping :: after ∧ ∀ earlier ∈ before, ¬earlier.Covers address := by
  simp only [ElfImage.mappingAt, List.find?_eq_some_iff_append, decide_eq_true_eq, Bool.not_eq_true', decide_eq_false_iff_not]

theorem place_succ (inside : mapping.Covers address) : mapping.place (address + 1) = mapping.place address + 1 := by
  have lower := inside.1
  unfold FileMapping.place
  omega

/-- One address on, the search finds the next byte of the file. -/
theorem vaddrToOffset_next (unbroken : elf.Unbroken address size) {index : Nat} (within : index + 1 < size)
    (here : elf.vaddrToOffset (address + index) = some place) : elf.vaddrToOffset (address + (index + 1 : Nat)) = some (place + 1) := by
  rw [vaddrToOffset_eq] at here ⊢
  obtain ⟨mapping, found, rfl⟩ := Option.map_eq_some_iff.mp here
  obtain ⟨inside, before, after, split, earlier⟩ := mappingAt_eq_some.mp found
  have next : address + (index + 1 : Nat) = address + index + 1 := by push_cast; ring
  rw [next, ← place_succ inside]
  by_cases boundary : address + index + 1 = mapping.start + mapping.size ∨ ∃ other ∈ before, other.start = address + index + 1
  · obtain ⟨other, goesOn, same⟩ := unbroken (address + index + 1) (by omega) (by omega) before mapping after split
      (by rwa [Int.add_sub_cancel]) (by rwa [Int.add_sub_cancel]) boundary
    rw [goesOn, Option.map_some, same]
  · obtain ⟨more, fresh⟩ := not_or.mp boundary
    have goesOn : elf.mappingAt (address + index + 1) = some mapping := by
      refine mappingAt_eq_some.mpr ⟨?_, before, after, split, fun other listed covers => ?_⟩
      · have lower := inside.1
        have upper := inside.2
        exact ⟨by omega, by omega⟩
      · have apart := earlier other listed
        have begins : other.start ≠ address + index + 1 := fun same => fresh ⟨other, listed, same⟩
        have lower := covers.1
        have upper := covers.2
        exact apart ⟨by omega, by omega⟩
    rw [goesOn, Option.map_some]

/-- A range is mapped to consecutive bytes of the file exactly when it is not broken. -/
theorem vaddrToOffset_consecutive (start : elf.vaddrToOffset address = some place) :
    (∀ index < size, elf.vaddrToOffset (address + index) = some (place + index)) ↔ elf.Unbroken address size := by
  constructor
  · intro mapped boundary above below before mapping after split inside earlier _
    have found : elf.mappingAt (boundary - 1) = some mapping := mappingAt_eq_some.mpr ⟨inside, before, after, split, earlier⟩
    have last := mapped (boundary - 1 - address).toNat (by omega)
    have here := mapped (boundary - address).toNat (by omega)
    rw [show address + ((boundary - 1 - address).toNat : Int) = boundary - 1 by omega, vaddrToOffset_eq, found, Option.map_some] at last
    rw [show address + ((boundary - address).toNat : Int) = boundary by omega, vaddrToOffset_eq] at here
    obtain ⟨next, goesOn, same⟩ := Option.map_eq_some_iff.mp here
    refine ⟨next, goesOn, ?_⟩
    have step := place_succ inside
    rw [Int.sub_add_cancel] at step
    have before := Option.some.inj last
    rw [same, step, before]
    omega
  · intro unbroken index within
    induction index with
    | zero => simpa using start
    | succ index ih => exact vaddrToOffset_next unbroken within (ih (by omega))

end Mappings

/-- A read that succeeds stays in mapped bytes exactly when its range is not broken. -/
theorem readAtVaddr_mapped (data : Bytes) (elf : ElfImage) (address : Int) (size : Nat) (what : String) :
    ReadsMapped data elf address size what ↔
      ∀ place, elf.vaddrToOffset address = some place → place + size ≤ data.length → elf.Unbroken address size := by
  unfold ReadsMapped readAtVaddr
  cases start : elf.vaddrToOffset address with
  | none => exact iff_of_true (fun bytes read => nomatch read) fun place found => nomatch found
  | some place =>
    simp only [Option.some.injEq, forall_eq']
    by_cases short : data.length < place ∨ data.length - place < size
    · rw [if_pos short]
      exact iff_of_true (fun bytes read => nomatch read) fun fits => by omega
    · rw [if_neg short]
      simp only [Except.ok.injEq, forall_eq']
      have fits : place + size ≤ data.length := by omega
      have length : (slice data place size).length = size := by
        rw [slice, List.length_take, List.length_drop]
        omega
      rw [forall_prop_of_true fits, ← vaddrToOffset_consecutive start]
      constructor
      · rintro ⟨offset, _, _, mapped⟩ index within
        have first := mapped 0 (by omega)
        rw [Nat.cast_zero, Int.add_zero, start] at first
        rw [Option.some.inj first, Nat.add_zero]
        exact mapped index within
      · exact fun mapped => ⟨place, rfl, length, mapped⟩

/-- The last two bytes of the segment are read with the two bytes of the file behind it. -/
theorem segmentEnd_read : parseElf32 (strippableFile 0) = .ok (strippableImage 0) ∧
    readAtVaddr (strippableFile 0) (strippableImage 0) 50 4 "export function NID" = .ok [0, 0, 0, 0x2E] ∧
    (strippableImage 0).vaddrToOffset 52 = none ∧
    ¬ReadsMapped (strippableFile 0) (strippableImage 0) 50 4 "export function NID" := by
  have read : readAtVaddr (strippableFile 0) (strippableImage 0) 50 4 "export function NID" = .ok [0, 0, 0, 0x2E] := by decide +kernel
  have unmapped : (strippableImage 0).vaddrToOffset 52 = none := by decide
  refine ⟨by decide +kernel, read, unmapped, fun mapped => ?_⟩
  obtain ⟨offset, _, _, places⟩ := mapped _ read
  cases unmapped.symm.trans (places 2 (by decide))

end PspDisasm
