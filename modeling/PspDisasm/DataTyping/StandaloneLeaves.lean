import PspDisasm.DataTyping.PointerTables
import Mathlib.Data.List.Induction

namespace PspDisasm
open Foundations

namespace DataTyping

section Evidence
variable (elf : ElfImage) (targets : Targets) (slotAnchors : List Int) (knownData : Int → Prop)

/-- A word of a section that is known to be a pointer: to a function, or to something else in the image. -/
def BackedWord (sec : Section) (slot : Int) : Prop :=
  ∃ value, safeWord elf sec slot = some value ∧
    ((value ∈ targets.functionTargets ∧ (slot ∈ targets.relocationSlots ∨ slot ∈ slotAnchors)) ∨
      ((allocatedSection elf value false).isSome ∧
        (slot ∈ targets.relocationSlots ∨ (knownData value ∧ slot ∈ slotAnchors))))

end Evidence

section Leaf
variable {elf : ElfImage} {targets : Targets} {slotAnchors : List Int} {sec : Section} {slot : Int} {leaf : Leaf}

theorem standaloneLeaf_isSome :
    (standaloneLeaf elf targets slotAnchors sec slot).isSome ↔
      BackedWord elf targets slotAnchors (· ∈ targets.knownDataTargets) sec slot := by
  unfold standaloneLeaf BackedWord
  cases word : safeWord elf sec slot with
  | none => simp
  | some value =>
    simp only [Option.some.injEq, exists_eq_left', decide_eq_true_eq, Option.isNone_iff_eq_none]
    by_cases function : value ∈ targets.functionTargets ∧ (slot ∈ targets.relocationSlots ∨ slot ∈ slotAnchors)
    · rw [if_pos function]
      exact iff_of_true rfl (Or.inl function)
    · rw [if_neg function, or_iff_right function]
      cases mapped : allocatedSection elf value false with
      | none => simp
      | some target =>
        by_cases known : slot ∈ targets.relocationSlots ∨ (value ∈ targets.knownDataTargets ∧ slot ∈ slotAnchors)
        · rw [if_neg fun blocked => blocked.elim (fun none => nomatch none) fun unknown => unknown known]
          exact iff_of_true rfl ⟨rfl, known⟩
        · rw [if_pos (Or.inr known)]
          exact iff_of_false (nomatch ·) fun backed => known backed.2

theorem standaloneLeaf_record (found : standaloneLeaf elf targets slotAnchors sec slot = some leaf) :
    leaf.record.address = slot ∧ leaf.record.typeName ∈ leafTypes := by
  unfold standaloneLeaf at found
  split at found
  · cases found
  · dsimp only at found
    split at found
    · cases found
      exact ⟨rfl, List.mem_cons_of_mem _ List.mem_cons_self⟩
    · split at found
      · cases found
      · cases found
        exact ⟨rfl, List.mem_cons_self⟩

theorem mem_slotAddresses (aligned : slot % 4 = 0) (lower : sec.addr ≤ slot) (upper : slot + 4 ≤ sec.addr + sec.size) :
    slot ∈ slotAddresses sec := by
  obtain ⟨startAligned, above, close⟩ := alignSlot_spec sec.addr
  have index : ((slot - alignSlot sec.addr) / 4).toNat < ((sec.addr + sec.size - alignSlot sec.addr) / 4).toNat := by omega
  refine List.mem_map.mpr ⟨_, List.mem_range.mpr index, ?_⟩
  omega

end Leaf

section Scan
variable (elf : ElfImage) (targets : Targets) (slotAnchors : List Int) (reserved : List Span) (leaves : Dict Int Leaf)

/-- The slots in the order of the scan, each with its section. -/
def scanSites : List (Section × Int) := (storageSections elf).flatMap fun sec => (slotAddresses sec).map (sec, ·)

/-- What the scan has found behind some sites: each record is new, and no site with evidence is left out. -/
structure LeafScan (sites : List (Section × Int)) (found : List DataTypeRecord × Dict Int Leaf) : Prop where
  origin : ∀ record ∈ found.1, ∃ sec leaf, (sec, record.address) ∈ sites ∧ ¬Inside reserved record.address ∧
    standaloneLeaf elf targets slotAnchors sec record.address = some leaf ∧ leaf.record = record
  keys : ∀ slot, slot ∈ found.2.keys ↔ slot ∈ leaves.keys ∨ slot ∈ found.1.map (·.address)
  complete : ∀ site ∈ sites, ¬Inside reserved site.2 →
    BackedWord elf targets slotAnchors (· ∈ targets.knownDataTargets) site.1 site.2 → site.2 ∈ found.2.keys
  nodup : (found.1.map (·.address)).Nodup

end Scan

section Scan
variable {elf : ElfImage} {targets : Targets} {slotAnchors : List Int} {reserved : List Span} {leaves : Dict Int Leaf}
  {sites : List (Section × Int)} {found : List DataTypeRecord × Dict Int Leaf} {sec : Section} {slot : Int}

/-- A site that adds nothing is a known slot, or one without evidence. -/
theorem LeafScan.skip (scan : LeafScan elf targets slotAnchors reserved leaves sites found)
    (known : ¬Inside reserved slot → BackedWord elf targets slotAnchors (· ∈ targets.knownDataTargets) sec slot →
      slot ∈ found.2.keys) :
    LeafScan elf targets slotAnchors reserved leaves (sites ++ [(sec, slot)]) found where
  origin record member := by
    obtain ⟨owner, leaf, site, rest⟩ := scan.origin record member
    exact ⟨owner, leaf, List.mem_append_left _ site, rest⟩
  keys := scan.keys
  complete := List.forall_mem_append.mpr ⟨scan.complete, List.forall_mem_singleton.mpr known⟩
  nodup := scan.nodup

theorem LeafScan.add {leaf : Leaf} (scan : LeafScan elf targets slotAnchors reserved leaves sites found)
    (new : slot ∉ found.2.keys) (outside : ¬Inside reserved slot) (typed : standaloneLeaf elf targets slotAnchors sec slot = some leaf) :
    LeafScan elf targets slotAnchors reserved leaves (sites ++ [(sec, slot)]) (found.1 ++ [leaf.record], found.2.set slot leaf) := by
  have place := (standaloneLeaf_record typed).1
  refine ⟨?_, fun other => ?_, ?_, ?_⟩
  · refine List.forall_mem_append.mpr ⟨fun record member => ?_, List.forall_mem_singleton.mpr ?_⟩
    · obtain ⟨owner, leaf, site, rest⟩ := scan.origin record member
      exact ⟨owner, leaf, List.mem_append_left _ site, rest⟩
    · rw [place]
      exact ⟨sec, leaf, List.mem_append_right _ List.mem_cons_self, outside, typed, rfl⟩
  · rw [mem_keys_set, scan.keys, List.map_append, List.mem_append, List.map_singleton, List.mem_singleton, place]
    tauto
  · refine List.forall_mem_append.mpr ⟨fun site member free backed => ?_, List.forall_mem_singleton.mpr fun _ _ => ?_⟩
    · exact mem_keys_set.mpr (Or.inr (scan.complete site member free backed))
    · exact mem_keys_set.mpr (Or.inl rfl)
  · rw [List.map_append, List.map_singleton, place]
    refine scan.nodup.append (List.nodup_singleton _) (List.disjoint_singleton.mpr fun listed => new ?_)
    exact (scan.keys slot).mpr (Or.inr listed)

theorem LeafScan.step (scan : LeafScan elf targets slotAnchors reserved leaves sites found) :
    LeafScan elf targets slotAnchors reserved leaves (sites ++ [(sec, slot)])
      (standaloneStep elf targets slotAnchors reserved sec found slot) := by
  unfold standaloneStep
  split
  · rename_i known
    exact scan.skip fun outside _ => known.resolve_right outside
  · rename_i unknown
    obtain ⟨new, outside⟩ := not_or.mp unknown
    cases typed : standaloneLeaf elf targets slotAnchors sec slot with
    | none =>
      refine scan.skip fun _ backed => ?_
      have some := standaloneLeaf_isSome.mpr backed
      rw [typed] at some
      cases some
    | some leaf => exact scan.add new outside typed

theorem scanStandaloneLeaves_eq : scanStandaloneLeaves elf targets slotAnchors reserved leaves =
    (scanSites elf).foldl (fun found site => standaloneStep elf targets slotAnchors reserved site.1 found site.2) ([], leaves) := by
  rw [scanStandaloneLeaves, scanSites, List.foldl_flatMap]
  simp only [List.foldl_map]

theorem scanStandaloneLeaves_spec : LeafScan elf targets slotAnchors reserved leaves (scanSites elf)
    (scanStandaloneLeaves elf targets slotAnchors reserved leaves) := by
  rw [scanStandaloneLeaves_eq]
  induction scanSites elf using List.reverseRecOn with
  | nil =>
    exact ⟨List.forall_mem_nil _, fun slot => by simp, List.forall_mem_nil _, List.nodup_nil⟩
  | append_singleton sites site ih =>
    rw [List.foldl_append]
    exact ih.step

/-- Each word with evidence outside of the known objects is a leaf. -/
theorem LeafScan.backed (scan : LeafScan elf targets slotAnchors reserved leaves (scanSites elf) found)
    (listed : sec ∈ storageSections elf) (outside : ¬Inside reserved slot)
    (word : BackedWord elf targets slotAnchors (· ∈ targets.knownDataTargets) sec slot) :
    slot ∈ leaves.keys ∨ slot ∈ found.1.map (·.address) := by
  obtain ⟨aligned, lower, upper⟩ := safeWord_inside word.choose_spec.1
  have site : (sec, slot) ∈ scanSites elf :=
    List.mem_flatMap.mpr ⟨sec, listed, List.mem_map_of_mem (mem_slotAddresses aligned lower upper)⟩
  exact (scan.keys slot).mp (scan.complete _ site outside word)

end Scan

end DataTyping

end PspDisasm
