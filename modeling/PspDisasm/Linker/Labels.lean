import PspDisasm.Foundations.Ordinals
import PspDisasm.Linker.ModuleLinks

namespace PspDisasm.Linker
open Foundations

section Spec
variable (units : List ModuleAnalysisInput)

def rawNames : List String := units.map fun unit => moduleName unit.model

/-- A module under its own name, or under the label that it shares with others. -/
def labelItem (counts : String → Nat) (unit : ModuleAnalysisInput) : String ⊕ String :=
  if counts (moduleName unit.model) = 1 then .inl (moduleName unit.model) else .inr (sharedLabel unit)

def labelItems : List (String ⊕ String) := units.map (labelItem fun name => (rawNames units).count name)

/-- The names that only one module has, which are labels as they are. -/
def uniqueNames : List String := (labelItems units).filterMap Sum.getLeft?

/-- The labels that the modules with a name in common get before any ordinal. -/
def sharedLabels : List String := (labelItems units).filterMap Sum.getRight?

def labelText : String ⊕ String × Nat → String
  | .inl name => name
  | .inr (base, ordinal) => numberedLabel base ordinal

/-- No module's own name, and no shared label, is one that the linker makes for another module. -/
structure NamesApart : Prop where
  shared : ∀ name ∈ uniqueNames units, name ∉ sharedLabels units
  numbered : ∀ base ordinal, 2 ≤ ordinal → ordinal ≤ (sharedLabels units).count base →
    numberedLabel base ordinal ∉ uniqueNames units ∧ numberedLabel base ordinal ∉ sharedLabels units

end Spec

section Text

theorem toDigits_no_hash {n : Nat} : '#' ∉ Nat.toDigits 10 n := by
  intro listed
  have digit := Nat.isDigit_of_mem_toDigits (by decide) (by decide) listed
  exact absurd digit (by decide)

theorem append_hash_inj {first second rest other : List Char} (noHash : '#' ∉ rest) (noHashToo : '#' ∉ other)
    (same : first ++ '#' :: rest = second ++ '#' :: other) : first = second ∧ rest = other := by
  rcases List.append_eq_append_iff.mp same with ⟨gap, longer, tail⟩ | ⟨gap, longer, tail⟩
  · cases gap with
    | nil => exact ⟨(longer.trans (List.append_nil first)).symm, (List.cons.inj tail).2⟩
    | cons char gap =>
      have inRest : '#' ∈ rest := (List.cons.inj tail).2 ▸ List.mem_append_right gap List.mem_cons_self
      exact absurd inRest noHash
  · cases gap with
    | nil => exact ⟨longer.trans (List.append_nil second), (List.cons.inj tail).2.symm⟩
    | cons char gap =>
      have inOther : '#' ∈ other := (List.cons.inj tail).2 ▸ List.mem_append_right gap List.mem_cons_self
      exact absurd inOther noHashToo

theorem numberedLabel_one (base : String) : numberedLabel base 1 = base := if_pos rfl

theorem numberedLabel_toList {base : String} {ordinal : Nat} (repeated : ordinal ≠ 1) :
    (numberedLabel base ordinal).toList = base.toList ++ '#' :: Nat.toDigits 10 ordinal := by
  rw [numberedLabel, if_neg repeated]
  show (base ++ "#" ++ Nat.repr ordinal).toList = _
  rw [String.toList_append, String.toList_append, Nat.toList_repr, List.append_assoc]
  rfl

/-- The last hash of a numbered label stands before its ordinal. -/
theorem numberedLabel_inj {base other : String} {ordinal number : Nat} (repeated : ordinal ≠ 1) (repeatedToo : number ≠ 1)
    (same : numberedLabel base ordinal = numberedLabel other number) : base = other ∧ ordinal = number := by
  have texts := congrArg String.toList same
  rw [numberedLabel_toList repeated, numberedLabel_toList repeatedToo] at texts
  obtain ⟨bases, digits⟩ := append_hash_inj toDigits_no_hash toDigits_no_hash texts
  have numbers := congrArg (fun digits => Nat.ofDigitChars 10 digits 0) digits
  simp only [Nat.ofDigitChars_ten_toDigits] at numbers
  exact ⟨String.toList_inj.mp bases, numbers⟩

end Text

section Labels
variable {units : List ModuleAnalysisInput}

theorem labelUnit_labels {counts : String → Nat} {labelling : Labelling} {seen : List String}
    (counted : ∀ base, (labelling.candidateCounts.get? base).getD 0 = seen.count base) :
    (units.foldl (labelUnit counts) labelling).labels =
      labelling.labels ++ (numberFrom seen (units.map (labelItem counts))).map labelText := by
  induction units generalizing labelling seen with
  | nil => exact (List.append_nil labelling.labels).symm
  | cons unit units ih =>
    rw [List.foldl_cons, List.map_cons, labelUnit, labelItem]
    split
    · refine (@ih { labelling with labels := labelling.labels ++ [moduleName unit.model] } seen counted).trans ?_
      rw [numberFrom, List.map_cons, labelText, List.append_assoc, List.singleton_append]
    · have next (base : String) : ((labelling.candidateCounts.set (sharedLabel unit)
          ((labelling.candidateCounts.get? (sharedLabel unit)).getD 0 + 1)).get? base).getD 0 =
          (sharedLabel unit :: seen).count base := by
        rw [Dict.get?_set]
        by_cases same : sharedLabel unit = base
        · rw [if_pos same, same, List.count_cons_self, ← counted]
          rfl
        · rw [if_neg same, List.count_cons_of_ne same, counted]
      refine (@ih ⟨_, _, _⟩ _ next).trans ?_
      rw [numberFrom, List.map_cons, labelText, List.append_assoc, List.singleton_append, counted]

theorem labelUnits_labels : (labelUnits units).labels = (numberFrom [] (labelItems units)).map labelText := by
  rw [labelUnits, @labelUnit_labels _ _ _ [] fun base => rfl]
  exact List.nil_append _

theorem filterMap_labelItem (counts : String → Nat) : (units.map (labelItem counts)).filterMap Sum.getLeft? =
    (rawNames units).filter fun name => counts name = 1 := by
  induction units with
  | nil => rfl
  | cons unit units ih =>
    rw [List.map_cons, rawNames, List.map_cons, ← rawNames, labelItem]
    by_cases once : counts (moduleName unit.model) = 1
    · rw [if_pos once, List.filter_cons, if_pos (decide_eq_true once), ← ih]
      rfl
    · rw [if_neg once, List.filter_cons, if_neg fun listed => once (of_decide_eq_true listed), ← ih]
      rfl

theorem uniqueNames_nodup : (uniqueNames units).Nodup := by
  rw [uniqueNames, labelItems, filterMap_labelItem, List.nodup_iff_count_le_one]
  intro name
  by_cases listed : name ∈ (rawNames units).filter fun name => (rawNames units).count name = 1
  · have once : (rawNames units).count name = 1 := of_decide_eq_true (List.mem_filter.mp listed).2
    exact (List.filter_sublist.count_le name).trans once.le
  · rw [List.count_eq_zero.mpr listed]
    omega

theorem mem_uniqueNames {name : String} : .inl name ∈ numberFrom [] (labelItems units) ↔ name ∈ uniqueNames units := by
  rw [mem_numberFrom_inl, uniqueNames, List.mem_filterMap]
  constructor
  · intro listed
    exact ⟨.inl name, listed, rfl⟩
  · rintro ⟨item, listed, same⟩
    rwa [Sum.getLeft?_eq_some_iff.mp same] at listed

theorem mem_sharedLabels {base : String} {ordinal : Nat} : .inr (base, ordinal) ∈ numberFrom [] (labelItems units) ↔
    0 < ordinal ∧ ordinal ≤ (sharedLabels units).count base := by
  rw [mem_numberFrom_inr, List.count_nil, Nat.zero_add, sharedLabels]

theorem shared_first {base : String} (listed : base ∈ sharedLabels units) :
    .inr (base, 1) ∈ numberFrom [] (labelItems units) :=
  mem_sharedLabels.mpr ⟨Nat.zero_lt_one, List.count_pos_iff.mpr listed⟩

theorem NamesApart.of_nodup (distinct : (labelUnits units).labels.Nodup) : NamesApart units := by
  rw [labelUnits_labels] at distinct
  have inj := List.inj_on_of_nodup_map distinct
  constructor
  · intro name unique shared
    have same := inj (mem_uniqueNames.mpr unique) (shared_first shared) (numberedLabel_one name).symm
    cases same
  · intro base ordinal repeated bound
    have own : .inr (base, ordinal) ∈ numberFrom [] (labelItems units) := mem_sharedLabels.mpr ⟨by omega, bound⟩
    constructor
    · intro unique
      have same := inj (mem_uniqueNames.mpr unique) own rfl
      cases same
    · intro shared
      have same := inj (shared_first shared) own (numberedLabel_one _)
      have ordinals := (Prod.mk.inj (Sum.inr.inj same)).2
      omega

theorem NamesApart.own_ne (apart : NamesApart units) {name base : String} {ordinal : Nat} (unique : name ∈ uniqueNames units)
    (listed : .inr (base, ordinal) ∈ numberFrom [] (labelItems units)) : name ≠ numberedLabel base ordinal := by
  rintro rfl
  obtain ⟨positive, bound⟩ := mem_sharedLabels.mp listed
  by_cases first : ordinal = 1
  · subst first
    rw [numberedLabel_one] at unique
    exact apart.shared base unique (List.count_pos_iff.mp bound)
  · exact (apart.numbered base ordinal (by omega) bound).1 unique

/-- The first module with a shared label has no other's ordinal in it. -/
theorem NamesApart.first_ne (apart : NamesApart units) {base other : String} {number : Nat}
    (listed : .inr (base, 1) ∈ numberFrom [] (labelItems units))
    (listedToo : .inr (other, number) ∈ numberFrom [] (labelItems units)) (repeated : number ≠ 1) :
    base ≠ numberedLabel other number := by
  rintro rfl
  obtain ⟨_, bound⟩ := mem_sharedLabels.mp listed
  obtain ⟨positive, boundToo⟩ := mem_sharedLabels.mp listedToo
  exact (apart.numbered other number (by omega) boundToo).2 (List.count_pos_iff.mp bound)

theorem NamesApart.label_inj (apart : NamesApart units) {base other : String} {ordinal number : Nat}
    (listed : .inr (base, ordinal) ∈ numberFrom [] (labelItems units))
    (listedToo : .inr (other, number) ∈ numberFrom [] (labelItems units))
    (same : numberedLabel base ordinal = numberedLabel other number) : base = other ∧ ordinal = number := by
  by_cases first : ordinal = 1
  · subst first
    rw [numberedLabel_one] at same
    by_cases firstToo : number = 1
    · subst firstToo
      rw [numberedLabel_one] at same
      exact ⟨same, rfl⟩
    · exact absurd same (apart.first_ne listed listedToo firstToo)
  · by_cases firstToo : number = 1
    · subst firstToo
      rw [numberedLabel_one] at same
      exact absurd same.symm (apart.first_ne listedToo listed first)
    · exact numberedLabel_inj first firstToo same

/-- Under `NamesApart` a module's own name is no label of another one, and a label tells what it was made from. -/
theorem NamesApart.nodup (apart : NamesApart units) : (labelUnits units).labels.Nodup := by
  have distinct : (numberFrom [] (labelItems units)).Nodup := nodup_numberFrom uniqueNames_nodup
  rw [labelUnits_labels, List.nodup_map_iff_inj_on distinct]
  intro first listed second listedToo same
  match first, second, listed, listedToo, same with
  | .inl name, .inl other, _, _, same => exact congrArg Sum.inl same
  | .inl name, .inr (base, ordinal), listed, listedToo, same =>
    exact absurd same (apart.own_ne (mem_uniqueNames.mp listed) listedToo)
  | .inr (base, ordinal), .inl name, listed, listedToo, same =>
    exact absurd same.symm (apart.own_ne (mem_uniqueNames.mp listedToo) listed)
  | .inr (base, ordinal), .inr (other, number), listed, listedToo, same =>
    obtain ⟨rfl, rfl⟩ := apart.label_inj listed listedToo same
    rfl

end Labels

end PspDisasm.Linker
