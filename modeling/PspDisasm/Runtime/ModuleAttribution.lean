import PspDisasm.Runtime.CallSites

namespace PspDisasm
open Foundations

/-- The address lies in the known range of the module. -/
def RuntimeModule.contains (address : Int) (module : RuntimeModule) : Bool :=
  match module.runtimeSize with
  | none => false
  | some size => module.runtimeBase.value ≤ address ∧ address < module.runtimeBase.value + size

/-- The module has no known size and begins at or below the address. -/
def RuntimeModule.unsizedBelow (address : Int) (module : RuntimeModule) : Bool :=
  module.runtimeSize = none ∧ module.runtimeBase.value ≤ address

def DisjointRanges (modules : List RuntimeModule) : Prop :=
  modules.Pairwise fun first second => ∀ address, ¬(first.contains address ∧ second.contains address)

section Attribution
variable {address : Int} {modules other : List RuntimeModule} {module : RuntimeModule}

theorem findModuleFrom_eq (unboundedMatch : Option RuntimeModule) : findModuleFrom address unboundedMatch modules =
    (modules.find? (·.contains address)).or (unboundedMatch.or (modules.find? (·.unsizedBelow address))) := by
  induction modules generalizing unboundedMatch with
  | nil => rw [findModuleFrom, List.find?_nil, List.find?_nil, Option.or_none, Option.none_or]
  | cons module rest ih =>
    rw [findModuleFrom, List.find?_cons, List.find?_cons]
    by_cases above : address < module.runtimeBase.value
    · have outside : module.contains address = false := by
        rw [RuntimeModule.contains]
        split
        · rfl
        · exact decide_eq_false fun inside => absurd inside.1 (by omega)
      have unlisted : module.unsizedBelow address = false := decide_eq_false fun below => absurd below.2 (by omega)
      rw [if_pos above, outside, unlisted, ih]
    · rw [if_neg above]
      have below : module.runtimeBase.value ≤ address := Int.not_lt.mp above
      cases size : module.runtimeSize with
      | none =>
        have outside : module.contains address = false := by rw [RuntimeModule.contains, size]
        have listed : module.unsizedBelow address = true := decide_eq_true ⟨size, below⟩
        rw [outside, listed, ih, Option.or_assoc, Option.some_or]
      | some width =>
        have unlisted : module.unsizedBelow address = false := decide_eq_false fun unsized => by
          rw [size] at unsized
          cases unsized.1
        dsimp only
        rw [unlisted]
        split
        · rename_i inside
          have listed : module.contains address = true := by
            rw [RuntimeModule.contains, size]
            exact decide_eq_true ⟨below, inside⟩
          rw [listed, Option.some_or]
        · rename_i past
          have outside : module.contains address = false := by
            rw [RuntimeModule.contains, size]
            exact decide_eq_false fun inside => past inside.2
          rw [outside, ih]

/-- A module whose known range holds the address comes first, then the first listed one without a size. -/
theorem findModule_eq : findModule address modules =
    (modules.find? (·.contains address)).or (modules.find? (·.unsizedBelow address)) := by
  rw [findModule, findModuleFrom_eq, Option.none_or]

theorem find?_perm {α : Type} {p : α → Bool} {listed permuted : List α} (alone : listed.Pairwise fun a b => ¬(p a ∧ p b))
    (perm : listed.Perm permuted) : listed.find? p = permuted.find? p := by
  have found := perm.filter p
  have apart := alone.filter p
  have chosen : ∀ a ∈ listed.filter p, p a = true := fun a member => (List.mem_filter.mp member).2
  rw [← List.head?_filter, ← List.head?_filter]
  match listed.filter p, found, apart, chosen with
  | [], found, _, _ => rw [found.nil_eq]
  | [a], found, _, _ => rw [List.singleton_perm.mp found]
  | a :: b :: rest, _, apart, chosen =>
    have both : p a ∧ p b := ⟨chosen a List.mem_cons_self, chosen b (List.mem_cons_of_mem _ List.mem_cons_self)⟩
    exact absurd both (List.rel_of_pairwise_cons apart List.mem_cons_self)

theorem DisjointRanges.find?_contains (disjoint : DisjointRanges modules) (perm : modules.Perm other) :
    modules.find? (·.contains address) = other.find? (·.contains address) :=
  find?_perm (disjoint.imp fun apart => apart address) perm

theorem findModule_outside (outside : ∀ module ∈ modules, ¬module.contains address) :
    findModule address modules = modules.find? (·.unsizedBelow address) := by
  rw [findModule_eq, List.find?_eq_none.mpr outside, Option.none_or]

/-- The order of the list matters only where no known range holds the address, and there only for which module without
a size comes first among those that begin at or below it. -/
theorem DisjointRanges.findModule_perm (disjoint : DisjointRanges modules) (perm : modules.Perm other)
    (settled : (∃ module ∈ modules, module.contains address) ∨
      modules.find? (·.unsizedBelow address) = other.find? (·.unsizedBelow address)) :
    findModule address modules = findModule address other := by
  have known : modules.find? (·.contains address) = other.find? (·.contains address) := disjoint.find?_contains perm
  rw [findModule_eq, findModule_eq, ← known]
  rcases settled with ⟨module, member, inside⟩ | first
  · cases found : modules.find? (·.contains address) with
    | none => exact absurd inside (List.find?_eq_none.mp found module member)
    | some chosen => rw [Option.some_or, Option.some_or]
  · rw [first]

end Attribution

section Observation
variable {modules : List RuntimeModule}

theorem reconcileObservation_congr {other : List RuntimeModule} {observation : RuntimeBreakpointObservation}
    (same : findModule observation.breakpointAddress.value modules = findModule observation.breakpointAddress.value other)
    (placements : Dict String Json) (candidates : Dict String (List StaticCandidate)) :
    reconcileObservation modules placements candidates observation =
      reconcileObservation other placements candidates observation := by
  rw [reconcileObservation, reconcileObservation, same]

/-- With disjoint known ranges, a module whose range holds the address is found in every order, and otherwise the first
listed module of unknown size that begins at or below it. -/
theorem DisjointRanges.reconcileObservation_order (disjoint : DisjointRanges modules) (placements : Dict String Json)
    (candidates : Dict String (List StaticCandidate)) (observation : RuntimeBreakpointObservation) :
    (∀ other, modules.Perm other →
      ((∃ module ∈ modules, module.contains observation.breakpointAddress.value) ∨
        modules.find? (·.unsizedBelow observation.breakpointAddress.value) =
          other.find? (·.unsizedBelow observation.breakpointAddress.value)) →
      reconcileObservation modules placements candidates observation =
        reconcileObservation other placements candidates observation) ∧
    ((∀ module ∈ modules, ¬module.contains observation.breakpointAddress.value) →
      findModule observation.breakpointAddress.value modules =
        modules.find? (·.unsizedBelow observation.breakpointAddress.value)) :=
  ⟨fun _ perm settled => reconcileObservation_congr (disjoint.findModule_perm perm settled) placements candidates,
    findModule_outside⟩

end Observation

section Samples

/-- One module of known size and two of unknown size. -/
def mixedModules : List RuntimeModule :=
  [sampleModule (some "sized.prx") 0x9200000 (some 0x100), sampleModule (some "low.prx") 0x9000000 none,
    sampleModule (some "high.prx") 0x9100000 none]

theorem mixedModules_disjoint : DisjointRanges mixedModules := by
  refine List.pairwise_cons.mpr ⟨?_, List.pairwise_pair.mpr fun _ both => Bool.noConfusion both.1⟩
  intro module member address both
  rcases List.mem_pair.mp member with rfl | rfl
  · exact Bool.noConfusion both.2
  · exact Bool.noConfusion both.2

theorem mixedModules_found :
    reconcileObservation mixedModules [] [] (sampleObservation 0x9200010) =
        reconcileObservation mixedModules.reverse [] [] (sampleObservation 0x9200010) ∧
      findModule 0x9000010 mixedModules = mixedModules.find? (·.unsizedBelow 0x9000010) :=
  ⟨(mixedModules_disjoint.reconcileObservation_order [] [] (sampleObservation 0x9200010)).1 _
      (List.reverse_perm _).symm (.inl ⟨_, List.mem_cons_self, by decide⟩),
    (mixedModules_disjoint.reconcileObservation_order [] [] (sampleObservation 0x9000010)).2 (by decide)⟩

/-- The lower of two modules of unknown size takes the other one's addresses when it is listed first. -/
theorem unsized_order_matters :
    reconcileObservation mixedModules [] [] (sampleObservation 0x9100010) ≠
        reconcileObservation mixedModules.reverse [] [] (sampleObservation 0x9100010) ∧
      findModule 0x9100010 mixedModules = some (sampleModule (some "low.prx") 0x9000000 none) := by
  decide

end Samples

end PspDisasm
