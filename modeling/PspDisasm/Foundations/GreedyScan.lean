import Mathlib.Data.List.Pairwise
import Mathlib.Order.Basic
import Mathlib.Order.Lattice
import Mathlib.Data.Nat.Basic

namespace Foundations
universe u

/-- What a scan looks for at a position, and how far it jumps from a hit. -/
structure Scanner (β : Type u) where
  detect : Nat → Option β
  jump : β → Nat
  advances : ∀ hit, 0 < jump hit

namespace Scanner
variable {β : Type u} (scanner : Scanner β)

/-- The hits from a position on, each one behind the extent of the one before. -/
def hits (stop cursor : Nat) : List (Nat × β) :=
  if cursor < stop then
    match scanner.detect cursor with
    | none => hits stop (cursor + 1)
    | some hit => (cursor, hit) :: hits stop (cursor + scanner.jump hit)
  else []
termination_by stop - cursor
decreasing_by
  · omega
  · have advances := scanner.advances hit
    omega

/-- No hit reaches into another one, and what is not listed starts inside of a hit. -/
structure GreedyCover (stop cursor : Nat) (listed : List (Nat × β)) : Prop where
  inside : ∀ hit ∈ listed, cursor ≤ hit.1 ∧ hit.1 < stop
  found : ∀ hit ∈ listed, scanner.detect hit.1 = some hit.2
  apart : listed.Pairwise fun earlier later => earlier.1 + scanner.jump earlier.2 ≤ later.1
  complete : ∀ position hit, cursor ≤ position → position < stop → scanner.detect position = some hit →
    (position, hit) ∈ listed ∨ ∃ earlier ∈ listed, earlier.1 < position ∧ position < earlier.1 + scanner.jump earlier.2

variable {scanner} {stop cursor : Nat} {listed rest : List (Nat × β)} {hit : β}

theorem hits_stop (ended : stop ≤ cursor) : scanner.hits stop cursor = [] := by
  rw [hits, if_neg (Nat.not_lt.mpr ended)]

theorem hits_none (inside : cursor < stop) (nothing : scanner.detect cursor = none) :
    scanner.hits stop cursor = scanner.hits stop (cursor + 1) := by
  rw [hits, if_pos inside, nothing]

theorem hits_some (inside : cursor < stop) (found : scanner.detect cursor = some hit) :
    scanner.hits stop cursor = (cursor, hit) :: scanner.hits stop (cursor + scanner.jump hit) := by
  rw [hits, if_pos inside, found]

namespace GreedyCover

theorem nil (ended : stop ≤ cursor) : scanner.GreedyCover stop cursor [] where
  inside _ member := absurd member List.not_mem_nil
  found _ member := absurd member List.not_mem_nil
  apart := .nil
  complete _ _ lower upper _ := absurd (ended.trans lower) (Nat.not_le.mpr upper)

theorem skip (nothing : scanner.detect cursor = none) (cover : scanner.GreedyCover stop (cursor + 1) listed) :
    scanner.GreedyCover stop cursor listed where
  inside hit member := ⟨Nat.le_of_succ_le (cover.inside hit member).1, (cover.inside hit member).2⟩
  found := cover.found
  apart := cover.apart
  complete position hit lower upper found := by
    rcases Nat.eq_or_lt_of_le lower with rfl | later
    · cases nothing.symm.trans found
    · exact cover.complete position hit later upper found

theorem cons (inside : cursor < stop) (found : scanner.detect cursor = some hit)
    (cover : scanner.GreedyCover stop (cursor + scanner.jump hit) listed) :
    scanner.GreedyCover stop cursor ((cursor, hit) :: listed) where
  inside := List.forall_mem_cons.mpr ⟨⟨le_rfl, inside⟩, fun other member =>
    ⟨(Nat.le_add_right ..).trans (cover.inside other member).1, (cover.inside other member).2⟩⟩
  found := List.forall_mem_cons.mpr ⟨found, cover.found⟩
  apart := List.pairwise_cons.mpr ⟨fun other member => (cover.inside other member).1, cover.apart⟩
  complete position other lower upper detected := by
    rcases Nat.eq_or_lt_of_le lower with rfl | later
    · cases found.symm.trans detected
      exact Or.inl List.mem_cons_self
    · by_cases covered : position < cursor + scanner.jump hit
      · exact Or.inr ⟨_, List.mem_cons_self, later, covered⟩
      · rcases cover.complete position other (Nat.le_of_not_lt covered) upper detected with member | ⟨earlier, member, reach⟩
        · exact Or.inl (List.mem_cons_of_mem _ member)
        · exact Or.inr ⟨earlier, List.mem_cons_of_mem _ member, reach⟩

/-- The positions of the hits grow. -/
theorem increasing (cover : scanner.GreedyCover stop cursor listed) :
    listed.Pairwise fun earlier later => earlier.1 < later.1 :=
  cover.apart.imp fun {earlier} _ apart => (Nat.lt_add_of_pos_right (scanner.advances earlier.2)).trans_le apart

/-- What is found at the first position opens the list. -/
theorem opens (inside : cursor < stop) (found : scanner.detect cursor = some hit)
    (cover : scanner.GreedyCover stop cursor listed) : ∃ rest, listed = (cursor, hit) :: rest := by
  have member : (cursor, hit) ∈ listed := by
    rcases cover.complete cursor hit le_rfl inside found with member | ⟨earlier, member, before, _⟩
    · exact member
    · exact absurd (cover.inside earlier member).1 (Nat.not_le.mpr before)
  cases listed with
  | nil => cases member
  | cons first rest =>
    rcases List.mem_cons.mp member with same | later
    · exact ⟨rest, by rw [same]⟩
    · have before := (List.pairwise_cons.mp cover.increasing).1 _ later
      exact absurd (cover.inside first List.mem_cons_self).1 (Nat.not_le.mpr before)

end GreedyCover

/-- A scan covers greedily. -/
theorem hits_cover (stop cursor : Nat) : scanner.GreedyCover stop cursor (scanner.hits stop cursor) := by
  induction cursor using hits.induct scanner stop with
  | case1 cursor inside nothing ih => exact hits_none inside nothing ▸ ih.skip nothing
  | case2 cursor inside hit found ih => exact hits_some inside found ▸ .cons inside found ih
  | case3 cursor ended =>
    rw [hits_stop (Nat.le_of_not_lt ended)]
    exact .nil (Nat.le_of_not_lt ended)

/-- Only the scan covers greedily. -/
theorem GreedyCover.unique (cover : scanner.GreedyCover stop cursor listed) : listed = scanner.hits stop cursor := by
  induction cursor using hits.induct scanner stop generalizing listed with
  | case1 cursor inside nothing ih =>
    refine (ih ⟨fun hit member => ⟨?_, (cover.inside hit member).2⟩, cover.found, cover.apart, ?_⟩).trans
      (hits_none inside nothing).symm
    · refine Nat.lt_of_le_of_ne (cover.inside hit member).1 fun here => ?_
      have found := cover.found hit member
      rw [← here, nothing] at found
      cases found
    · exact fun position hit lower => cover.complete position hit (Nat.le_of_succ_le lower)
  | case2 cursor inside hit found ih =>
    obtain ⟨rest, rfl⟩ := cover.opens inside found
    obtain ⟨behind, apart⟩ := List.pairwise_cons.mp cover.apart
    rw [hits_some inside found]
    refine congrArg _ (ih ⟨fun other member => ⟨behind other member, (cover.inside other (List.mem_cons_of_mem _ member)).2⟩,
      fun other member => cover.found other (List.mem_cons_of_mem _ member), apart, ?_⟩)
    intro position other lower upper detected
    have advances := scanner.advances hit
    rcases cover.complete position other (by omega) upper detected with member | ⟨earlier, member, before, reach⟩
    · rcases List.mem_cons.mp member with same | later
      · cases same
        omega
      · exact Or.inl later
    · rcases List.mem_cons.mp member with rfl | later
      · exact absurd reach (Nat.not_lt.mpr lower)
      · exact Or.inr ⟨earlier, later, before, reach⟩
  | case3 cursor ended =>
    rw [hits_stop (Nat.le_of_not_lt ended)]
    refine List.eq_nil_iff_forall_not_mem.mpr fun hit member => ended ?_
    exact Nat.lt_of_le_of_lt (cover.inside hit member).1 (cover.inside hit member).2

end Scanner

end Foundations
