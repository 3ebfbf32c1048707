import PspDisasm.Foundations.GreedyScan
import PspDisasm.Resources.DetectorLaws

namespace PspDisasm
open Foundations

section Detection
variable {data other : Bytes} {offset : Int} {cursor base size : Nat} {found : ResourceFormatMatch}

/-- The detectors with the first byte of what they match. -/
def signedDetectors : List ((Bytes → Nat → Option ResourceFormatMatch) × UInt8) :=
  [(detectPng, 0x89), (detectJpeg, 0xFF), (detectRiff, 0x52), (detectVag, 0x56), (detectGim, 0x4D), (detectPsmf, 0x50)]

theorem signedDetectors_sound : ∀ signed ∈ signedDetectors, SoundDetector signed.1 signed.2 := by
  simp only [signedDetectors, List.forall_mem_cons, List.not_mem_nil, false_implies, implies_true, and_true]
  exact ⟨detectPng_sound, detectJpeg_sound, detectRiff_sound, detectVag_sound, detectGim_sound, detectPsmf_sound⟩

/-- A list with one hit among its items gives that hit alone. -/
theorem filterMap_single {α β : Type} {items : List α} {f : α → Option β} {item : α} {hit : β} (nodup : items.Nodup)
    (member : item ∈ items) (found : f item = some hit) (only : ∀ other ∈ items, f other ≠ none → other = item) :
    items.filterMap f = [hit] := by
  induction items with
  | nil => cases member
  | cons first rest ih =>
    obtain ⟨fresh, later⟩ := List.nodup_cons.mp nodup
    obtain ⟨onlyFirst, onlyRest⟩ := List.forall_mem_cons.mp only
    rcases List.mem_cons.mp member with rfl | inRest
    · have nothing : rest.filterMap f = [] := by
        rw [List.filterMap_eq_nil_iff]
        intro other listed
        by_contra something
        exact fresh (onlyRest other listed something ▸ listed)
      rw [List.filterMap_cons_some found, nothing]
    · have none : f first = none := by
        by_contra something
        exact fresh (onlyFirst something ▸ inRest)
      rw [List.filterMap_cons_none none]
      exact ih later inRest onlyRest

/-- The first byte decides which detector can match. -/
theorem candidates_single {signed : (Bytes → Nat → Option ResourceFormatMatch) × UInt8} (member : signed ∈ signedDetectors)
    (matched : signed.1 data cursor = some found) :
    (resourceDetectors.filterMap fun detector => detector data cursor) = [found] := by
  have firsts : (signedDetectors.map Prod.snd).Nodup := by decide
  have all : resourceDetectors = signedDetectors.map Prod.fst := rfl
  rw [all, List.filterMap_map]
  refine filterMap_single firsts.of_map member matched fun other listed hit => ?_
  obtain ⟨another, same⟩ := Option.ne_none_iff_exists'.mp hit
  have here := (signedDetectors_sound signed member).signature matched
  have there := (signedDetectors_sound other listed).signature same
  exact List.inj_on_of_nodup_map firsts listed member (Option.some.inj (there.symm.trans here))

/-- What is detected at a position is what the one matching detector says. -/
theorem detectResourceAt_eq_some : detectResourceAt data offset = some found ↔
    0 ≤ offset ∧ ∃ signed ∈ signedDetectors, signed.1 data offset.toNat = some found := by
  constructor
  · intro ran
    unfold detectResourceAt at ran
    split at ran
    · cases ran
    · rename_i inside
      have candidate := List.mem_of_mem_head? (Option.mem_def.mpr ran)
      rw [List.mem_insertionSort] at candidate
      obtain ⟨detector, listed, matched⟩ := List.mem_filterMap.mp candidate
      have all : resourceDetectors = signedDetectors.map Prod.fst := rfl
      rw [all] at listed
      obtain ⟨signed, member, rfl⟩ := List.mem_map.mp listed
      exact ⟨Int.not_lt.mp (not_or.mp inside).1, signed, member, matched⟩
  · rintro ⟨positive, signed, member, matched⟩
    have inside := (List.getElem?_eq_some_iff.mp ((signedDetectors_sound signed member).signature matched)).1
    rw [detectResourceAt, if_neg (by omega), candidates_single member matched]
    rfl

/-- The laws of the detectors, for what is detected at a position. -/
structure DetectedAt (data : Bytes) (offset : Int) (found : ResourceFormatMatch) : Prop where
  offset : (found.offset : Int) = offset
  inside : found.offset < data.length
  confidence : 9 / 10 ≤ found.confidence
  extent : found.extractable = true → ∃ size, found.size = some size ∧ 0 < size ∧ found.offset + size ≤ data.length
  extentOnly : ∀ {size other base}, found.extractable = true → found.size = some size →
    Mirrors data found.offset other base size → detectResourceAt other base = some { found with offset := base }

theorem detectedAt (ran : detectResourceAt data offset = some found) : DetectedAt data offset found := by
  obtain ⟨positive, signed, member, matched⟩ := detectResourceAt_eq_some.mp ran
  have sound := signedDetectors_sound signed member
  have place : found.offset = offset.toNat := sound.offset matched
  refine ⟨by omega, ?_, sound.confidence matched, ?_, ?_⟩
  · rw [place]
    exact (List.getElem?_eq_some_iff.mp (sound.signature matched)).1
  · rw [place]
    exact sound.extent matched
  · intro size other base extractable sized mirrors
    rw [place] at mirrors
    exact detectResourceAt_eq_some.mpr ⟨Int.natCast_nonneg base, signed, member, sound.extentOnly matched extractable sized mirrors⟩

end Detection

section Scan
variable {data : Bytes} {minimumConfidence : Rat} {cursor size : Nat} {found : ResourceFormatMatch}

/-- The scan as a search for matches of the asked confidence. -/
def resourceScanner (data : Bytes) (minimumConfidence : Rat) : Scanner ResourceFormatMatch where
  detect position := (detectResourceAt data position).filter fun found => ¬found.confidence < minimumConfidence
  jump := ResourceFormatMatch.jump
  advances := ResourceFormatMatch.jump_pos

theorem resourceScanner_detect {position : Nat} : (resourceScanner data minimumConfidence).detect position = some found ↔
    detectResourceAt data position = some found ∧ minimumConfidence ≤ found.confidence := by
  simp only [resourceScanner, Option.filter_eq_some_iff, decide_eq_true_eq, Rat.not_lt]

theorem scanFrom_eq (data : Bytes) (minimumConfidence : Rat) (cursor : Nat) : scanFrom data minimumConfidence cursor =
    ((resourceScanner data minimumConfidence).hits data.length cursor).map Prod.snd := by
  induction cursor using scanFrom.induct data minimumConfidence with
  | case1 cursor inside nothing ih =>
    have none : (resourceScanner data minimumConfidence).detect cursor = none := by
      simp only [resourceScanner, nothing, Option.filter_none]
    rw [Scanner.hits_none inside none, ← ih, scanFrom, if_pos inside, nothing]
  | case2 cursor inside candidate found low ih =>
    have none : (resourceScanner data minimumConfidence).detect cursor = none := by
      rw [Option.eq_none_iff_forall_ne_some]
      intro other same
      obtain ⟨again, high⟩ := resourceScanner_detect.mp same
      cases found.symm.trans again
      exact absurd low (Rat.not_lt.mpr high)
    rw [Scanner.hits_none inside none, ← ih, scanFrom, if_pos inside, found]
    simp only [if_pos low]
  | case3 cursor inside candidate found high ih =>
    have hit := resourceScanner_detect.mpr ⟨found, Rat.not_lt.mp high⟩
    rw [Scanner.hits_some inside hit, List.map_cons]
    rw [scanFrom, if_pos inside, found]
    simp only [if_neg high]
    exact congrArg _ ih
  | case4 cursor ended =>
    rw [Scanner.hits_stop (Nat.le_of_not_lt ended), scanFrom, if_neg ended]
    rfl

theorem jump_extractable (extractable : found.extractable = true) (sized : found.size = some size) (positive : 0 < size) :
    found.jump = size := by
  obtain ⟨less, rfl⟩ := Nat.exists_eq_succ_of_ne_zero positive.ne'
  rw [ResourceFormatMatch.jump, extractable, sized]

/-- A position lies strictly inside of the extent of a match. -/
def ResourceFormatMatch.Covers (found : ResourceFormatMatch) (position : Nat) : Prop :=
  found.extractable = true ∧ ∃ size, found.size = some size ∧ found.offset < position ∧ position < found.offset + size

/-- A greedy leftmost cover of the data by the matches of the asked confidence. -/
structure CoversGreedily (data : Bytes) (minimumConfidence : Rat) (listed : List ResourceFormatMatch) : Prop where
  increasing : listed.Pairwise fun earlier later => earlier.offset < later.offset
  within : ∀ found ∈ listed, found.extractable = true → ∃ size, found.size = some size ∧ found.offset + size ≤ data.length
  disjoint : listed.Pairwise fun earlier later => earlier.extractable = true →
    ∃ size, earlier.size = some size ∧ earlier.offset + size ≤ later.offset
  detected : ∀ found ∈ listed, detectResourceAt data found.offset = some found ∧ minimumConfidence ≤ found.confidence
  complete : ∀ offset found, detectResourceAt data offset = some found → minimumConfidence ≤ found.confidence →
    found ∈ listed ∨ ∃ earlier ∈ listed, earlier.Covers found.offset

/-- The jump from a detected match is its extent, or a single byte. -/
theorem DetectedAt.jump {offset : Int} (detected : DetectedAt data offset found) :
    (found.extractable = true ∧ found.size = some found.jump) ∨ (found.extractable = false ∧ found.jump = 1) := by
  cases extractable : found.extractable with
  | true =>
    obtain ⟨size, sized, positive, _⟩ := detected.extent extractable
    rw [jump_extractable extractable sized positive]
    exact Or.inl ⟨rfl, sized⟩
  | false =>
    refine Or.inr ⟨rfl, ?_⟩
    rw [ResourceFormatMatch.jump, extractable]

/-- Two matches are apart just when the later one is behind the jump from the earlier one. -/
theorem DetectedAt.apart_iff {offset : Int} {later : Nat} (detected : DetectedAt data offset found) :
    found.offset + found.jump ≤ later ↔
      found.offset < later ∧ (found.extractable = true → ∃ size, found.size = some size ∧ found.offset + size ≤ later) := by
  have positive := found.jump_pos
  rcases detected.jump with ⟨extractable, sized⟩ | ⟨kept, jump⟩
  · refine ⟨fun apart => ⟨by omega, fun _ => ⟨_, sized, apart⟩⟩, fun ⟨_, apart⟩ => ?_⟩
    obtain ⟨size, same, behind⟩ := apart extractable
    cases sized.symm.trans same
    exact behind
  · rw [jump]
    refine ⟨fun apart => ⟨apart, fun extractable => ?_⟩, fun apart => apart.1⟩
    cases kept.symm.trans extractable

theorem DetectedAt.covers_iff {offset : Int} {position : Nat} (detected : DetectedAt data offset found) :
    found.Covers position ↔ found.offset < position ∧ position < found.offset + found.jump := by
  rcases detected.jump with ⟨extractable, sized⟩ | ⟨kept, jump⟩
  · refine ⟨fun ⟨_, size, same, before, inside⟩ => ?_, fun ⟨before, inside⟩ => ⟨extractable, _, sized, before, inside⟩⟩
    cases sized.symm.trans same
    exact ⟨before, inside⟩
  · refine ⟨fun ⟨extractable, _⟩ => ?_, fun ⟨before, inside⟩ => ?_⟩
    · cases kept.symm.trans extractable
    · omega

/-- The matches of a list with their offsets, as the scanner lists them. -/
def placed (listed : List ResourceFormatMatch) : List (Nat × ResourceFormatMatch) := listed.map fun found => (found.offset, found)

/-- The properties of a cover are those that the scanner gives. -/
theorem coversGreedily_iff_cover {listed : List ResourceFormatMatch} : CoversGreedily data minimumConfidence listed ↔
    (resourceScanner data minimumConfidence).GreedyCover data.length 0 (placed listed) := by
  constructor
  · intro covers
    have laws : ∀ found ∈ listed, DetectedAt data found.offset found := fun found member => detectedAt (covers.detected found member).1
    refine ⟨List.forall_mem_map.mpr fun found member => ⟨Nat.zero_le _, (laws found member).inside⟩,
      List.forall_mem_map.mpr fun found member => resourceScanner_detect.mpr (covers.detected found member),
      List.pairwise_map.mpr ?_, ?_⟩
    · have both := covers.increasing.and covers.disjoint
      exact both.imp_of_mem fun {earlier _} member _ apart => (laws earlier member).apart_iff.mpr apart
    · intro position found _ _ detected
      obtain ⟨ran, high⟩ := resourceScanner_detect.mp detected
      have place : found.offset = position := by have offset := (detectedAt ran).offset; omega
      rcases covers.complete position found ran high with member | ⟨earlier, member, reach⟩
      · exact Or.inl (List.mem_map.mpr ⟨found, member, by rw [place]⟩)
      · rw [place] at reach
        exact Or.inr ⟨_, List.mem_map_of_mem member, (laws earlier member).covers_iff.mp reach⟩
  · intro cover
    have found_ : ∀ found ∈ listed, detectResourceAt data found.offset = some found ∧ minimumConfidence ≤ found.confidence :=
      fun found member => resourceScanner_detect.mp (cover.found _ (List.mem_map_of_mem member))
    have laws : ∀ found ∈ listed, DetectedAt data found.offset found := fun found member => detectedAt (found_ found member).1
    have apart := (List.pairwise_map.mp cover.apart).imp_of_mem fun {earlier _} member _ apart =>
      (laws earlier member).apart_iff.mp apart
    refine ⟨apart.imp And.left, fun found member extractable => ?_, apart.imp And.right, found_, ?_⟩
    · obtain ⟨size, sized, _, within⟩ := (laws found member).extent extractable
      exact ⟨size, sized, within⟩
    · intro offset found ran high
      have detected := detectedAt ran
      have hit := resourceScanner_detect.mpr ⟨(detected.offset ▸ ran : detectResourceAt data found.offset = some found), high⟩
      rcases cover.complete found.offset found (Nat.zero_le _) detected.inside hit with member | ⟨_, member, reach⟩
      · obtain ⟨other, listed, same⟩ := List.mem_map.mp member
        obtain rfl : other = found := congrArg Prod.snd same
        exact Or.inl listed
      · obtain ⟨earlier, listed, rfl⟩ := List.mem_map.mp member
        exact Or.inr ⟨earlier, listed, (laws earlier listed).covers_iff.mpr reach⟩

/-- The hits of the scanner are its matches, each with its own offset. -/
theorem placed_hits (cursor : Nat) : placed (((resourceScanner data minimumConfidence).hits data.length cursor).map Prod.snd) =
    (resourceScanner data minimumConfidence).hits data.length cursor := by
  rw [placed, List.map_map]
  refine (List.map_congr_left fun hit member => ?_).trans (List.map_id' _)
  have found := ((Scanner.hits_cover data.length cursor).found hit member)
  have place := (detectedAt (resourceScanner_detect.mp found).1).offset
  exact Prod.ext (Int.ofNat_inj.mp place) rfl

/-- The scan is the one list of matches that covers the data greedily from the left. -/
theorem scanResourceBytes_iff {listed : List ResourceFormatMatch} :
    CoversGreedily data minimumConfidence listed ↔ listed = scanResourceBytes data minimumConfidence := by
  rw [coversGreedily_iff_cover, scanResourceBytes, scanFrom_eq]
  constructor
  · intro cover
    have same := cover.unique
    have matched : (placed listed).map Prod.snd = listed := by rw [placed, List.map_map]; exact List.map_id' _
    rw [← same, matched]
  · rintro rfl
    rw [placed_hits]
    exact Scanner.hits_cover _ _

end Scan

end PspDisasm
