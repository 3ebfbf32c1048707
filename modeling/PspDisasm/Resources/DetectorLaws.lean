import PspDisasm.Foundations.ByteWindows
import PspDisasm.Resources.ResourceFormats
import Mathlib.Tactic.NormNum

namespace PspDisasm
open Foundations

section Words
variable {data other : Bytes} {start base size cursor width : Nat}

theorem mirrors_wordAt (mirrors : Mirrors data start other base size) (order : Endianness) (behind : start ≤ cursor)
    (inside : cursor + width ≤ start + size) :
    wordAt order other (base + (cursor - start)) width = wordAt order data cursor width := by
  rw [wordAt, wordAt, mirrors.sliceAt behind inside]

theorem slice_head {data : Bytes} {first : UInt8} {rest : Bytes} (same : slice data start width = first :: rest) :
    data[start]? = some first := by
  have head : (slice data start width)[0]? = some first := by rw [same]; rfl
  rw [slice, List.getElem?_take] at head
  split at head
  · rwa [List.getElem?_drop] at head
  · cases head

end Words

/-- The laws of a detector whose matches begin with a byte of their own. -/
structure SoundDetector (detector : Bytes → Nat → Option ResourceFormatMatch) (first : UInt8) : Prop where
  signature : ∀ {data start found}, detector data start = some found → data[start]? = some first
  offset : ∀ {data start found}, detector data start = some found → found.offset = start
  confidence : ∀ {data start found}, detector data start = some found → 9 / 10 ≤ found.confidence
  extent : ∀ {data start found}, detector data start = some found → found.extractable = true →
    ∃ size, found.size = some size ∧ 0 < size ∧ start + size ≤ data.length
  -- What a match says is read from its extent alone.
  extentOnly : ∀ {data start found other base size}, detector data start = some found → found.extractable = true →
    found.size = some size → Mirrors data start other base size → detector other base = some { found with offset := base }

theorem certain_le : (9 / 10 : Rat) ≤ 1 := by norm_num

section Png
variable {data : Bytes} {start cursor count : Nat} {found : ResourceFormatMatch}

/-- The match of an image, with its number of chunks. -/
def pngMatch (start size count : Nat) : ResourceFormatMatch where
  offset := start
  format := "png"
  kind := "image"
  size := some size
  confidence := 1
  evidence := ["png_signature", "png_iend", "bounded_extent"]
  extractable := true
  suggestedExtension := some "png"
  metadata := [("chunk_count", .number count)]

theorem pngChunks_last (header : cursor + 12 ≤ data.length) (empty : wordAt .big data cursor 4 = 0)
    (last : slice data (cursor + 4) 4 = [0x49, 0x45, 0x4E, 0x44]) :
    pngChunks data start cursor count = some (pngMatch start (cursor + 12 - start) (count + 1)) := by
  rw [pngChunks, if_pos header]
  simp only [empty, Nat.add_zero, if_neg (Nat.not_lt.mpr header), if_pos last, ne_eq, not_true_eq_false, if_false]
  rfl

theorem pngChunks_turn (within : cursor + 12 + wordAt .big data cursor 4 ≤ data.length)
    (other : slice data (cursor + 4) 4 ≠ [0x49, 0x45, 0x4E, 0x44]) : pngChunks data start cursor count =
      pngChunks data start (cursor + 12 + wordAt .big data cursor 4) (count + 1) := by
  rw [pngChunks, if_pos (by omega)]
  simp only [if_neg (Nat.not_lt.mpr within), if_neg other]

/-- A chunk of an image is the last one, or the loop goes on behind it. -/
theorem pngChunks_cases (ran : pngChunks data start cursor count = some found) :
    cursor + 12 + wordAt .big data cursor 4 ≤ data.length ∧
      ((slice data (cursor + 4) 4 = [0x49, 0x45, 0x4E, 0x44] ∧ wordAt .big data cursor 4 = 0 ∧
          found = pngMatch start (cursor + 12 - start) (count + 1)) ∨
        (slice data (cursor + 4) 4 ≠ [0x49, 0x45, 0x4E, 0x44] ∧
          pngChunks data start (cursor + 12 + wordAt .big data cursor 4) (count + 1) = some found)) := by
  by_cases header : cursor + 12 ≤ data.length
  · by_cases within : cursor + 12 + wordAt .big data cursor 4 ≤ data.length
    · refine ⟨within, ?_⟩
      by_cases last : slice data (cursor + 4) 4 = [0x49, 0x45, 0x4E, 0x44]
      · by_cases empty : wordAt .big data cursor 4 = 0
        · rw [pngChunks_last header empty last] at ran
          exact Or.inl ⟨last, empty, (Option.some.inj ran).symm⟩
        · rw [pngChunks, if_pos header] at ran
          simp only [if_neg (Nat.not_lt.mpr within), if_pos last, ne_eq, empty, not_false_eq_true, if_true] at ran
          cases ran
      · rw [pngChunks_turn within last] at ran
        exact Or.inr ⟨last, ran⟩
    · rw [pngChunks, if_pos header] at ran
      simp only [if_pos (Nat.lt_of_not_le within)] at ran
      cases ran
  · rw [pngChunks, if_neg header] at ran
    cases ran

/-- What the loop over the chunks finds, it finds wherever the same bytes are. -/
theorem pngChunks_found (behind : start ≤ cursor) (ran : pngChunks data start cursor count = some found) :
    ∃ size total, found = pngMatch start size total ∧ cursor < start + size ∧ start + size ≤ data.length ∧
      ∀ other base, Mirrors data start other base size →
        pngChunks other base (base + (cursor - start)) count = some (pngMatch base size total) := by
  induction left : data.length - cursor using Nat.strongRecOn generalizing cursor count with
  | ind n ih =>
    obtain ⟨within, ⟨last, empty, rfl⟩ | ⟨inner, rest⟩⟩ := pngChunks_cases ran
    · refine ⟨cursor + 12 - start, count + 1, rfl, by omega, by omega, fun other base mirrors => ?_⟩
      have upper := mirrors.otherWithin
      have word := mirrors_wordAt mirrors .big behind (show cursor + 4 ≤ start + (cursor + 12 - start) by omega)
      have chunk := mirrors.sliceAt (show start ≤ cursor + 4 by omega) (show cursor + 4 + 4 ≤ start + (cursor + 12 - start) by omega)
      rw [Nat.sub_add_comm behind, ← Nat.add_assoc] at chunk
      rw [pngChunks_last (by omega) (word.trans empty) (chunk.symm.trans last)]
      congr 2
      omega
    · obtain ⟨size, total, same, lower, upper, elsewhere⟩ := ih _ (by omega) (by omega) rest rfl
      refine ⟨size, total, same, by omega, upper, fun other base mirrors => ?_⟩
      have room := mirrors.otherWithin
      have word := mirrors_wordAt mirrors .big behind (show cursor + 4 ≤ start + size by omega)
      have chunk := mirrors.sliceAt (show start ≤ cursor + 4 by omega) (show cursor + 4 + 4 ≤ start + size by omega)
      rw [Nat.sub_add_comm behind, ← Nat.add_assoc] at chunk
      rw [pngChunks_turn (by omega) (chunk ▸ inner), word, ← elsewhere other base mirrors]
      congr 1
      omega

theorem detectPng_sound : SoundDetector detectPng 0x89 := by
  have cases_ : ∀ {data start found}, detectPng data start = some found →
      slice data start 8 = pngSignature ∧ pngChunks data start (start + 8) 0 = some found := by
    intro data start found ran
    unfold detectPng at ran
    split at ran
    · cases ran
    · rename_i same
      exact ⟨not_not.mp same, ran⟩
  refine ⟨fun ran => slice_head (cases_ ran).1, fun ran => ?_, fun ran => ?_, fun ran _ => ?_, fun ran _ sized mirrors => ?_⟩
  all_goals obtain ⟨size, total, rfl, lower, upper, elsewhere⟩ := pngChunks_found (Nat.le_add_right ..) (cases_ ran).2
  · rfl
  · exact certain_le
  · exact ⟨size, rfl, by omega, upper⟩
  · cases sized
    have again := elsewhere _ _ mirrors
    rw [Nat.add_sub_cancel_left] at again
    rw [detectPng, ← mirrors.first (by omega), if_neg (not_not.mpr (cases_ ran).1), again]
    rfl

end Png

section Jpeg
variable {data other : Bytes} {start base size cursor after : Nat} {marker : UInt8} {found : ResourceFormatMatch}

theorem jpegFill_fill (fill : data[cursor]? = some 0xFF) : jpegFill data cursor = jpegFill data (cursor + 1) := by
  rw [jpegFill, if_pos ⟨(List.getElem?_eq_some_iff.mp fill).1, fill⟩]

theorem jpegFill_other (other : data[cursor]? ≠ some 0xFF) : jpegFill data cursor = cursor := by
  rw [jpegFill, if_neg fun fill => other fill.2]

theorem jpegFill_mirrors (mirrors : Mirrors data start other base size) (behind : start ≤ cursor)
    (inside : jpegFill data cursor < start + size) :
    jpegFill other (base + (cursor - start)) = base + (jpegFill data cursor - start) := by
  induction cursor using jpegFill.induct data with
  | case1 cursor fill ih =>
    rw [jpegFill_fill fill.2] at inside ⊢
    have further := jpegFill_le data (cursor + 1)
    have byte := mirrors.byteAt behind (by omega)
    rw [jpegFill_fill (byte.symm.trans fill.2), ← ih (by omega) inside]
    congr 1
    omega
  | case2 cursor ended =>
    have stays : jpegFill data cursor = cursor := by rw [jpegFill, if_neg ended]
    rw [stays] at inside ⊢
    have byte := mirrors.byteAt behind inside
    have here : cursor < data.length := inside.trans_le mirrors.within
    exact jpegFill_other fun fill => ended ⟨here, byte.trans fill⟩

theorem jpegNextMarker_skip (inside : cursor < data.length) (other : data[cursor]? ≠ some 0xFF) :
    jpegNextMarker data cursor = jpegNextMarker data (cursor + 1) := by
  rw [jpegNextMarker, if_pos inside, if_pos other]

theorem jpegNextMarker_fill (fill : data[cursor]? = some 0xFF) (present : data[jpegFill data cursor]? = some marker) :
    jpegNextMarker data cursor =
      if marker = 0 then jpegNextMarker data (jpegFill data cursor + 1) else some (marker, jpegFill data cursor + 1) := by
  rw [jpegNextMarker, if_pos (List.getElem?_eq_some_iff.mp fill).1, if_neg (not_not.mpr fill), present]

/-- A marker that is found lies inside of the data, and is found wherever the same bytes are. -/
theorem jpegNextMarker_found (behind : start ≤ cursor) (ran : jpegNextMarker data cursor = some (marker, after)) :
    after ≤ data.length ∧ ∀ other base size, Mirrors data start other base size → after ≤ start + size →
      jpegNextMarker other (base + (cursor - start)) = some (marker, base + (after - start)) := by
  induction cursor using jpegNextMarker.induct data with
  | case1 cursor inside other ih =>
    rw [jpegNextMarker_skip inside other] at ran
    have further := jpegNextMarker_behind ran
    obtain ⟨upper, elsewhere⟩ := ih (by omega) ran
    refine ⟨upper, fun buffer base size mirrors room => ?_⟩
    have byte := mirrors.byteAt behind (by omega)
    have within := mirrors.otherWithin
    rw [jpegNextMarker_skip (by omega) (byte ▸ other), ← elsewhere buffer base size mirrors room]
    congr 1
    omega
  | case2 cursor inside fill ended =>
    rw [jpegNextMarker, if_pos inside, if_neg fill, ended] at ran
    cases ran
  | case3 cursor inside fill escaped ih =>
    have filled := not_not.mp fill
    rw [jpegNextMarker_fill filled escaped, if_pos rfl] at ran
    have first := jpegFill_le data cursor
    have further := jpegNextMarker_behind ran
    obtain ⟨upper, elsewhere⟩ := ih (by omega) ran
    refine ⟨upper, fun buffer base size mirrors room => ?_⟩
    have byte := mirrors.byteAt behind (by omega)
    have run := jpegFill_mirrors mirrors behind (by omega)
    have last := mirrors.byteAt (behind.trans first) (by omega)
    rw [← run] at last
    rw [jpegNextMarker_fill (byte.symm.trans filled) (last.symm.trans escaped), if_pos rfl, run,
      ← elsewhere buffer base size mirrors room]
    congr 1
    omega
  | case4 cursor inside fill last present other =>
    have filled := not_not.mp fill
    rw [jpegNextMarker_fill filled present, if_neg other] at ran
    cases ran
    have first := jpegFill_le data cursor
    have bound := (List.getElem?_eq_some_iff.mp present).1
    refine ⟨bound, fun buffer base size mirrors room => ?_⟩
    have byte := mirrors.byteAt behind (by omega)
    have run := jpegFill_mirrors mirrors behind (by omega)
    have here := mirrors.byteAt (behind.trans first) (by omega)
    rw [← run] at here
    rw [jpegNextMarker_fill (byte.symm.trans filled) (here.symm.trans present), if_neg other, run]
    congr 2
    omega
  | case5 cursor ended =>
    rw [jpegNextMarker, if_neg ended] at ran
    cases ran

def jpegMatch (start size : Nat) : ResourceFormatMatch where
  offset := start
  format := "jpeg"
  kind := "image"
  size := some size
  confidence := 1
  evidence := ["jpeg_soi", "jpeg_eoi", "bounded_extent"]
  extractable := true
  suggestedExtension := some "jpg"
  metadata := []

/-- The markers without a length. -/
def Standalone (marker : UInt8) : Prop := (0xD0 ≤ marker ∧ marker ≤ 0xD7) ∨ marker = 0x01

instance (marker : UInt8) : Decidable (Standalone marker) := inferInstanceAs (Decidable (_ ∨ _))

/-- What the loop over the segments does at a marker. -/
theorem jpegSegments_marker (inside : cursor < data.length) (next : jpegNextMarker data cursor = some (marker, after)) :
    jpegSegments data start cursor =
      if marker = 0xD9 then some (jpegMatch start (after - start))
      else if Standalone marker then jpegSegments data start after
      else if marker = 0xD8 then none
      else if data.length < after + 2 then none
      else if wordAt .big data after 2 < 2 then none
      else if data.length < after + wordAt .big data after 2 then none
      else jpegSegments data start (after + wordAt .big data after 2) := by
  rw [jpegSegments, if_pos inside]
  split
  · rename_i ended
    cases next.symm.trans ended
  · rename_i other behind same
    cases next.symm.trans same
    rfl

/-- The ways in which the loop comes to its match. -/
theorem jpegSegments_cases (ran : jpegSegments data start cursor = some found) :
    cursor < data.length ∧ ∃ marker after, jpegNextMarker data cursor = some (marker, after) ∧
      ((marker = 0xD9 ∧ found = jpegMatch start (after - start)) ∨
        (marker ≠ 0xD9 ∧ Standalone marker ∧ jpegSegments data start after = some found) ∨
        (marker ≠ 0xD9 ∧ ¬Standalone marker ∧ marker ≠ 0xD8 ∧ 2 ≤ wordAt .big data after 2 ∧
          after + wordAt .big data after 2 ≤ data.length ∧
          jpegSegments data start (after + wordAt .big data after 2) = some found)) := by
  by_cases inside : cursor < data.length
  · refine ⟨inside, ?_⟩
    cases next : jpegNextMarker data cursor with
    | none =>
      rw [jpegSegments, if_pos inside] at ran
      split at ran
      · cases ran
      · rename_i same
        cases next.symm.trans same
    | some pair =>
      obtain ⟨marker, after⟩ := pair
      rw [jpegSegments_marker inside next] at ran
      refine ⟨marker, after, rfl, ?_⟩
      split at ran
      · rename_i ended
        exact Or.inl ⟨ended, (Option.some.inj ran).symm⟩
      · rename_i more
        split at ran
        · rename_i standalone
          exact Or.inr (Or.inl ⟨more, standalone, ran⟩)
        · rename_i segment
          repeat' split at ran
          all_goals first | cases ran | skip
          rename_i again short tiny long
          exact Or.inr (Or.inr ⟨more, segment, again, Nat.le_of_not_lt tiny, Nat.le_of_not_lt long, ran⟩)
  · rw [jpegSegments, if_neg inside] at ran
    cases ran

theorem jpegSegments_found (behind : start ≤ cursor) (ran : jpegSegments data start cursor = some found) :
    ∃ size, found = jpegMatch start size ∧ cursor < start + size ∧ start + size ≤ data.length ∧
      ∀ other base, Mirrors data start other base size →
        jpegSegments other base (base + (cursor - start)) = some (jpegMatch base size) := by
  induction left : data.length - cursor using Nat.strongRecOn generalizing cursor with
  | ind n ih =>
    obtain ⟨inside, marker, after, next, ended | standalone | segment⟩ := jpegSegments_cases ran
    all_goals
      obtain ⟨upper, elsewhere⟩ := jpegNextMarker_found behind next
      have forward := jpegNextMarker_behind next
    · obtain ⟨last, rfl⟩ := ended
      refine ⟨after - start, rfl, by omega, by omega, fun other base mirrors => ?_⟩
      have room := mirrors.otherWithin
      rw [jpegSegments_marker (by omega) (elsewhere other base _ mirrors (by omega)), if_pos last, Nat.add_sub_cancel_left]
    · obtain ⟨more, alone, rest⟩ := standalone
      obtain ⟨size, rfl, lower, within, again⟩ := ih _ (by omega) (by omega) rest rfl
      refine ⟨size, rfl, by omega, within, fun other base mirrors => ?_⟩
      have room := mirrors.otherWithin
      rw [jpegSegments_marker (by omega) (elsewhere other base _ mirrors (by omega)), if_neg more, if_pos alone]
      exact again other base mirrors
    · obtain ⟨more, segmented, single, long, fits, rest⟩ := segment
      obtain ⟨size, rfl, lower, within, again⟩ := ih _ (by omega) (by omega) rest rfl
      refine ⟨size, rfl, by omega, within, fun other base mirrors => ?_⟩
      have room := mirrors.otherWithin
      have word := mirrors_wordAt mirrors .big (show start ≤ after by omega) (show after + 2 ≤ start + size by omega)
      rw [jpegSegments_marker (by omega) (elsewhere other base _ mirrors (by omega)), word, if_neg more, if_neg segmented,
        if_neg single, if_neg (by omega), if_neg (by omega), if_neg (by omega), ← again other base mirrors]
      congr 1
      omega

theorem detectJpeg_sound : SoundDetector detectJpeg 0xFF := by
  have cases_ : ∀ {data start found}, detectJpeg data start = some found →
      slice data start 2 = [0xFF, 0xD8] ∧ jpegSegments data start (start + 2) = some found := by
    intro data start found ran
    unfold detectJpeg at ran
    split at ran
    · cases ran
    · rename_i same
      exact ⟨not_not.mp (not_or.mp same).2, ran⟩
  refine ⟨fun ran => slice_head (cases_ ran).1, fun ran => ?_, fun ran => ?_, fun ran _ => ?_, fun ran _ sized mirrors => ?_⟩
  all_goals obtain ⟨size, rfl, lower, upper, elsewhere⟩ := jpegSegments_found (Nat.le_add_right ..) (cases_ ran).2
  · rfl
  · exact certain_le
  · exact ⟨size, rfl, by omega, upper⟩
  · cases sized
    have again := elsewhere _ _ mirrors
    have room := mirrors.otherWithin
    rw [Nat.add_sub_cancel_left] at again
    rw [detectJpeg, ← mirrors.first (by omega), if_neg (not_or.mpr ⟨by omega, not_not.mpr (cases_ ran).1⟩), again]
    rfl

end Jpeg

section Riff
variable {data other : Bytes} {start base size cursor : Nat}

/-- The loop over the chunks reads nothing outside of the declared extent. -/
theorem riffChunks_mirrors (mirrors : Mirrors data start other base size) (behind : start ≤ cursor) (codecTag : Option Nat)
    (count : Nat) : riffChunks other (base + size) (base + (cursor - start)) codecTag count =
      riffChunks data (start + size) cursor codecTag count := by
  induction left : start + size - cursor using Nat.strongRecOn generalizing cursor codecTag count with
  | ind n ih =>
    rw [riffChunks, riffChunks.eq_def data]
    by_cases inside : cursor < start + size
    · rw [if_pos inside, if_pos (by omega)]
      by_cases header : start + size < cursor + 8
      · rw [if_pos header, if_pos (by omega)]
      · have word := mirrors_wordAt mirrors .little (show start ≤ cursor + 4 by omega) (show cursor + 4 + 4 ≤ start + size by omega)
        have chunk := mirrors.sliceAt behind (show cursor + 4 ≤ start + size by omega)
        rw [Nat.sub_add_comm behind, ← Nat.add_assoc] at word
        rw [if_neg header, if_neg (by omega), word, ← chunk]
        dsimp only
        by_cases long : start + size < cursor + 8 + wordAt .little data (cursor + 4) 4
        · rw [if_pos long, if_pos (by omega)]
        · rw [if_neg long, if_neg (by omega)]
          by_cases padded : start + size < cursor + 8 + wordAt .little data (cursor + 4) 4 + wordAt .little data (cursor + 4) 4 % 2
          · rw [if_pos padded, if_pos (by omega)]
          · rw [if_neg padded, if_neg (by omega)]
            have tag : (if slice data cursor 4 = [0x66, 0x6D, 0x74, 0x20] ∧ 2 ≤ wordAt .little data (cursor + 4) 4 then
                some (wordAt .little other (base + (cursor - start) + 8) 2) else codecTag) =
                if slice data cursor 4 = [0x66, 0x6D, 0x74, 0x20] ∧ 2 ≤ wordAt .little data (cursor + 4) 4 then
                  some (wordAt .little data (cursor + 8) 2) else codecTag := by
              split
              · rename_i format
                have inner := mirrors_wordAt mirrors .little (show start ≤ cursor + 8 by omega)
                  (show cursor + 8 + 2 ≤ start + size by omega)
                rw [Nat.sub_add_comm behind, ← Nat.add_assoc] at inner
                rw [inner]
              · rfl
            rw [tag, ← ih _ (by omega) (by omega) _ _ rfl]
            congr 1
            omega
    · rw [if_neg inside, if_neg (by omega)]

def riffMatch (start size : Nat) (codecTag : Option Nat) (chunkCount : Nat) : ResourceFormatMatch where
  offset := start
  format := if codecTag.any (· ∈ atracCodecTags) then "at3" else "wav"
  kind := "audio"
  size := some size
  confidence := 1
  evidence := ["riff_signature", "wave_form", "bounded_declared_extent"] ++
    if codecTag.any (· ∈ atracCodecTags) then ["atrac_codec"] else []
  extractable := true
  suggestedExtension := some (if codecTag.any (· ∈ atracCodecTags) then "at3" else "wav")
  metadata := ("chunk_count", .number chunkCount) :: (codecTag.map fun tag => ("codec_tag", .number tag)).toList

/-- What `detect_riff` asks of the data. -/
structure RiffAt (data : Bytes) (start size : Nat) (codecTag : Option Nat) (chunkCount : Nat) : Prop where
  signature : slice data start 4 = [0x52, 0x49, 0x46, 0x46]
  declared : wordAt .little data (start + 4) 4 + 8 = size
  minimal : 12 ≤ size
  within : start + size ≤ data.length
  form : slice data (start + 8) 4 = [0x57, 0x41, 0x56, 0x45]
  chunks : riffChunks data (start + size) (start + 12) none 0 = some (codecTag, chunkCount)

theorem detectRiff_eq_some {found : ResourceFormatMatch} : detectRiff data start = some found ↔
    ∃ size codecTag chunkCount, RiffAt data start size codecTag chunkCount ∧ found = riffMatch start size codecTag chunkCount := by
  constructor
  · intro ran
    unfold detectRiff at ran
    split at ran
    · cases ran
    · rename_i head
      obtain ⟨_, signature⟩ := not_or.mp head
      dsimp only at ran
      split at ran
      · cases ran
      · rename_i sized
        obtain ⟨minimal, within⟩ := not_or.mp sized
        split at ran
        · cases ran
        · rename_i form
          split at ran
          · cases ran
          · rename_i codecTag chunkCount chunks
            exact ⟨_, codecTag, chunkCount, ⟨not_not.mp signature, rfl, Nat.le_of_not_lt minimal, Nat.le_of_not_lt within,
              not_not.mp form, chunks⟩, (Option.some.inj ran).symm⟩
  · rintro ⟨size, codecTag, chunkCount, ⟨signature, rfl, minimal, within, form, chunks⟩, rfl⟩
    rw [detectRiff, if_neg (not_or.mpr ⟨by omega, not_not.mpr signature⟩)]
    dsimp only
    rw [if_neg (by omega), if_neg (not_not.mpr form), chunks]
    rfl

theorem RiffAt.mirrors {codecTag : Option Nat} {chunkCount : Nat} (here : RiffAt data start size codecTag chunkCount)
    (mirrors : Mirrors data start other base size) : RiffAt other base size codecTag chunkCount where
  signature := (mirrors.first (show 4 ≤ size from Nat.le_trans (by decide) here.minimal)).symm.trans here.signature
  declared := by
    have minimal := here.minimal
    have word := mirrors_wordAt mirrors .little (Nat.le_add_right start 4) (show start + 4 + 4 ≤ start + size by omega)
    rw [Nat.add_sub_cancel_left] at word
    rw [word, here.declared]
  minimal := here.minimal
  within := mirrors.otherWithin
  form := (mirrors.slice (show 8 + 4 ≤ size from here.minimal)).symm.trans here.form
  chunks := by
    have same := riffChunks_mirrors mirrors (Nat.le_add_right start 12) none 0
    rw [Nat.add_sub_cancel_left] at same
    rw [same, here.chunks]

theorem detectRiff_sound : SoundDetector detectRiff 0x52 := by
  refine ⟨fun ran => ?_, fun ran => ?_, fun ran => ?_, fun ran _ => ?_, fun ran _ sized mirrors => ?_⟩
  all_goals obtain ⟨size, codecTag, chunkCount, here, rfl⟩ := detectRiff_eq_some.mp ran
  · exact slice_head here.signature
  · rfl
  · exact certain_le
  · exact ⟨size, rfl, by have := here.minimal; omega, here.within⟩
  · cases sized
    exact detectRiff_eq_some.mpr ⟨_, codecTag, chunkCount, here.mirrors mirrors, rfl⟩

end Riff

section Headers
variable {data other : Bytes} {start base size : Nat} {found : ResourceFormatMatch}

def vagMatch (start version payloadSize sampleRate : Nat) : ResourceFormatMatch where
  offset := start
  format := "vag"
  kind := "audio"
  size := some (0x30 + payloadSize)
  confidence := 1
  evidence := ["vag_signature", "vag_header_fields", "bounded_declared_extent"]
  extractable := true
  suggestedExtension := some "vag"
  metadata := [("version", .number version), ("sample_rate", .number sampleRate), ("payload_size", .number payloadSize)]

/-- What `detect_vag` asks of the data. -/
structure VagAt (data : Bytes) (start version payloadSize sampleRate : Nat) : Prop where
  signature : slice data start 4 = [0x56, 0x41, 0x47, 0x70]
  versionField : wordAt .big data (start + 4) 4 = version
  payloadField : wordAt .big data (start + 12) 4 = payloadSize
  rateField : wordAt .big data (start + 16) 4 = sampleRate
  positive : version ≠ 0 ∧ payloadSize ≠ 0
  range : 4000 ≤ sampleRate ∧ sampleRate ≤ 192000
  within : start + (0x30 + payloadSize) ≤ data.length

theorem detectVag_eq_some : detectVag data start = some found ↔ ∃ version payloadSize sampleRate,
    VagAt data start version payloadSize sampleRate ∧ found = vagMatch start version payloadSize sampleRate := by
  constructor
  · intro ran
    unfold detectVag at ran
    split at ran
    · cases ran
    · rename_i head
      obtain ⟨_, signature⟩ := not_or.mp head
      dsimp only at ran
      split at ran
      · cases ran
      · rename_i fields
        obtain ⟨version, payload, rate⟩ := not_or.mp fields |>.imp_right not_or.mp
        split at ran
        · cases ran
        · rename_i within
          exact ⟨_, _, _, ⟨not_not.mp signature, rfl, rfl, rfl, ⟨version, payload⟩, not_not.mp rate, Nat.le_of_not_lt within⟩,
            (Option.some.inj ran).symm⟩
  · rintro ⟨version, payloadSize, sampleRate, ⟨signature, rfl, rfl, rfl, positive, range, within⟩, rfl⟩
    rw [detectVag, if_neg (not_or.mpr ⟨by omega, not_not.mpr signature⟩)]
    dsimp only
    rw [if_neg (not_or.mpr ⟨positive.1, not_or.mpr ⟨positive.2, not_not.mpr range⟩⟩), if_neg (Nat.not_lt.mpr within)]
    rfl

theorem VagAt.mirrors {version payloadSize sampleRate : Nat} (here : VagAt data start version payloadSize sampleRate)
    (mirrors : Mirrors data start other base (0x30 + payloadSize)) : VagAt other base version payloadSize sampleRate := by
  have word : ∀ i, i + 4 ≤ 0x30 → wordAt .big other (base + i) 4 = wordAt .big data (start + i) 4 := by
    intro i header
    have same := mirrors_wordAt mirrors .big (Nat.le_add_right start i) (show start + i + 4 ≤ start + (0x30 + payloadSize) by omega)
    rwa [Nat.add_sub_cancel_left] at same
  exact ⟨(mirrors.first (by omega)).symm.trans here.signature, (word 4 (by decide)).trans here.versionField,
    (word 12 (by decide)).trans here.payloadField, (word 16 (by decide)).trans here.rateField, here.positive, here.range,
    mirrors.otherWithin⟩

theorem detectVag_sound : SoundDetector detectVag 0x56 := by
  refine ⟨fun ran => ?_, fun ran => ?_, fun ran => ?_, fun ran _ => ?_, fun ran _ sized mirrors => ?_⟩
  all_goals obtain ⟨version, payloadSize, sampleRate, here, rfl⟩ := detectVag_eq_some.mp ran
  · exact slice_head here.signature
  · rfl
  · exact certain_le
  · exact ⟨_, rfl, by omega, here.within⟩
  · cases sized
    exact detectVag_eq_some.mpr ⟨version, payloadSize, sampleRate, here.mirrors mirrors, rfl⟩

/-- A match without a known extent is never extractable. -/
theorem detectGim_sound : SoundDetector detectGim 0x4D := by
  have cases_ : ∀ {data start found}, detectGim data start = some found → slice data start 11 = gimSignature ∧
      found.offset = start ∧ found.confidence = 9 / 10 ∧ found.extractable = false := by
    intro data start found ran
    unfold detectGim at ran
    split at ran
    · cases ran
    · rename_i head
      cases ran
      exact ⟨not_not.mp (not_or.mp head).1, rfl, rfl, rfl⟩
  refine ⟨fun ran => slice_head (cases_ ran).1, fun ran => (cases_ ran).2.1, fun ran => (cases_ ran).2.2.1.ge,
    fun ran extractable => ?_, fun ran extractable => ?_⟩
  all_goals
    rw [(cases_ ran).2.2.2] at extractable
    cases extractable

/-- The match of a stream, with its size where that is within the data. -/
def psmfMatch (start : Nat) (versionBytes : Bytes) (streamOffset streamSize : Nat) (bounded : Bool) : ResourceFormatMatch where
  offset := start
  format := "pmf"
  kind := "video"
  size := if bounded then some (streamOffset + streamSize) else none
  confidence := if bounded then 1 else 19 / 20
  evidence := ["psmf_signature", "psmf_version", "psmf_stream_offset", "psmf_stream_size"] ++
    if bounded then ["bounded_declared_extent"] else []
  extractable := bounded
  suggestedExtension := some "pmf"
  metadata := [("version", .text (decodeAscii versionBytes)), ("stream_offset", .number streamOffset),
    ("stream_size", .number streamSize)]

/-- What `detect_psmf` asks of the data. -/
structure PsmfAt (data : Bytes) (start : Nat) (versionBytes : Bytes) (streamOffset streamSize : Nat) : Prop where
  header : start + 16 ≤ data.length
  signature : slice data start 4 = [0x50, 0x53, 0x4D, 0x46]
  versionField : slice data (start + 4) 4 = versionBytes
  known : versionBytes ∈ psmfVersions
  offsetField : wordAt .big data (start + 8) 4 = streamOffset
  sizeField : wordAt .big data (start + 12) 4 = streamSize
  aligned : ¬(streamOffset = 0 ∨ streamOffset % 0x800 ≠ 0 ∨ streamSize = 0)

theorem detectPsmf_eq_some : detectPsmf data start = some found ↔ ∃ versionBytes streamOffset streamSize,
    PsmfAt data start versionBytes streamOffset streamSize ∧
      found = psmfMatch start versionBytes streamOffset streamSize (start + (streamOffset + streamSize) ≤ data.length) := by
  have built : ∀ versionBytes streamOffset streamSize, PsmfAt data start versionBytes streamOffset streamSize →
      detectPsmf data start =
        some (psmfMatch start versionBytes streamOffset streamSize (start + (streamOffset + streamSize) ≤ data.length)) := by
    rintro versionBytes streamOffset streamSize ⟨header, signature, rfl, known, rfl, rfl, aligned⟩
    rw [detectPsmf, if_neg (not_or.mpr ⟨Nat.not_lt.mpr header, not_not.mpr signature⟩)]
    dsimp only
    rw [if_neg (not_not.mpr known), if_neg aligned, psmfMatch]
    simp only [decide_eq_true_eq]
  constructor
  · intro ran
    have here : PsmfAt data start (slice data (start + 4) 4) (wordAt .big data (start + 8) 4) (wordAt .big data (start + 12) 4) := by
      unfold detectPsmf at ran
      split at ran
      · cases ran
      · rename_i head
        obtain ⟨header, signature⟩ := not_or.mp head
        dsimp only at ran
        split at ran
        · cases ran
        · rename_i known
          split at ran
          · cases ran
          · rename_i aligned
            exact ⟨Nat.le_of_not_lt header, not_not.mp signature, rfl, not_not.mp known, rfl, rfl, aligned⟩
    exact ⟨_, _, _, here, Option.some.inj (ran.symm.trans (built _ _ _ here))⟩
  · rintro ⟨versionBytes, streamOffset, streamSize, here, rfl⟩
    exact built _ _ _ here

/-- A stream begins behind its header. -/
theorem PsmfAt.behind {versionBytes : Bytes} {streamOffset streamSize : Nat}
    (here : PsmfAt data start versionBytes streamOffset streamSize) : 16 ≤ streamOffset + streamSize := by
  have aligned := here.aligned
  omega

theorem PsmfAt.mirrors {versionBytes : Bytes} {streamOffset streamSize : Nat}
    (here : PsmfAt data start versionBytes streamOffset streamSize)
    (mirrors : Mirrors data start other base (streamOffset + streamSize)) :
    PsmfAt other base versionBytes streamOffset streamSize := by
  have behind := here.behind
  have word : ∀ i, i + 4 ≤ 16 → wordAt .big other (base + i) 4 = wordAt .big data (start + i) 4 := by
    intro i header
    have same := mirrors_wordAt mirrors .big (Nat.le_add_right start i)
      (show start + i + 4 ≤ start + (streamOffset + streamSize) by omega)
    rwa [Nat.add_sub_cancel_left] at same
  have room := mirrors.otherWithin
  exact ⟨by omega, (mirrors.first (by omega)).symm.trans here.signature,
    (mirrors.slice (by omega)).symm.trans here.versionField, here.known, (word 8 (by decide)).trans here.offsetField,
    (word 12 (by decide)).trans here.sizeField, here.aligned⟩

theorem detectPsmf_sound : SoundDetector detectPsmf 0x50 := by
  refine ⟨fun ran => ?_, fun ran => ?_, fun ran => ?_, fun ran extractable => ?_, fun ran extractable sized mirrors => ?_⟩
  all_goals obtain ⟨versionBytes, streamOffset, streamSize, here, rfl⟩ := detectPsmf_eq_some.mp ran
  · exact slice_head here.signature
  · rfl
  · unfold psmfMatch
    dsimp only
    split
    · exact certain_le
    · norm_num
  · have within := of_decide_eq_true extractable
    have behind := here.behind
    exact ⟨_, if_pos extractable, by omega, within⟩
  · have bounded : decide _ = true := extractable
    cases (if_pos bounded).symm.trans sized
    refine detectPsmf_eq_some.mpr ⟨versionBytes, streamOffset, streamSize, here.mirrors mirrors, ?_⟩
    rw [bounded, decide_eq_true mirrors.otherWithin]
    rfl

end Headers

end PspDisasm
