import PspDisasm.Elf32
import Mathlib.Data.Prod.Lex
import Mathlib.Data.List.Sort
import Mathlib.Data.Rat.Defs
import Mathlib.Algebra.Order.Ring.Rat
import Mathlib.Data.String.Basic

namespace PspDisasm
open Foundations

/-- What the metadata of a resource holds under a key. -/
inductive MetadataValue
  | number (value : Nat)
  | text (value : String)
deriving DecidableEq, Repr

structure ResourceFormatMatch where
  offset : Nat
  format : String
  kind : String
  size : Option Nat
  confidence : Rat
  evidence : List String
  extractable : Bool
  suggestedExtension : Option String
  metadata : List (String × MetadataValue)
deriving DecidableEq

def pngSignature : Bytes := [0x89, 0x50, 0x4E, 0x47, 0x0D, 0x0A, 0x1A, 0x0A]

/-- The bytes of `MIG.00.1PSP`. -/
def gimSignature : Bytes := [0x4D, 0x49, 0x47, 0x2E, 0x30, 0x30, 0x2E, 0x31, 0x50, 0x53, 0x50]

def atracCodecTags : List Nat := [0x0270, 0x0271]

/-- The versions `0012` to `0015`. -/
def psmfVersions : List Bytes :=
  [[0x30, 0x30, 0x31, 0x32], [0x30, 0x30, 0x31, 0x33], [0x30, 0x30, 0x31, 0x34], [0x30, 0x30, 0x31, 0x35]]

section Png

/-- The loop over the chunks. -/
def pngChunks (data : Bytes) (start cursor chunkCount : Nat) : Option ResourceFormatMatch :=
  if cursor + 12 ≤ data.length then
    let length := wordAt .big data cursor 4
    let chunkEnd := cursor + 12 + length
    if data.length < chunkEnd then none
    -- `IEND`
    else if slice data (cursor + 4) 4 = [0x49, 0x45, 0x4E, 0x44] then
      if length ≠ 0 then none
      else some
        { offset := start, format := "png", kind := "image", size := some (chunkEnd - start), confidence := 1
          evidence := ["png_signature", "png_iend", "bounded_extent"], extractable := true, suggestedExtension := some "png"
          metadata := [("chunk_count", .number (chunkCount + 1))] }
    else pngChunks data start chunkEnd (chunkCount + 1)
  else none
termination_by data.length - cursor

def detectPng (data : Bytes) (start : Nat) : Option ResourceFormatMatch :=
  if slice data start 8 ≠ pngSignature then none else pngChunks data start (start + 8) 0

end Png

section Jpeg

/-- The end of a run of fill bytes. -/
def jpegFill (data : Bytes) (cursor : Nat) : Nat :=
  if cursor < data.length ∧ data[cursor]? = some 0xFF then jpegFill data (cursor + 1) else cursor
termination_by data.length - cursor

theorem jpegFill_le (data : Bytes) (cursor : Nat) : cursor ≤ jpegFill data cursor := by
  induction cursor using jpegFill.induct data with
  | case1 cursor fill ih =>
    rw [jpegFill, if_pos fill]
    omega
  | case2 cursor ended => rw [jpegFill, if_neg ended]

/-- The next marker that is no escaped `FF`, with the position behind it. -/
def jpegNextMarker (data : Bytes) (cursor : Nat) : Option (UInt8 × Nat) :=
  if cursor < data.length then
    if data[cursor]? ≠ some 0xFF then jpegNextMarker data (cursor + 1)
    else
      match data[jpegFill data cursor]? with
      | none => none
      | some marker =>
        if marker = 0 then jpegNextMarker data (jpegFill data cursor + 1) else some (marker, jpegFill data cursor + 1)
  else none
termination_by data.length - cursor
decreasing_by
  · omega
  · have behind := jpegFill_le data cursor
    omega

theorem jpegNextMarker_behind {data : Bytes} {cursor after : Nat} {marker : UInt8}
    (found : jpegNextMarker data cursor = some (marker, after)) : cursor < after := by
  induction cursor using jpegNextMarker.induct data with
  | case1 cursor inside other ih =>
    rw [jpegNextMarker, if_pos inside, if_pos other] at found
    exact Nat.lt_of_succ_lt (ih found)
  | case2 cursor inside fill ended =>
    rw [jpegNextMarker, if_pos inside, if_neg fill, ended] at found
    cases found
  | case3 cursor inside fill escaped ih =>
    rw [jpegNextMarker, if_pos inside, if_neg fill, escaped] at found
    have behind := jpegFill_le data cursor
    have later := ih found
    omega
  | case4 cursor inside fill marker present other =>
    rw [jpegNextMarker, if_pos inside, if_neg fill, present] at found
    simp only [if_neg other] at found
    cases found
    exact Nat.lt_succ_of_le (jpegFill_le data cursor)
  | case5 cursor ended =>
    rw [jpegNextMarker, if_neg ended] at found
    cases found

/-- The loop over the segments. -/
def jpegSegments (data : Bytes) (start cursor : Nat) : Option ResourceFormatMatch :=
  if cursor < data.length then
    match _found : jpegNextMarker data cursor with
    | none => none
    | some (marker, after) =>
      if marker = 0xD9 then some
        { offset := start, format := "jpeg", kind := "image", size := some (after - start), confidence := 1
          evidence := ["jpeg_soi", "jpeg_eoi", "bounded_extent"], extractable := true, suggestedExtension := some "jpg"
          metadata := [] }
      else if (0xD0 ≤ marker ∧ marker ≤ 0xD7) ∨ marker = 0x01 then jpegSegments data start after
      else if marker = 0xD8 then none
      else if data.length < after + 2 then none
      else
        let segmentLength := wordAt .big data after 2
        if segmentLength < 2 then none
        else if data.length < after + segmentLength then none
        else jpegSegments data start (after + segmentLength)
  else none
termination_by data.length - cursor
decreasing_by
  all_goals have behind := jpegNextMarker_behind _found
  · omega
  · omega

def detectJpeg (data : Bytes) (start : Nat) : Option ResourceFormatMatch :=
  if data.length < start + 2 ∨ slice data start 2 ≠ [0xFF, 0xD8] then none else jpegSegments data start (start + 2)

end Jpeg

section Riff

/-- The loop over the chunks, with the codec tag and the number of chunks so far. -/
def riffChunks (data : Bytes) (stop cursor : Nat) (codecTag : Option Nat) (chunkCount : Nat) : Option (Option Nat × Nat) :=
  if cursor < stop then
    if stop < cursor + 8 then none
    else
      let chunkSize := wordAt .little data (cursor + 4) 4
      let chunkStart := cursor + 8
      let chunkEnd := chunkStart + chunkSize
      if stop < chunkEnd then none
      else
        -- `fmt `
        let codecTag := if slice data cursor 4 = [0x66, 0x6D, 0x74, 0x20] ∧ 2 ≤ chunkSize then
          some (wordAt .little data chunkStart 2) else codecTag
        let next := chunkEnd + chunkSize % 2
        if stop < next then none else riffChunks data stop next codecTag (chunkCount + 1)
  else some (codecTag, chunkCount)
termination_by stop - cursor

def detectRiff (data : Bytes) (start : Nat) : Option ResourceFormatMatch :=
  -- `RIFF` and `WAVE`
  if data.length < start + 12 ∨ slice data start 4 ≠ [0x52, 0x49, 0x46, 0x46] then none
  else
    let totalSize := wordAt .little data (start + 4) 4 + 8
    if totalSize < 12 ∨ data.length < start + totalSize then none
    else if slice data (start + 8) 4 ≠ [0x57, 0x41, 0x56, 0x45] then none
    else
      match riffChunks data (start + totalSize) (start + 12) none 0 with
      | none => none
      | some (codecTag, chunkCount) =>
        let isAtrac := codecTag.any (· ∈ atracCodecTags)
        let format := if isAtrac then "at3" else "wav"
        some
          { offset := start, format := format, kind := "audio", size := some totalSize, confidence := 1
            evidence := ["riff_signature", "wave_form", "bounded_declared_extent"] ++ if isAtrac then ["atrac_codec"] else []
            extractable := true, suggestedExtension := some format
            metadata := ("chunk_count", .number chunkCount) :: (codecTag.map fun tag => ("codec_tag", .number tag)).toList }

end Riff

section Headers

def detectVag (data : Bytes) (start : Nat) : Option ResourceFormatMatch :=
  -- `VAGp`
  if data.length < start + 0x30 ∨ slice data start 4 ≠ [0x56, 0x41, 0x47, 0x70] then none
  else
    let version := wordAt .big data (start + 4) 4
    let payloadSize := wordAt .big data (start + 12) 4
    let sampleRate := wordAt .big data (start + 16) 4
    if version = 0 ∨ payloadSize = 0 ∨ ¬(4000 ≤ sampleRate ∧ sampleRate ≤ 192000) then none
    else
      let totalSize := 0x30 + payloadSize
      if data.length < start + totalSize then none
      else some
        { offset := start, format := "vag", kind := "audio", size := some totalSize, confidence := 1
          evidence := ["vag_signature", "vag_header_fields", "bounded_declared_extent"], extractable := true
          suggestedExtension := some "vag"
          metadata := [("version", .number version), ("sample_rate", .number sampleRate), ("payload_size", .number payloadSize)] }

def detectGim (data : Bytes) (start : Nat) : Option ResourceFormatMatch :=
  if slice data start 11 ≠ gimSignature ∨ data.length < start + 16 then none
  else some
    { offset := start, format := "gim", kind := "image", size := none, confidence := 9 / 10
      evidence := ["gim_psp_signature", "minimum_header_available"], extractable := false
      suggestedExtension := some "gim", metadata := [] }

def detectPsmf (data : Bytes) (start : Nat) : Option ResourceFormatMatch :=
  -- `PSMF`
  if data.length < start + 16 ∨ slice data start 4 ≠ [0x50, 0x53, 0x4D, 0x46] then none
  else
    let versionBytes := slice data (start + 4) 4
    if versionBytes ∉ psmfVersions then none
    else
      let streamOffset := wordAt .big data (start + 8) 4
      let streamSize := wordAt .big data (start + 12) 4
      if streamOffset = 0 ∨ streamOffset % 0x800 ≠ 0 ∨ streamSize = 0 then none
      else
        let totalSize := streamOffset + streamSize
        let bounded := start + totalSize ≤ data.length
        some
          { offset := start, format := "pmf", kind := "video", size := if bounded then some totalSize else none
            confidence := if bounded then 1 else 19 / 20
            evidence := ["psmf_signature", "psmf_version", "psmf_stream_offset", "psmf_stream_size"] ++
              if bounded then ["bounded_declared_extent"] else []
            extractable := bounded, suggestedExtension := some "pmf"
            metadata := [("version", .text (decodeAscii versionBytes)), ("stream_offset", .number streamOffset),
              ("stream_size", .number streamSize)] }

end Headers

section Scan

def resourceDetectors : List (Bytes → Nat → Option ResourceFormatMatch) :=
  [detectPng, detectJpeg, detectRiff, detectVag, detectGim, detectPsmf]

/-- The key by which the candidates at a position are sorted. -/
def candidateKey (candidate : ResourceFormatMatch) : Rat ×ₗ Nat ×ₗ String :=
  toLex (-candidate.confidence,
    toLex (if candidate.extractable ∧ candidate.size.any (· ≠ 0) then 0 else 1, candidate.format))

/-- No detector raises: a slice and `int.from_bytes` take what is there. -/
def detectResourceAt (data : Bytes) (offset : Int) : Option ResourceFormatMatch :=
  if offset < 0 ∨ data.length ≤ offset then none
  else
    let candidates := resourceDetectors.filterMap fun detector => detector data offset.toNat
    (candidates.insertionSort fun first second => candidateKey first ≤ candidateKey second).head?

/-- How far the cursor moves on from a match. -/
def ResourceFormatMatch.jump (candidate : ResourceFormatMatch) : Nat :=
  match candidate.extractable, candidate.size with
  | true, some (size + 1) => size + 1
  | _, _ => 1

theorem ResourceFormatMatch.jump_pos (candidate : ResourceFormatMatch) : 0 < candidate.jump := by
  unfold jump
  split
  · exact Nat.succ_pos _
  · exact Nat.one_pos

/-- The loop of `scan_resource_bytes`. -/
def scanFrom (data : Bytes) (minimumConfidence : Rat) (cursor : Nat) : List ResourceFormatMatch :=
  if cursor < data.length then
    match detectResourceAt data cursor with
    | none => scanFrom data minimumConfidence (cursor + 1)
    | some candidate =>
      if candidate.confidence < minimumConfidence then scanFrom data minimumConfidence (cursor + 1)
      else candidate :: scanFrom data minimumConfidence (cursor + candidate.jump)
  else []
termination_by data.length - cursor
decreasing_by
  · omega
  · omega
  · have forward := candidate.jump_pos
    omega

def scanResourceBytes (data : Bytes) (minimumConfidence : Rat) : List ResourceFormatMatch := scanFrom data minimumConfidence 0

end Scan

end PspDisasm
