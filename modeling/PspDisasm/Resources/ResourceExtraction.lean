import PspDisasm.Model
import PspDisasm.Resources.ResourceScan

namespace PspDisasm
open Foundations

def maxEmbeddedScanBytes : Nat := 64 * 1024 * 1024
def maxLooseProbeBytes : Nat := 1024 * 1024

/-- What is recorded of a file whose format is known. -/
structure FileFields where
  format : String
  kind : String
  confidence : Rat
  evidence : List String
  suggestedExtension : Option String
  metadata : List (String × MetadataValue)
deriving DecidableEq

def FileFields.unknown : FileFields := ⟨"unknown", "unknown", 0, [], none, []⟩

def ResourceFormatMatch.fields (found : ResourceFormatMatch) : FileFields :=
  ⟨found.format, found.kind, found.confidence, found.evidence, found.suggestedExtension, found.metadata⟩

/-- `_known_file_fields`. -/
def knownFileFields : Option ResourceFormatMatch → FileFields
  | none => .unknown
  | some found => if found.offset ≠ 0 ∨ found.confidence < 9 / 10 then .unknown else found.fields

/-- `_classify_extracted_entry` of a file with these contents. Of a large file it reads a probe. -/
def classifyExtractedEntry (contents : Bytes) (size : Nat) : FileFields :=
  let data := if size ≤ maxEmbeddedScanBytes then contents else contents.take (min size maxLooseProbeBytes)
  knownFileFields (if data = [] then none else detectResourceAt data 0)

/-- The bytes that `_write_embedded` writes for a match, where it writes any. -/
def embeddedContents (data : Bytes) (found : ResourceFormatMatch) : Option Bytes :=
  match found.extractable, found.size with
  | true, some size => if size = 0 ∨ data.length < found.offset + size then none else some (slice data found.offset size)
  | _, _ => none

structure AssetRecord where
  address : Int
  fileOffset : Nat
  section_ : String
  format : String
  kind : String
  size : Option Nat
  confidence : Rat
  evidence : List String
  extractable : Bool
  suggestedExtension : Option String
  metadata : List (String × MetadataValue)
deriving DecidableEq

def sectionAsset (sec : Section) (found : ResourceFormatMatch) : AssetRecord where
  address := sec.addr + found.offset
  fileOffset := sec.offset + found.offset
  section_ := sec.name
  format := found.format
  kind := found.kind
  size := found.size
  confidence := found.confidence
  evidence := found.evidence
  extractable := found.extractable
  suggestedExtension := found.suggestedExtension
  metadata := found.metadata

/-- `_scan_section`: the assets and the warnings. -/
def scanSection (elf : ElfImage) (sec : Section) : List AssetRecord × List String :=
  if elf.rawData.length < sec.offset + sec.size then ([], [s!"Skipped out-of-bounds asset section {sec.label}"])
  else ((scanResourceBytes (slice elf.rawData sec.offset sec.size) (9 / 10)).map (sectionAsset sec), [])

/-- The match that an asset records, at its place in the file. -/
def AssetRecord.fileMatch (asset : AssetRecord) : ResourceFormatMatch where
  offset := asset.fileOffset
  format := asset.format
  kind := asset.kind
  size := asset.size
  confidence := asset.confidence
  evidence := asset.evidence
  extractable := asset.extractable
  suggestedExtension := asset.suggestedExtension
  metadata := asset.metadata

section Laws
variable {data : Bytes} {offset : Int} {found : ResourceFormatMatch} {size : Nat}

/-- A match that may be cut out is found again in what was cut out, with anything behind it. -/
theorem DetectedAt.cut (detected : DetectedAt data offset found) (extractable : found.extractable = true)
    (sized : found.size = some size) (suffix : Bytes) :
    detectResourceAt (slice data found.offset size ++ suffix) 0 = some { found with offset := 0 } := by
  obtain ⟨same, again, _, within⟩ := detected.extent extractable
  cases sized.symm.trans again
  exact detected.extentOnly extractable sized (.cut within suffix)

theorem DetectedAt.cut_alone (detected : DetectedAt data offset found) (extractable : found.extractable = true)
    (sized : found.size = some size) : detectResourceAt (slice data found.offset size) 0 = some { found with offset := 0 } := by
  have again := detected.cut extractable sized []
  rwa [List.append_nil] at again

theorem knownFileFields_found (confidence : 9 / 10 ≤ found.confidence) :
    knownFileFields (some { found with offset := 0 }) = found.fields :=
  if_neg (not_or.mpr ⟨not_not.mpr rfl, Rat.not_lt.mpr confidence⟩)

/-- What `_write_embedded` writes is classified as the match that it was written for. -/
theorem DetectedAt.written (detected : DetectedAt data offset found) (extractable : found.extractable = true)
    (sized : found.size = some size) (small : size ≤ maxEmbeddedScanBytes) :
    embeddedContents data found = some (slice data found.offset size) ∧
      classifyExtractedEntry (slice data found.offset size) size = found.fields := by
  obtain ⟨same, again, positive, within⟩ := detected.extent extractable
  cases sized.symm.trans again
  have length := slice_length within
  have nonempty : slice data found.offset size ≠ [] := List.ne_nil_of_length_pos (by omega)
  constructor
  · rw [embeddedContents, extractable, sized]
    exact if_neg (by omega)
  · rw [classifyExtractedEntry]
    simp only [if_pos small, if_neg nonempty]
    rw [detected.cut_alone extractable sized, knownFileFields_found detected.confidence]

/-- An asset of a section is what the whole file shows at its place. -/
theorem scanSection_detected {elf : ElfImage} {sec : Section} {asset : AssetRecord} (member : asset ∈ (scanSection elf sec).1)
    (extractable : asset.extractable = true) : detectResourceAt elf.rawData asset.fileOffset = some asset.fileMatch := by
  unfold scanSection at member
  split at member
  · cases member
  · rename_i within
    obtain ⟨found, listed, rfl⟩ := List.mem_map.mp member
    have covers := scanResourceBytes_iff.mpr (rfl : scanResourceBytes (slice elf.rawData sec.offset sec.size) (9 / 10) = _)
    have detected := detectedAt (covers.detected found listed).1
    obtain ⟨size, sized, _, inside⟩ := detected.extent extractable
    rw [slice_length (Nat.le_of_not_lt within)] at inside
    exact detected.extentOnly extractable sized (.part inside (Nat.le_of_not_lt within))

/-- What is detected depends on the extent of the match alone: cut out, written, or scanned in a part of the file, it is
the same. -/
theorem detection_extentOnly :
    (∀ data offset found, detectResourceAt data offset = some found → found.extractable = true →
      ∃ size, found.size = some size ∧ ∀ suffix,
        detectResourceAt (slice data found.offset size ++ suffix) 0 = some { found with offset := 0 }) ∧
    (∀ data minimumConfidence, data.length ≤ maxEmbeddedScanBytes → ∀ found ∈ scanResourceBytes data minimumConfidence,
      found.extractable = true → ∃ size contents, found.size = some size ∧ embeddedContents data found = some contents ∧
        classifyExtractedEntry contents size = found.fields) ∧
    (∀ elf sec, ∀ asset ∈ (scanSection elf sec).1, asset.extractable = true →
      ∃ size, asset.size = some size ∧ detectResourceAt elf.rawData asset.fileOffset = some asset.fileMatch ∧
        knownFileFields (detectResourceAt (slice elf.rawData asset.fileOffset size) 0) = asset.fileMatch.fields) := by
  refine ⟨?_, ?_, ?_⟩
  · intro data offset found ran extractable
    have detected := detectedAt ran
    obtain ⟨size, sized, _⟩ := detected.extent extractable
    exact ⟨size, sized, detected.cut extractable sized⟩
  · intro data minimumConfidence small found member extractable
    have covers := scanResourceBytes_iff.mpr (rfl : scanResourceBytes data minimumConfidence = _)
    have detected := detectedAt (covers.detected found member).1
    obtain ⟨size, sized, _, within⟩ := detected.extent extractable
    obtain ⟨written, classified⟩ := detected.written extractable sized (by omega)
    exact ⟨size, _, sized, written, classified⟩
  · intro elf sec asset member extractable
    have ran := scanSection_detected member extractable
    have detected := detectedAt ran
    obtain ⟨size, sized, _⟩ := detected.extent extractable
    refine ⟨size, sized, ran, ?_⟩
    rw [show slice elf.rawData asset.fileOffset size = slice elf.rawData asset.fileMatch.offset size from rfl,
      detected.cut_alone extractable sized, knownFileFields_found detected.confidence]

end Laws

/-- A sound of one byte behind its header. -/
def sampleVag : Bytes :=
  [0x56, 0x41, 0x47, 0x70, 0, 0, 0, 4, 0, 0, 0, 0, 0, 0, 0, 1, 0, 0, 0xAC, 0x44] ++ List.replicate 28 0 ++ [7]

def sampleSound : ResourceFormatMatch := vagMatch 0 4 1 44100

theorem sampleVag_detected : detectResourceAt sampleVag 0 = some sampleSound := by decide

theorem sampleVag_scanned (minimumConfidence : Rat) (low : minimumConfidence ≤ 1) :
    sampleSound ∈ scanResourceBytes sampleVag minimumConfidence := by
  rw [scanResourceBytes, scanFrom, if_pos (by decide), show detectResourceAt sampleVag ((0 : Nat) : Int) = _ from sampleVag_detected]
  dsimp only
  rw [if_neg (show ¬sampleSound.confidence < minimumConfidence from Rat.not_lt.mpr low)]
  exact List.mem_cons_self

/-- A file with the sound in a section. -/
def soundElf : ElfImage where
  header := ⟨2, 8, 1, 0, 0, 0, 0, 52, 32, 0, 40, 0, 0⟩
  endianness := .little
  programHeaders := []
  sections := []
  rawData := [0, 0, 0] ++ sampleVag
  numbered := .nil

def soundSection : Section := ⟨1, ".rodata", 1, 2, 0x08900000, 3, 49, 0, 0, 4, 0, .readonly⟩

theorem sampleVag_extentOnly :
    (∃ size, sampleSound.size = some size ∧ ∀ suffix,
      detectResourceAt (slice sampleVag sampleSound.offset size ++ suffix) 0 = some { sampleSound with offset := 0 }) ∧
    (∃ size contents, sampleSound.size = some size ∧ embeddedContents sampleVag sampleSound = some contents ∧
      classifyExtractedEntry contents size = sampleSound.fields) ∧
    ∃ size, (sectionAsset soundSection sampleSound).size = some size ∧
      detectResourceAt soundElf.rawData (sectionAsset soundSection sampleSound).fileOffset =
        some (sectionAsset soundSection sampleSound).fileMatch ∧
      knownFileFields (detectResourceAt (slice soundElf.rawData (sectionAsset soundSection sampleSound).fileOffset size) 0) =
        (sectionAsset soundSection sampleSound).fileMatch.fields := by
  obtain ⟨cut, written, scanned⟩ := detection_extentOnly
  refine ⟨cut sampleVag 0 _ sampleVag_detected rfl, written sampleVag 1 (by decide) _ (sampleVag_scanned 1 le_rfl) rfl, ?_⟩
  refine scanned soundElf soundSection _ ?_ rfl
  have inside : ¬soundElf.rawData.length < soundSection.offset + soundSection.size := by decide
  have part : slice soundElf.rawData soundSection.offset soundSection.size = sampleVag := by decide
  rw [scanSection, if_neg inside, part]
  exact List.mem_map_of_mem (sampleVag_scanned _ certain_le)

end PspDisasm
