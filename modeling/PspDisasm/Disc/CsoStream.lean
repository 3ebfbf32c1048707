import Mathlib.Data.List.GetD
import PspDisasm.Disc.CsoReader

namespace PspDisasm
open Foundations

/-- What a file object over bytes in memory does. -/
structure MemoryStream where
  content : Bytes
  position : Nat

namespace MemoryStream

abbrev StreamM := EStateM CsoFailure MemoryStream

def tell : StreamM Nat := fun stream => .ok stream.position stream

/-- The place from which an offset is counted. -/
def origin (stream : MemoryStream) (whence : Int) : Option Int :=
  if whence = 0 then some 0
  else if whence = 1 then some stream.position
  else if whence = 2 then some stream.content.length
  else none

def seek (offset whence : Int) : StreamM Nat := fun stream =>
  match stream.origin whence with
  | none => .error (.value s!"invalid whence ({whence})") stream
  | some origin =>
    if origin + offset < 0 then .error (.value "negative seek position") stream
    else .ok (origin + offset).toNat { stream with position := (origin + offset).toNat }

/-- How many bytes a call of `read` returns. -/
def length (stream : MemoryStream) (size : Option Int) : Nat :=
  match size.filter (0 ≤ ·) with
  | none => stream.content.length - stream.position
  | some size => min size.toNat (stream.content.length - stream.position)

def read (size : Option Int) : StreamM Bytes := fun stream =>
  .ok (slice stream.content stream.position (stream.length size)) { stream with position := stream.position + stream.length size }

def readinto (buffer : Bytes) : StreamM (Nat × Bytes) := do
  let data ← read (some buffer.length)
  return (data.length, data ++ buffer.drop data.length)

end MemoryStream

inductive StreamCall
  | tell
  | seek (offset whence : Int)
  | read (size : Option Int)
  | readinto (buffer : Bytes)

inductive StreamReply
  | position (value : Nat)
  | bytes (data : Bytes)
  | filled (count : Nat) (buffer : Bytes)
  | raised (failure : CsoFailure)
deriving DecidableEq

/-- What the caller sees of one call, and the state in which the next one begins. -/
def answered {σ α : Type} (reply : α → StreamReply) : EStateM.Result CsoFailure σ α → StreamReply × σ
  | .ok value next => (reply value, next)
  | .error failure next => (.raised failure, next)

def CsoReader.answer (decoders : BlockDecoders) (reader : CsoReader) : StreamCall → StreamReply × CsoReader
  | .tell => answered .position (CsoReader.tell reader)
  | .seek offset whence => answered .position (CsoReader.seek offset whence reader)
  | .read size => answered .bytes (CsoReader.read decoders size reader)
  | .readinto buffer => answered (fun filled => .filled filled.1 filled.2) (CsoReader.readinto decoders buffer reader)

def MemoryStream.answer (stream : MemoryStream) : StreamCall → StreamReply × MemoryStream
  | .tell => answered .position (MemoryStream.tell stream)
  | .seek offset whence => answered .position (MemoryStream.seek offset whence stream)
  | .read size => answered .bytes (MemoryStream.read size stream)
  | .readinto buffer => answered (fun filled => .filled filled.1 filled.2) (MemoryStream.readinto buffer stream)

/-- The replies to a sequence of calls. -/
def replies {σ : Type} (answer : σ → StreamCall → StreamReply × σ) : σ → List StreamCall → List StreamReply
  | _, [] => []
  | state, call :: calls => (answer state call).1 :: replies answer (answer state call).2 calls

section Blocks
variable (decoders : BlockDecoders) (image : CsoImage)

def CsoImage.Decodes : Prop := ∀ block < image.header.blockCount, ∃ decoded, image.decodeBlock decoders block = .ok decoded

/-- A decoded block, empty where it does not decode. -/
def CsoImage.decoded (block : Nat) : Bytes := (image.decodeBlock decoders block).toOption.getD []

def CsoImage.content : Bytes := (List.range image.header.blockCount).flatMap (image.decoded decoders)

end Blocks

section Blocks
variable {decoders : BlockDecoders} {image : CsoImage} {block : Nat} {decoded : Bytes}

theorem CsoImage.decodeBlock_length (ran : image.decodeBlock decoders block = .ok decoded) :
    decoded.length = image.expectedSize block := by
  obtain ⟨_, _, rest⟩ := bind_ok.mp ran
  obtain ⟨data, _, checked⟩ := bind_ok.mp rest
  obtain ⟨_, fits, same⟩ := bind_ok.mp checked
  cases same
  exact not_not.mp (raiseIf_ok.mp fits)

theorem lz4Attempts_error {decompress : Bytes → Nat → Except String Bytes} {data : Bytes} {size : Nat} {firstError : Option String}
    {paddings : List Nat} {failure : CsoFailure}
    (raised : lz4Attempts decompress data size block firstError paddings = .error failure) :
    ∃ detail, failure = .invalidLz4 block detail := by
  induction paddings generalizing firstError with
  | nil => exact ⟨_, (Except.error.inj raised).symm⟩
  | cons padding paddings ih =>
    rw [lz4Attempts] at raised
    split at raised
    · exact ih raised
    · split at raised
      · cases raised
      · exact ih raised

/-- The offsets of the index table are in order, so that every block has a stored size. -/
theorem CsoImage.offset_le (image : CsoImage) (inside : block < image.header.blockCount) :
    image.header.offset (image.indexes.getD block 0) ≤ image.header.offset (image.indexes.getD (block + 1) 0) := by
  have length := image.indexes_length
  have ordered := List.isChain_iff_getElem.mp image.monotonic block (by rw [List.length_map]; omega)
  rw [List.getElem_map, List.getElem_map] at ordered
  rwa [List.getD_eq_getElem _ _ (by omega), List.getD_eq_getElem _ _ (by omega)]

/-- The errors that a block can raise at all. -/
inductive BlockError (block : Nat) : CsoFailure → Prop
  | span (stored expected) : BlockError block (.shortSpan block stored expected)
  | length (length expected) : BlockError block (.wrongLength block length expected)
  | deflate (reason) : BlockError block (.invalidDeflate block reason)
  | lz4 (detail) : BlockError block (.invalidLz4 block detail)
  | engine (message) : BlockError block (.engineUnavailable message)

theorem inflateBlock_error {data : Bytes} {failure : CsoFailure} (raised : inflateBlock decoders data block = .error failure) :
    BlockError block failure := by
  rw [inflateBlock] at raised
  split at raised
  · cases raised
  · cases raised
    exact .deflate _

theorem decompressLz4_error {data : Bytes} {size shift : Nat} {failure : CsoFailure}
    (raised : decompressLz4 decoders data size block shift = .error failure) : BlockError block failure := by
  rw [decompressLz4] at raised
  split at raised
  · cases raised
    exact .engine _
  · obtain ⟨detail, rfl⟩ := lz4Attempts_error raised
    exact .lz4 detail

theorem CsoImage.unpackBlock_error {current offset storedSize : Nat} {failure : CsoFailure}
    (raised : image.unpackBlock decoders block current offset storedSize = .error failure) : BlockError block failure := by
  unfold CsoImage.unpackBlock at raised
  dsimp only at raised
  split at raised
  · split at raised
    · split at raised
      · cases raised
        exact .span _ _
      · cases raised
    · exact inflateBlock_error raised
  · split at raised
    · cases raised
    · split at raised
      · exact decompressLz4_error raised
      · exact inflateBlock_error raised

theorem CsoImage.decodeBlock_error {failure : CsoFailure} (inside : block < image.header.blockCount)
    (raised : image.decodeBlock decoders block = .error failure) : BlockError block failure := by
  rcases bind_error.mp raised with negative | ⟨_, _, rest⟩
  · exact absurd (raiseIf_error.mp negative).1 (Nat.not_lt.mpr (image.offset_le inside))
  · rcases bind_error.mp rest with stored | ⟨data, _, checked⟩
    · exact CsoImage.unpackBlock_error stored
    · rcases bind_error.mp checked with wrong | ⟨_, _, done⟩
      · rw [← (raiseIf_error.mp wrong).2]
        exact .length _ _
      · cases done

theorem CsoImage.Decodes.decoded_length (decodes : image.Decodes decoders) (inside : block < image.header.blockCount) :
    (image.decoded decoders block).length = image.expectedSize block := by
  obtain ⟨decoded, ran⟩ := decodes block inside
  rw [CsoImage.decoded, ran]
  exact CsoImage.decodeBlock_length ran

/-- The first blocks cover the first bytes. -/
theorem CsoImage.Decodes.front_length (decodes : image.Decodes decoders) {count : Nat} (within : count ≤ image.header.blockCount) :
    ((List.range count).flatMap (image.decoded decoders)).length =
      min (count * image.header.blockSize) image.header.uncompressedSize := by
  induction count with
  | zero => rw [List.range_zero, List.flatMap_nil, List.length_nil, Nat.zero_mul, Nat.zero_min]
  | succ count ih =>
    rw [List.range_succ, List.flatMap_append, List.length_append, ih (by omega), List.flatMap_singleton,
      decodes.decoded_length (by omega), CsoImage.expectedSize, Nat.add_mul, Nat.one_mul]
    omega

theorem CsoImage.uncompressedSize_le (image : CsoImage) :
    image.header.uncompressedSize ≤ image.header.blockCount * image.header.blockSize := by
  have positive := image.blockSize_pos
  have room := Nat.lt_div_mul_add positive (a := image.header.uncompressedSize + image.header.blockSize - 1)
  rw [CsoHeader.blockCount]
  omega

theorem CsoImage.Decodes.content_length (decodes : image.Decodes decoders) :
    (image.content decoders).length = image.header.uncompressedSize := by
  rw [CsoImage.content, decodes.front_length (Nat.le_refl _), Nat.min_eq_right image.uncompressedSize_le]

theorem CsoImage.block_lt {position : Nat} (inside : position < image.header.uncompressedSize) :
    position / image.header.blockSize < image.header.blockCount := by
  have upper := image.uncompressedSize_le
  rw [Nat.div_lt_iff_lt_mul image.blockSize_pos]
  omega

/-- A part of one block is a part of the content. -/
theorem CsoImage.Decodes.slice_content (decodes : image.Decodes decoders) {position size : Nat}
    (inside : position < image.header.uncompressedSize)
    (within : position % image.header.blockSize + size ≤ image.expectedSize (position / image.header.blockSize)) :
    slice (image.decoded decoders (position / image.header.blockSize)) (position % image.header.blockSize) size =
      slice (image.content decoders) position size := by
  have inBlocks := CsoImage.block_lt inside
  have whole := Nat.div_add_mod' position image.header.blockSize
  generalize position / image.header.blockSize = block at *
  generalize position % image.header.blockSize = offset at *
  have blocks : List.range image.header.blockCount =
      List.range block ++ block :: (List.range image.header.blockCount).drop (block + 1) := by
    have rest := List.drop_eq_getElem_cons (l := List.range image.header.blockCount) (by rwa [List.length_range])
    rw [List.getElem_range] at rest
    rw [← rest, ← Nat.min_eq_left inBlocks.le, ← List.take_range, Nat.min_eq_left inBlocks.le, List.take_append_drop]
  have front : ((List.range block).flatMap (image.decoded decoders)).length = block * image.header.blockSize := by
    rw [decodes.front_length inBlocks.le, Nat.min_eq_left (by omega)]
  rw [CsoImage.content, blocks, List.flatMap_append, List.flatMap_cons, ← whole, ← front]
  exact (slice_middle (by rwa [decodes.decoded_length inBlocks])).symm

end Blocks

end PspDisasm
