import PspDisasm.Foundations.ByteWords
import PspDisasm.Foundations.Dict
import PspDisasm.Foundations.Effects

namespace PspDisasm
open Foundations

inductive CsoFailure
  | parse (message : String)
  | engineUnavailable (message : String)
  | value (message : String)
  | shorterThanExpected (block : Nat)
  | negativeStoredSize (block : Nat)
  | shortSpan (block stored expected : Nat)
  | wrongLength (block length expected : Nat)
  | invalidDeflate (block : Nat) (reason : String)
  | invalidLz4 (block : Nat) (detail : String)
deriving DecidableEq, Repr

def CsoFailure.text : CsoFailure → String
  | .parse message => message
  | .engineUnavailable message => message
  | .value message => message
  | .shorterThanExpected block => s!"CISO block {block} is shorter than expected"
  | .negativeStoredSize block => s!"CISO block {block} has a negative stored size"
  | .shortSpan block stored expected =>
    s!"CISO uncompressed block {block} spans {stored} bytes; expected at least {expected}"
  | .wrongLength block length expected => s!"CISO block {block} decompressed to {length} bytes; expected {expected}"
  | .invalidDeflate block reason => s!"CISO DEFLATE block {block} is invalid: {reason}"
  | .invalidLz4 block detail => s!"CISO LZ4 block {block} is invalid{detail}"

structure CsoHeader where
  headerSize : Nat
  uncompressedSize : Nat
  blockSize : Nat
  version : Nat
  indexShift : Nat
deriving DecidableEq, Repr

def CsoHeader.blockCount (header : CsoHeader) : Nat := (header.uncompressedSize + header.blockSize - 1) / header.blockSize

/-- `(value & _INDEX_MASK) << index_shift`. -/
def CsoHeader.offset (header : CsoHeader) (index : Nat) : Nat := index % 2 ^ 31 * 2 ^ header.indexShift

/-- `value & _INDEX_FLAG`. -/
def indexFlag (index : Nat) : Bool := index.testBit 31

/-- An image whose header and index table were accepted. -/
structure CsoImage where
  file : Bytes
  header : CsoHeader
  indexes : List Nat
  blockSize_pos : 0 < header.blockSize
  indexes_length : indexes.length = header.blockCount + 1
  monotonic : (indexes.map header.offset).IsChain (· ≤ ·)

/-- The decompressors. `lz4` is missing where its package is not installed. -/
structure BlockDecoders where
  inflate : Bytes → Except String Bytes
  lz4 : Option (Bytes → Nat → Except String Bytes)

def csoHeaderSize : Nat := 0x18

/-- `_read_header_and_indexes`. -/
def openImage (file : Bytes) : Except CsoFailure CsoImage := do
  raiseIf (file.length < csoHeaderSize) (.parse "Truncated CISO header")
  let word (start width : Nat) : Nat := littleValue (slice file start width)
  let header : CsoHeader := ⟨word 4 4, word 8 8, word 16 4, word 20 1, word 21 1⟩
  raiseIf (slice file 0 4 ≠ [0x43, 0x49, 0x53, 0x4F]) (.parse "Invalid CISO magic")
  raiseIf (header.version ∉ [0, 1, 2]) (.parse s!"Unsupported CISO version: {header.version}")
  if positive : 0 < header.blockSize then
    raiseIf (header.uncompressedSize = 0) (.parse "CISO uncompressed size must be positive")
    raiseIf (31 < header.indexShift) (.parse "CISO index shift is out of range")
    raiseIf (header.version = 2 ∧ header.headerSize ≠ csoHeaderSize) (.parse "CISO v2 header size must be 0x18")
    raiseIf (header.version = 2 ∧ slice file 22 2 ≠ [0, 0]) (.parse "CISO v2 reserved header bytes must be zero")
    let indexOffset := if header.version ≤ 1 then csoHeaderSize else header.headerSize
    raiseIf (file.length < indexOffset) (.parse "CISO header size exceeds file size")
    let indexCount := header.blockCount + 1
    raiseIf (file.length < indexOffset + indexCount * 4) (.parse "Truncated CISO index table")
    let indexes := (List.range indexCount).map fun i => word (indexOffset + 4 * i) 4
    let offsets := indexes.map header.offset
    raiseIf (offsets.head?.any (· < indexOffset + indexCount * 4)) (.parse "CISO first block overlaps the header or index table")
    if monotonic : offsets.IsChain (· ≤ ·) then
      raiseIf (offsets.any (file.length < ·)) (.parse "CISO block index points beyond end of file")
      raiseIf (header.version = 2 ∧ indexes.getLast?.any indexFlag)
        (.parse "CISO v2 final index entry must not set the compression flag")
      return ⟨file, header, indexes, positive, by rw [List.length_map, List.length_range], monotonic⟩
    else throw (.parse "CISO block indexes must be monotonic")
  else throw (.parse "CISO block size must be positive")

section Blocks
variable (decoders : BlockDecoders)

/-- The attempts to decode an LZ4 block without some of its last bytes, with the first error so far. -/
def lz4Attempts (decompress : Bytes → Nat → Except String Bytes) (data : Bytes) (expectedSize : Nat) (block : Nat) :
    Option String → List Nat → Except CsoFailure Bytes
  | firstError, [] => .error (.invalidLz4 block (match firstError with | some reason => s!": {reason}" | none => ""))
  | firstError, padding :: paddings =>
    match decompress (data.take (data.length - padding)) expectedSize with
    | .error reason => lz4Attempts decompress data expectedSize block (firstError.or (some reason)) paddings
    | .ok decoded =>
      if decoded.length = expectedSize then .ok decoded
      else lz4Attempts decompress data expectedSize block firstError paddings

def decompressLz4 (data : Bytes) (expectedSize block indexShift : Nat) : Except CsoFailure Bytes :=
  match decoders.lz4 with
  | none => .error (.engineUnavailable "CISO v2 uses LZ4 compression; install pspdisasm with the 'disc' extra")
  | some decompress =>
    lz4Attempts decompress data expectedSize block none (List.range (min (2 ^ indexShift - 1) (data.length - 1) + 1))

def inflateBlock (data : Bytes) (block : Nat) : Except CsoFailure Bytes :=
  match decoders.inflate data with
  | .ok decoded => .ok decoded
  | .error reason => .error (.invalidDeflate block reason)

variable (image : CsoImage)

def CsoImage.expectedSize (block : Nat) : Nat :=
  min image.header.blockSize (image.header.uncompressedSize - block * image.header.blockSize)

/-- What `_read_block` makes of the stored bytes of a block, whose flag has another meaning in each version. -/
def CsoImage.unpackBlock (block current offset storedSize : Nat) : Except CsoFailure Bytes :=
  let expectedSize := image.expectedSize block
  if image.header.version ≤ 1 then
    if indexFlag current then
      if storedSize < expectedSize then .error (.shortSpan block storedSize expectedSize)
      else .ok (slice image.file offset expectedSize)
    else inflateBlock decoders (slice image.file offset storedSize) block
  else if image.header.blockSize ≤ storedSize then .ok (slice image.file offset expectedSize)
  else if indexFlag current then
    decompressLz4 decoders (slice image.file offset storedSize) expectedSize block image.header.indexShift
  else inflateBlock decoders (slice image.file offset storedSize) block

/-- The part of `_read_block` that decodes a block of the file. -/
def CsoImage.decodeBlock (block : Nat) : Except CsoFailure Bytes := do
  let current := image.indexes.getD block 0
  let offset := image.header.offset current
  let nextOffset := image.header.offset (image.indexes.getD (block + 1) 0)
  raiseIf (nextOffset < offset) (.negativeStoredSize block)
  let decoded ← image.unpackBlock decoders block current offset (nextOffset - offset)
  raiseIf (decoded.length ≠ image.expectedSize block) (.wrongLength block decoded.length (image.expectedSize block))
  return decoded

end Blocks

structure CsoReader where
  image : CsoImage
  position : Nat
  cache : Dict Nat Bytes

/-- `CsoReader(path)`. -/
def CsoReader.init (file : Bytes) : Except CsoFailure CsoReader := do
  let image ← openImage file
  return ⟨image, 0, []⟩

namespace CsoReader

abbrev ReaderM := EStateM CsoFailure CsoReader

def cacheBlocks : Nat := 8

/-- `OrderedDict.move_to_end`. -/
def moveToEnd (cache : Dict Nat Bytes) (block : Nat) : Dict Nat Bytes :=
  cache.filter (·.1 ≠ block) ++ cache.filter (·.1 = block)

/-- The newest blocks stay. -/
def evict (cache : Dict Nat Bytes) : Dict Nat Bytes := cache.drop (cache.length - cacheBlocks)

section Reading
variable (decoders : BlockDecoders)

def readBlock (block : Nat) : ReaderM Bytes := fun reader =>
  match reader.cache.get? block with
  | some cached => .ok cached { reader with cache := moveToEnd reader.cache block }
  | none =>
    if reader.image.indexes.length - 1 ≤ block then .ok [] reader
    else
      match reader.image.decodeBlock decoders block with
      | .error failure => .error failure reader
      | .ok decoded => .ok decoded { reader with cache := evict (moveToEnd (reader.cache.set block decoded) block) }

/-- The loop of `read`. Each turn takes at least one byte. -/
def readBlocks (size : Nat) (output : Bytes) (reader : CsoReader) : EStateM.Result CsoFailure CsoReader Bytes :=
  if _going : 0 < size ∧ reader.position < reader.image.header.uncompressedSize then
    let block := reader.position / reader.image.header.blockSize
    let blockOffset := reader.position % reader.image.header.blockSize
    match readBlock decoders block reader with
    | .error failure next => .error failure next
    | .ok decoded next =>
      if _short : decoded.length ≤ blockOffset then .error (.shorterThanExpected block) next
      else
        let take := min size (decoded.length - blockOffset)
        readBlocks (size - take) (output ++ slice decoded blockOffset take) { next with position := next.position + take }
  else .ok output reader
termination_by size
decreasing_by omega

def tell : ReaderM Nat := fun reader => .ok reader.position reader

def seek (offset whence : Int) : ReaderM Nat := fun reader =>
  let moveTo (position : Int) : EStateM.Result CsoFailure CsoReader Nat :=
    if position < 0 then .error (.value "negative seek position") reader
    else .ok position.toNat { reader with position := position.toNat }
  if whence = 0 then moveTo offset
  else if whence = 1 then moveTo (reader.position + offset)
  else if whence = 2 then moveTo (reader.image.header.uncompressedSize + offset)
  else .error (.value s!"invalid whence ({whence})") reader

def read (size : Option Int) : ReaderM Bytes := fun reader =>
  let totalSize := reader.image.header.uncompressedSize
  if totalSize ≤ reader.position then .ok [] reader
  else
    let size := match size.filter (0 ≤ ·) with
      | none => totalSize - reader.position
      | some size => min size.toNat (totalSize - reader.position)
    if size = 0 then .ok [] reader else readBlocks decoders size [] reader

/-- The number of bytes read, and the buffer with them in place of its first bytes. -/
def readinto (buffer : Bytes) : ReaderM (Nat × Bytes) := do
  let data ← read decoders (some buffer.length)
  return (data.length, data ++ buffer.drop data.length)

end Reading

end CsoReader

end PspDisasm
