import PspDisasm.Prxreloc2

namespace PspDisasm
open Foundations

/-- Two's complement fields. A field of no bits holds nothing but zero. -/
def FitsSigned (width : Nat) (n : Int) : Prop := -2 ^ width ≤ 2 * n ∧ 2 * n < 2 ^ width

/-- The base of a state command: in the command's upper bits, or in a word
after it, when the upper bits are spare. -/
inductive StateBase
  | compact (base : Nat)
  | absolute (spare base : Nat)
deriving DecidableEq, Repr

/-- How a relocation command moves the running offset. -/
inductive Displacement
  | compact (delta : Int)
  | extended (delta : Int)
  | absolute (spare offset : Nat)
deriving DecidableEq, Repr

inductive LowHalf
  | zero
  | explicit (half : Int)
  | reuse
deriving DecidableEq, Repr

/-- The documented commands of a compressed relocation stream. -/
inductive Command
  | state (flagIndex segment : Nat) (base : StateBase)
  | relocation (flagIndex typeIndex segment : Nat) (displacement : Displacement) (lowHalf : LowHalf)
deriving DecidableEq, Repr

namespace StateBase

def mode : StateBase → Nat
  | compact _ => 0x00
  | absolute .. => 0x04

def upper : StateBase → Nat
  | compact base => base
  | absolute spare _ => spare

def value : StateBase → Nat
  | compact base => base
  | absolute _ base => base

def extension : StateBase → Bytes
  | compact _ => []
  | absolute _ base => littleBytes 4 base

def Fits (width : Nat) : StateBase → Prop
  | compact base => base < 2 ^ width
  | absolute spare base => spare < 2 ^ width ∧ base < 2 ^ 32

end StateBase

namespace Displacement

def mode : Displacement → Nat
  | compact _ => 0x00
  | extended _ => 0x02
  | absolute .. => 0x04

/-- The signed number that goes into the command's payload bits. -/
def high : Displacement → Int
  | compact delta => delta
  | extended delta => delta / 0x10000
  | absolute spare _ => spare

def extension : Displacement → Bytes
  | compact _ => []
  | extended delta => littleBytes 2 (delta % 0x10000).toNat
  | absolute _ offset => littleBytes 4 offset

def Fits (width : Nat) : Displacement → Prop
  | compact delta => FitsSigned width delta
  | extended delta => FitsSigned width (delta / 0x10000)
  | absolute spare offset => spare < 2 ^ width ∧ offset < 2 ^ 32

def moves : Displacement → Int → Int
  | compact delta, base => base + delta
  | extended delta, base => base + delta
  | absolute _ offset, _ => offset

def isSigned : Displacement → Bool
  | absolute .. => false
  | _ => true

end Displacement

namespace LowHalf

def mode : LowHalf → Nat
  | zero => 0x00
  | explicit _ => 0x10
  | reuse => 0x08

def extension : LowHalf → Bytes
  | explicit half => littleBytes 2 (half % 0x10000).toNat
  | _ => []

def Fits : LowHalf → Prop
  | explicit half => -0x8000 ≤ half ∧ half < 0x8000
  | _ => True

def addend : LowHalf → Option Int
  | zero => some 0
  | explicit half => some half
  | reuse => none

end LowHalf

namespace StreamFormat
variable (format : StreamFormat)

/-- The width of the part of a command above its segment field. -/
def upperWidth : Nat := 16 - format.typeShift

/-- The width of a relocation command's displacement field. -/
def payloadWidth : Nat := 16 - format.payloadShift

def header (reserved : UInt8 × UInt8) : Bytes :=
  [reserved.1, reserved.2, UInt8.ofNat format.flagBits, UInt8.ofNat format.typeBits]
    ++ format.flagTable ++ format.typeTable

end StreamFormat

namespace Command

def flagIndex : Command → Nat
  | state flagIndex .. => flagIndex
  | relocation flagIndex .. => flagIndex

def segment : Command → Nat
  | state _ segment _ => segment
  | relocation _ _ segment .. => segment

/-- The bits above the segment field: the base of a state command, or the type
index and the displacement of a relocation command. -/
def upper (format : StreamFormat) : Command → Nat
  | state _ _ base => base.upper
  | relocation _ typeIndex _ displacement _ =>
    typeIndex + 2 ^ format.typeBits * (displacement.high % 2 ^ format.payloadWidth).toNat

def word (format : StreamFormat) (command : Command) : Nat :=
  command.flagIndex + 2 ^ format.flagBits * (command.segment + 2 ^ format.segBits * command.upper format)

def extension : Command → Bytes
  | state _ _ base => base.extension
  | relocation _ _ _ displacement lowHalf => displacement.extension ++ lowHalf.extension

def encode (format : StreamFormat) (command : Command) : Bytes :=
  littleBytes 2 (command.word format) ++ command.extension

/-- Every field is in range, and the indices select table entries of the intended kind. -/
def Fits (format : StreamFormat) : Command → Prop
  | state flagIndex segment base =>
    flagIndex < 2 ^ format.flagBits ∧ segment < 2 ^ format.segBits ∧ base.Fits format.upperWidth ∧
      ∃ flag, format.flagTable[flagIndex]? = some flag ∧
        flag.toNat &&& 0x01 = 0 ∧ flag.toNat &&& 0x06 = base.mode
  | relocation flagIndex typeIndex segment displacement lowHalf =>
    flagIndex < 2 ^ format.flagBits ∧ segment < 2 ^ format.segBits ∧ typeIndex < 2 ^ format.typeBits ∧
      displacement.Fits format.payloadWidth ∧ lowHalf.Fits ∧
      (∃ flag, format.flagTable[flagIndex]? = some flag ∧ flag.toNat &&& 0x01 = 1 ∧
        flag.toNat &&& 0x06 = displacement.mode ∧ flag.toNat &&& 0x38 = lowHalf.mode) ∧
      ∃ compactType, format.typeTable[typeIndex]? = some compactType ∧ compactType.toNat ≤ 7

end Command

/-- Where a reader of the stream stands: the current source segment, the
running offset, and the position in the stream. -/
structure StreamCursor where
  source : Nat
  base : Int
  position : Nat
deriving DecidableEq, Repr

namespace StreamCursor

def after (format : StreamFormat) (cursor : StreamCursor) (command : Command) : StreamCursor :=
  let position := cursor.position + (command.encode format).length
  match command with
  | .state _ segment base => ⟨segment, base.value, position⟩
  | .relocation _ _ _ displacement _ => ⟨cursor.source, displacement.moves cursor.base, position⟩

/-- The normalized type of a compact type and its name. -/
def normalized (compactType : Nat) : Nat × String :=
  let type := (compactTypeMap.lookup compactType).getD 0
  (type, (prxreloc2RelocNames.lookup type).getD "")

/-- The record of a relocation at the given source offset. -/
def record (format : StreamFormat) (cursor : StreamCursor) (flagIndex typeIndex segment : Nat) (lowHalf : LowHalf)
    (offset : Int) : Relocation :=
  let type := normalized (format.typeTable.getD typeIndex 0).toNat
  decodedRelocation format (format.flagTable.getD flagIndex 0).toNat type.1 cursor.source segment offset.toNat
    type.2 cursor.position lowHalf.addend

/-- The relocation that a command stands for at this cursor; state commands stand for none. -/
def emits (format : StreamFormat) (cursor : StreamCursor) : Command → List Relocation
  | .state .. => []
  | .relocation flagIndex typeIndex segment displacement lowHalf =>
    [cursor.record format flagIndex typeIndex segment lowHalf (displacement.moves cursor.base)]

/-- A relocation command names loaded segments and leaves room for a word in the source. -/
def Allows (elf : ElfImage) (cursor : StreamCursor) : Command → Prop
  | .state .. => True
  | .relocation _ _ segment displacement _ =>
    (∃ source, elf.programHeaders[cursor.source]? = some source ∧ source.type = ptLoad ∧
      0 ≤ displacement.moves cursor.base ∧ displacement.moves cursor.base + 4 ≤ source.memsz) ∧
    ∃ target, elf.programHeaders[segment]? = some target ∧ target.type = ptLoad

def AllowsAll (elf : ElfImage) (format : StreamFormat) : StreamCursor → List Command → Prop
  | _, [] => True
  | cursor, command :: commands =>
    cursor.Allows elf command ∧ (cursor.after format command).AllowsAll elf format commands

/-- The relocations that a sequence of commands stands for. -/
def relocations (format : StreamFormat) : StreamCursor → List Command → List Relocation
  | _, [] => []
  | cursor, command :: commands =>
    cursor.emits format command ++ (cursor.after format command).relocations format commands

end StreamCursor

/-- A table starts with its own byte length. -/
def LengthPrefixed (table : Bytes) : Prop := ∃ b, table[0]? = some b ∧ b.toNat = table.length

/-- A stream of the documented grammar for the relocation segment `index` of an ELF. -/
structure RelocationStream (elf : ElfImage) (index : Nat) where
  reserved : UInt8 × UInt8
  format : StreamFormat
  commands : List Command
  ownIndex : format.relocationSegmentIndex = index
  widths : format.payloadShift ≤ 16
  flagTable : LengthPrefixed format.flagTable
  typeTable : LengthPrefixed format.typeTable
  fits : ∀ command ∈ commands, command.Fits format

namespace RelocationStream
variable {elf : ElfImage} {index : Nat} (stream : RelocationStream elf index)

def start : StreamCursor := ⟨0, 0, (stream.format.header stream.reserved).length⟩

def encode : Bytes :=
  stream.format.header stream.reserved ++ stream.commands.flatMap (·.encode stream.format)

def relocations : List Relocation := stream.start.relocations stream.format stream.commands

/-- The running offset always addresses a word of a loaded source segment, and
there are no more relocations than the decoder's ceiling. -/
structure Decodable : Prop where
  allowed : stream.start.AllowsAll elf stream.format stream.commands
  count : stream.relocations.length ≤ maxDecodedRelocations

/-- The stream is exactly the content of relocation segment `index` of the input. -/
structure StoredIn (data : Bytes) (segment : ProgramHeader) : Prop where
  atIndex : elf.programHeaders[index]? = some segment
  kind : segment.type = ptPrxreloc2
  inFile : segment.offset + segment.filesz ≤ data.length
  content : slice data segment.offset segment.filesz = stream.encode

end RelocationStream

end PspDisasm
