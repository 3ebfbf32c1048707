import PspDisasm.Foundations.ByteWords

namespace PspDisasm
open Foundations

/-- The text of a number under the format `X`. -/
def hex (n : Int) : String :=
  let digits := String.ofList ((Nat.toDigits 16 n.natAbs).map Char.toUpper)
  if n < 0 then "-" ++ digits else digits

/-- `hex` padded with zeros to `width` characters, as under the format `08X`. -/
def hexPadded (width : Nat) (n : Int) : String :=
  let text := hex n
  String.ofList (List.replicate (width - text.length) '0') ++ text

/-- The text of a number under the format `08X`, whose eight characters count the sign. -/
def addressDigits (address : Int) : String :=
  if address < 0 then "-" ++ hexPadded 7 (-address) else hexPadded 8 address

def replacementCharacter : Char := Char.ofNat 0xFFFD

/-- `bytes.decode("ascii", errors="replace")`. -/
def decodeAscii (bytes : Bytes) : String :=
  String.ofList (bytes.map fun b => if b < 0x80 then Char.ofNat b.toNat else replacementCharacter)

def isContinuation (b : UInt8) : Bool := 0x80 ≤ b && b ≤ 0xBF

/-- The second bytes that may follow a lead byte: they exclude overlong forms,
surrogates and values past the last code point. -/
def isSecondByte (lead b : UInt8) : Bool :=
  if lead = 0xE0 then 0xA0 ≤ b && b ≤ 0xBF
  else if lead = 0xED then 0x80 ≤ b && b ≤ 0x9F
  else if lead = 0xF0 then 0x90 ≤ b && b ≤ 0xBF
  else if lead = 0xF4 then 0x80 ≤ b && b ≤ 0x8F
  else isContinuation b

def tailBits (b : UInt8) : Nat := b.toNat % 64

def decodeUtf8Chars : Bytes → List Char
  | [] => []
  | lead :: rest =>
    if lead < 0x80 then
      Char.ofNat lead.toNat :: decodeUtf8Chars rest
    else if 0xC2 ≤ lead && lead ≤ 0xDF then
      match rest with
      | b :: rest =>
        if isContinuation b then Char.ofNat (lead.toNat % 32 * 64 + tailBits b) :: decodeUtf8Chars rest
        else replacementCharacter :: decodeUtf8Chars (b :: rest)
      | [] => [replacementCharacter]
    else if 0xE0 ≤ lead && lead ≤ 0xEF then
      match rest with
      | b :: rest =>
        if isSecondByte lead b then
          match rest with
          | c :: rest =>
            if isContinuation c then
              Char.ofNat (lead.toNat % 16 * 4096 + tailBits b * 64 + tailBits c) :: decodeUtf8Chars rest
            else replacementCharacter :: decodeUtf8Chars (c :: rest)
          | [] => [replacementCharacter]
        else replacementCharacter :: decodeUtf8Chars (b :: rest)
      | [] => [replacementCharacter]
    else if 0xF0 ≤ lead && lead ≤ 0xF4 then
      match rest with
      | b :: rest =>
        if isSecondByte lead b then
          match rest with
          | c :: rest =>
            if isContinuation c then
              match rest with
              | d :: rest =>
                if isContinuation d then
                  Char.ofNat (lead.toNat % 8 * 262144 + tailBits b * 4096 + tailBits c * 64 + tailBits d)
                    :: decodeUtf8Chars rest
                else replacementCharacter :: decodeUtf8Chars (d :: rest)
              | [] => [replacementCharacter]
            else replacementCharacter :: decodeUtf8Chars (c :: rest)
          | [] => [replacementCharacter]
        else replacementCharacter :: decodeUtf8Chars (b :: rest)
      | [] => [replacementCharacter]
    else replacementCharacter :: decodeUtf8Chars rest

/-- `bytes.decode("utf-8", errors="replace")`: each maximal ill-formed prefix
of a sequence becomes one replacement character. -/
def decodeUtf8 (bytes : Bytes) : String := String.ofList (decodeUtf8Chars bytes)

example : decodeUtf8 [0x61, 0xE2, 0x82, 0x28, 0xC3, 0xA9] = "a\uFFFD(é" := by decide +kernel

/-- The bytes before the first NUL, or all of them when there is none. -/
def untilNul (bytes : Bytes) : Bytes := bytes.takeWhile (· ≠ 0)

theorem untilNul_append {front rest : Bytes} (free : 0 ∉ front) (cut : ∀ byte ∈ rest.head?, byte = 0) :
    untilNul (front ++ rest) = front := by
  have kept : ∀ byte ∈ front, decide (byte ≠ 0) = true :=
    fun byte member => decide_eq_true fun zero => free (zero ▸ member)
  unfold untilNul
  rw [List.takeWhile_append_of_pos kept]
  cases rest with
  | nil => exact List.append_nil front
  | cons byte rest =>
    have zero : byte = 0 := cut byte rfl
    rw [List.takeWhile_cons_of_neg (by simp [zero]), List.append_nil]

end PspDisasm
