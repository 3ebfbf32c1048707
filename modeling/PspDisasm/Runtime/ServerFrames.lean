import PspDisasm.Foundations.BitFields
import PspDisasm.Runtime.Frames

namespace PspDisasm
open Foundations

/-- Where a frame gives the length of its payload: in its second byte, or in bytes behind it. -/
inductive LengthForm
  | short
  | medium
  | long
deriving DecidableEq, Repr

namespace LengthForm

def width : LengthForm → Nat
  | short => 0
  | medium => 2
  | long => 8

def code (length : Nat) : LengthForm → Nat
  | short => length
  | medium => 126
  | long => 127

def bound : LengthForm → Nat
  | short => 126
  | medium => 256 ^ 2
  | long => 256 ^ 8

end LengthForm

/-- The second byte of a frame: seven bits on the length and the bit for a mask. -/
def lengthByte (code : Nat) (masked : Bool) : UInt8 := UInt8.ofNat (code + if masked then 128 else 0)

/-- A frame of the server. The length may take any form it fits, and a mask is allowed. -/
structure ServerFrame where
  first : UInt8
  form : LengthForm
  maskKey : Option {key : Bytes // key.length = 4}
  payload : Bytes
  fits : payload.length < form.bound

namespace ServerFrame

def second (frame : ServerFrame) : UInt8 := lengthByte (frame.form.code frame.payload.length) frame.maskKey.isSome

def extension (frame : ServerFrame) : Bytes := (littleBytes frame.form.width frame.payload.length).reverse

def key (frame : ServerFrame) : Bytes :=
  match frame.maskKey with
  | some key => key.val
  | none => []

def encode (frame : ServerFrame) : Bytes :=
  [frame.first, frame.second] ++ (frame.extension ++ (frame.key ++ unmask frame.key frame.payload))

def content (frame : ServerFrame) : Nat × Bytes := ((frame.first &&& 0x0F).toNat, frame.payload)

variable (maxFrameBytes : Nat)

/-- The exception that refuses the frame, when the client does not take it. -/
def refusal (frame : ServerFrame) : Option RuntimeFailure :=
  if frame.first &&& 0x80 = 0 then some fragmented
  else if maxFrameBytes < frame.payload.length then some (oversized frame.payload.length maxFrameBytes)
  else none

/-- The bytes that a call reads of the frame. A refused frame is read up to the field it is refused for. -/
def needed (frame : ServerFrame) : Nat :=
  if frame.first &&& 0x80 = 0 then 2
  else if maxFrameBytes < frame.payload.length then 2 + frame.form.width
  else frame.encode.length

def result (frame : ServerFrame) : Except RuntimeFailure (Nat × Bytes) :=
  match frame.refusal maxFrameBytes with
  | some failure => .error failure
  | none => .ok frame.content

end ServerFrame

def encodeAll (frames : List ServerFrame) : Bytes := frames.flatMap ServerFrame.encode

theorem lengthByte_toNat {code : Nat} (small : code < 128) (masked : Bool) :
    (lengthByte code masked).toNat = code + if masked then 128 else 0 := by
  apply UInt8.toNat_ofNat_of_lt'
  cases masked <;> simp [UInt8.size] <;> omega

theorem lengthByte_length {code : Nat} (small : code < 128) (masked : Bool) :
    (lengthByte code masked &&& 0x7F).toNat = code := by
  have low : (lengthByte code masked).toNat &&& 127 = (lengthByte code masked).toNat % 128 :=
    Nat.and_two_pow_sub_one_eq_mod _ 7
  rw [UInt8.toNat_and, show (0x7F : UInt8).toNat = 127 from rfl, low, lengthByte_toNat small]
  cases masked <;> simp <;> omega

theorem lengthByte_masked {code : Nat} (small : code < 128) (masked : Bool) :
    lengthByte code masked &&& 0x80 ≠ 0 ↔ masked = true := by
  have high := and_bit_ne_zero (lengthByte code masked).toNat 7
  rw [ne_eq, ← UInt8.toNat_inj, UInt8.toNat_and, show (0x80 : UInt8).toNat = 2 ^ 7 from rfl,
    show (0 : UInt8).toNat = 0 from rfl, ← ne_eq, high, lengthByte_toNat small]
  cases masked <;> simp <;> omega

theorem unmask_unmask (maskKey payload : Bytes) : unmask maskKey (unmask maskKey payload) = payload := by
  unfold unmask
  split
  · rfl
  · rw [List.mapIdx_mapIdx]
    apply List.ext_getElem
    · simp
    · intro i _ _
      rw [List.getElem_mapIdx, Function.comp_apply, UInt8.xor_assoc, UInt8.xor_self, UInt8.xor_zero]

theorem unmask_length (maskKey payload : Bytes) : (unmask maskKey payload).length = payload.length := by
  unfold unmask
  split
  · rfl
  · exact List.length_mapIdx

section Frame
variable {frame : ServerFrame} {schedule : Schedule} {stream : Bytes} {maxFrameBytes : Nat}

theorem ServerFrame.code_lt (frame : ServerFrame) : frame.form.code frame.payload.length < 128 := by
  have fits := frame.fits
  cases form : frame.form <;> simp only [form, LengthForm.code, LengthForm.bound] at *
  all_goals omega

theorem ServerFrame.extension_length (frame : ServerFrame) : frame.extension.length = frame.form.width := by
  rw [extension, List.length_reverse, littleBytes_length]

theorem ServerFrame.encode_length (frame : ServerFrame) :
    frame.encode.length = 2 + (frame.form.width + (frame.key.length + frame.payload.length)) := by
  simp only [encode, List.length_append, extension_length, unmask_length]
  rfl

theorem ServerFrame.extension_value (behind : frame.form ≠ .short) :
    Endianness.big.value frame.extension = frame.payload.length := by
  have fits := frame.fits
  rw [extension, Endianness.value, List.reverse_reverse, littleValue_littleBytes]
  apply Nat.mod_eq_of_lt
  cases form : frame.form with
  | short => exact absurd form behind
  | medium => rwa [form] at fits
  | long => rwa [form] at fits

theorem ServerFrame.second_length (frame : ServerFrame) :
    (frame.second &&& 0x7F).toNat = frame.form.code frame.payload.length :=
  lengthByte_length frame.code_lt frame.maskKey.isSome

theorem lengthBytes_settles (behind : frame.form ≠ .short) (ahead : received schedule = frame.extension ++ stream) :
    Settles recvParts (do let bytes ← recvExact frame.form.width; pure (Endianness.big.value bytes)) schedule
      frame.extension.length (.ok frame.payload.length) := by
  have read := recvExact_reads ahead
  have value := ServerFrame.extension_value behind
  rw [frame.extension_length] at read
  rw [← value, ← Nat.add_zero frame.extension.length, frame.extension_length]
  exact read.bind fun _ _ _ _ => .pure

theorem readLength_settles (ahead : received schedule = frame.extension ++ stream) :
    Settles recvParts (readLength frame.second) schedule frame.extension.length (.ok frame.payload.length) := by
  have code := frame.second_length
  cases form : frame.form with
  | short =>
    have small : frame.payload.length < 126 := by
      have fits := frame.fits
      rwa [form] at fits
    have chosen : readLength frame.second = pure frame.payload.length := by
      rw [form] at code
      have length : (frame.second &&& 0x7F).toNat = frame.payload.length := code
      simp only [readLength, length]
      rw [if_neg (by omega), if_neg (by omega)]
    rw [chosen, frame.extension_length, form]
    exact .pure
  | medium =>
    have read := lengthBytes_settles (by simp [form]) ahead
    rw [form] at code read
    have length : (frame.second &&& 0x7F).toNat = 126 := code
    simp only [readLength, length]
    exact read
  | long =>
    have read := lengthBytes_settles (by simp [form]) ahead
    rw [form] at code read
    have length : (frame.second &&& 0x7F).toNat = 127 := code
    simp only [readLength, length]
    exact read

theorem readMaskKey_settles (ahead : received schedule = frame.key ++ stream) :
    Settles recvParts (readMaskKey frame.second) schedule frame.key.length (.ok frame.key) := by
  have masked : frame.second &&& 0x80 ≠ 0 ↔ frame.maskKey.isSome = true := lengthByte_masked frame.code_lt _
  have read := recvExact_reads ahead
  unfold readMaskKey
  cases mask : frame.maskKey with
  | none =>
    have key : frame.key = [] := by rw [ServerFrame.key, mask]
    rw [mask] at masked
    rw [if_neg (fun set => Bool.noConfusion (masked.mp set)), key]
    exact .pure
  | some given =>
    have key : frame.key.length = 4 := by
      rw [ServerFrame.key, mask]
      exact given.property
    rw [mask] at masked
    rw [if_pos (masked.mpr rfl)]
    rwa [key] at read ⊢

/-- A call at the start of a frame reads what it needs of this frame and of no other. -/
theorem receiveFrame_settles (ahead : received schedule = frame.encode ++ stream) :
    Settles recvParts (receiveFrame maxFrameBytes) schedule (frame.needed maxFrameBytes)
      (frame.result maxFrameBytes) := by
  have split : received schedule = [frame.first, frame.second] ++
      (frame.extension ++ (frame.key ++ (unmask frame.key frame.payload ++ stream))) := by
    simp only [ahead, ServerFrame.encode, List.append_assoc]
  have header := recvExact_reads split
  unfold ServerFrame.needed ServerFrame.result ServerFrame.refusal
  by_cases whole : frame.first &&& 0x80 = 0
  · rw [if_pos whole, if_pos whole]
    have refused : Settles recvParts (receiveFrame maxFrameBytes) schedule (2 + 0) (.error fragmented) :=
      settles_bind split header fun t _ => .guard_raised whole
    exact refused
  rw [if_neg whole, if_neg whole]
  by_cases large : maxFrameBytes < frame.payload.length
  · rw [if_pos large, if_pos large, ← frame.extension_length, ← Nat.add_zero frame.extension.length]
    refine settles_bind split header fun t ahead => .guard_passed whole ?_
    exact settles_bind ahead (readLength_settles ahead) fun t _ => .guard_raised large
  · rw [if_neg large, if_neg large, frame.encode_length, ← frame.extension_length]
    refine settles_bind split header fun t ahead => .guard_passed whole ?_
    refine settles_bind ahead (readLength_settles ahead) fun t ahead => .guard_passed large ?_
    refine settles_bind ahead (readMaskKey_settles ahead) fun t ahead => ?_
    have payload := recvExact_reads ahead
    rw [unmask_length] at payload
    have unmasked : frame.content =
        ((frame.first &&& 0x0F).toNat, unmask frame.key (unmask frame.key frame.payload)) := by
      rw [unmask_unmask, ServerFrame.content]
    rw [unmasked, ← Nat.add_zero frame.payload.length]
    exact payload.bind fun _ _ _ _ => .pure

end Frame
end PspDisasm
