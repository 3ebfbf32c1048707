import PspDisasm.Runtime.ServerFrames

namespace PspDisasm
open Foundations

def structError : RuntimeFailure := .other "struct.error"

/-- `bytes(values)`. -/
def bytesOf (values : List Nat) : Except RuntimeFailure Bytes := do
  raiseIf (∃ value ∈ values, 256 ≤ value) (.other "ValueError")
  pure (values.map UInt8.ofNat)

/-- `struct.pack` with the format `!H` or `!Q`. -/
def packBig (width length : Nat) : Except RuntimeFailure Bytes := do
  raiseIf (256 ^ width ≤ length) structError
  pure (littleBytes width length).reverse

/-- `_encode_client_frame`, where `random` is what `os.urandom(4)` gives. -/
def encodeClientFrame (random payload : Bytes) (opcode : Nat) (maskKey : Option Bytes) :
    Except RuntimeFailure Bytes := do
  let key := maskKey.getD random
  raiseIf (key.length ≠ 4) (.protocol "WebSocket mask key must be four bytes")
  let first := 0x80 ||| opcode
  let length := payload.length
  let header ←
    if length < 126 then bytesOf [first, 0x80 ||| length]
    else if length ≤ 0xFFFF then do
      let start ← bytesOf [first, 0x80 ||| 126]
      let packed ← packBig 2 length
      pure (start ++ packed)
    else do
      let start ← bytesOf [first, 0x80 ||| 127]
      let packed ← packBig 8 length
      pure (start ++ packed)
  let masked := payload.mapIdx fun index value => value ^^^ key.getD (index % 4) 0
  pure (header ++ key ++ masked)

/-- The form that the client gives a length. -/
def clientForm (length : Nat) : LengthForm :=
  if length < 126 then .short else if length ≤ 0xFFFF then .medium else .long

theorem clientForm_fits {length : Nat} (packs : length < 256 ^ 8) : length < (clientForm length).bound := by
  unfold clientForm
  split
  · assumption
  split
  · simp only [LengthForm.bound]
    omega
  · exact packs

/-- A frame of the client as a frame that the receiving side can be asked to read. -/
def clientFrame (payload : Bytes) (opcode : Nat) (maskKey : {key : Bytes // key.length = 4})
    (packs : payload.length < 256 ^ 8) : ServerFrame where
  first := UInt8.ofNat (0x80 ||| opcode)
  form := clientForm payload.length
  maskKey := some maskKey
  payload := payload
  fits := clientForm_fits packs

theorem bit_or_add {length : Nat} (small : length < 128) : 0x80 ||| length = length + 128 := by
  have joined := @mul_or_of_lt length 7 1 small
  rw [Nat.one_mul] at joined
  exact joined.trans (Nat.add_comm _ _)

theorem bytesOf_header {opcode code : Nat} (below : opcode < 16) (small : code < 128) :
    bytesOf [0x80 ||| opcode, 0x80 ||| code] = .ok [UInt8.ofNat (0x80 ||| opcode), lengthByte code true] := by
  have fit : ¬∃ value ∈ [0x80 ||| opcode, 0x80 ||| code], 256 ≤ value := by
    rw [bit_or_add (by omega), bit_or_add small]
    simp only [List.mem_cons, List.not_mem_nil, or_false]
    rintro ⟨value, rfl | rfl, large⟩
    all_goals omega
  unfold bytesOf raiseIf
  rw [if_neg fit, bit_or_add small]
  rfl

theorem packBig_ok {width length : Nat} (packs : length < 256 ^ width) :
    packBig width length = .ok (littleBytes width length).reverse := by
  unfold packBig raiseIf
  rw [if_neg (by omega)]
  rfl

theorem packBig_raised {width length : Nat} (large : 256 ^ width ≤ length) :
    packBig width length = .error structError := by
  unfold packBig raiseIf
  rw [if_pos large]
  rfl

section Client
variable {random payload maskKey : Bytes} {opcode : Nat}

/-- The client writes a frame in the shortest form that holds its length. -/
theorem encodeClientFrame_eq (below : opcode < 16) (four : maskKey.length = 4) (packs : payload.length < 256 ^ 8) :
    encodeClientFrame random payload opcode (some maskKey) =
      .ok (clientFrame payload opcode ⟨maskKey, four⟩ packs).encode := by
  have keyed : ¬maskKey.length ≠ 4 := fun other => other four
  have masking : payload.mapIdx (fun index value => value ^^^ maskKey.getD (index % 4) 0) = unmask maskKey payload := by
    unfold unmask
    rw [if_neg (List.ne_nil_of_length_pos (by omega))]
  have form : (clientFrame payload opcode ⟨maskKey, four⟩ packs).form = clientForm payload.length := rfl
  simp only [encodeClientFrame, Option.getD_some, raiseIf, if_neg keyed, masking, ServerFrame.encode,
    ServerFrame.extension, ServerFrame.second, form, clientForm]
  by_cases short : payload.length < 126
  · simp only [if_pos short, bytesOf_header below (show payload.length < 128 by omega)]
    rfl
  by_cases medium : payload.length ≤ 0xFFFF
  · simp only [if_neg short, if_pos medium, bytesOf_header below (show 126 < 128 by omega),
      packBig_ok (show payload.length < 256 ^ 2 by omega)]
    rfl
  · simp only [if_neg short, if_neg medium, bytesOf_header below (show 127 < 128 by omega), packBig_ok packs]
    rfl

theorem encodeClientFrame_raised (below : opcode < 16) (four : maskKey.length = 4)
    (large : 256 ^ 8 ≤ payload.length) :
    encodeClientFrame random payload opcode (some maskKey) = .error structError := by
  have keyed : ¬maskKey.length ≠ 4 := fun other => other four
  simp only [encodeClientFrame, Option.getD_some, raiseIf, if_neg keyed, packBig_raised large,
    if_neg (show ¬payload.length < 126 by omega), if_neg (show ¬payload.length ≤ 0xFFFF by omega),
    bytesOf_header below (show 127 < 128 by omega)]
  rfl

theorem clientFrame_whole (below : opcode < 16) (four : maskKey.length = 4) (packs : payload.length < 256 ^ 8) :
    (clientFrame payload opcode ⟨maskKey, four⟩ packs).first &&& 0x80 ≠ 0 := by
  have first : UInt8.ofNat (0x80 ||| opcode) = lengthByte opcode true := by
    rw [bit_or_add (by omega)]
    rfl
  rw [clientFrame, first]
  exact (lengthByte_masked (by omega) true).mpr rfl

theorem clientFrame_opcode (below : opcode < 16) (four : maskKey.length = 4) (packs : payload.length < 256 ^ 8) :
    ((clientFrame payload opcode ⟨maskKey, four⟩ packs).first &&& 0x0F).toNat = opcode := by
  have low : (128 + opcode) &&& 15 = (128 + opcode) % 16 := Nat.and_two_pow_sub_one_eq_mod _ 4
  have value : (UInt8.ofNat (0x80 ||| opcode)).toNat = 128 + opcode := by
    rw [bit_or_add (by omega), Nat.add_comm]
    exact UInt8.toNat_ofNat_of_lt' (by simp [UInt8.size]; omega)
  rw [clientFrame, UInt8.toNat_and, value, show (0x0F : UInt8).toNat = 15 from rfl, low]
  omega

end Client

/-- Called with a stream that goes on with `ahead` up to its next interruption, `_receive_frame` ends with `result`,
and `left` is what it leaves of these bytes. -/
def Receives (maxFrameBytes : Nat) (ahead : Bytes) (result : Except RuntimeFailure (Nat × Bytes)) (left : Bytes) :
    Prop :=
  ∀ schedule, (recvParts schedule).lead = ahead →
    ∃ t, receiveFrame maxFrameBytes schedule = lifted result t ∧ recvParts t = ⟨left, (recvParts schedule).later⟩

/-- A frame that stands whole in front of the next interruption is read up to what the call needs of it. -/
theorem ServerFrame.receives (frame : ServerFrame) (maxFrameBytes : Nat) (rest : Bytes)
    (within : frame.needed maxFrameBytes ≤ frame.encode.length) :
    Receives maxFrameBytes (frame.encode ++ rest) (frame.result maxFrameBytes)
      (frame.encode.drop (frame.needed maxFrameBytes) ++ rest) := by
  intro schedule ahead
  have stream : received schedule = frame.encode ++ (rest ++ (recvParts schedule).later.flatten) := by
    rw [← recvParts_stream, Parts.stream, ahead, List.append_assoc]
  have reach : frame.needed maxFrameBytes ≤ (recvParts schedule).lead.length := by
    rw [ahead, List.length_append]
    omega
  obtain ⟨t, ran, after⟩ := (receiveFrame_settles stream).taken reach
  refine ⟨t, ran, ?_⟩
  rw [after, Parts.drop, ahead, List.drop_append_of_le_length within]

/-- What a client writes is what the other side reads: the frame and no byte behind it. A frame beyond the limit is
refused with its mask and its payload unread. No length fails to pack that Python can give a `bytes`. -/
theorem receiveFrame_encodeClientFrame (random payload maskKey : Bytes) (opcode maxFrameBytes : Nat)
    (below : opcode < 16) (four : maskKey.length = 4) :
    if payload.length < 256 ^ 8 then
      ∃ frame, encodeClientFrame random payload opcode (some maskKey) = .ok frame ∧ ∀ rest,
        if payload.length ≤ maxFrameBytes then Receives maxFrameBytes (frame ++ rest) (.ok (opcode, payload)) rest
        else Receives maxFrameBytes (frame ++ rest) (.error (oversized payload.length maxFrameBytes))
          (maskKey ++ unmask maskKey payload ++ rest)
    else encodeClientFrame random payload opcode (some maskKey) = .error structError := by
  split
  · rename_i packs
    refine ⟨_, encodeClientFrame_eq below four packs, fun rest => ?_⟩
    generalize shape : clientFrame payload opcode ⟨maskKey, four⟩ packs = frame
    have whole : frame.first &&& 0x80 ≠ 0 := shape ▸ clientFrame_whole below four packs
    have code : (frame.first &&& 0x0F).toNat = opcode := shape ▸ clientFrame_opcode below four packs
    have content : frame.payload = payload := shape ▸ rfl
    have key : frame.key = maskKey := shape ▸ rfl
    have lengths := frame.encode_length
    have extension := frame.extension_length
    have receives := frame.receives maxFrameBytes rest
    unfold ServerFrame.needed ServerFrame.result ServerFrame.refusal ServerFrame.content at receives
    rw [if_neg whole, if_neg whole, content, code] at receives
    split
    · rename_i fits
      rw [if_neg (by omega), if_neg (by omega), List.drop_length, List.nil_append] at receives
      exact receives le_rfl
    · rename_i large
      have split : frame.encode =
          ([frame.first, frame.second] ++ frame.extension) ++ (maskKey ++ unmask maskKey payload) := by
        rw [ServerFrame.encode, key, content, List.append_assoc]
      have front : ([frame.first, frame.second] ++ frame.extension).length = 2 + frame.form.width := by
        rw [List.length_append, extension]
        rfl
      have unread : frame.encode.drop (2 + frame.form.width) = maskKey ++ unmask maskKey payload := by
        rw [split, ← front, List.drop_left]
      rw [if_pos (by omega), if_pos (by omega), unread] at receives
      exact receives (by omega)
  · rename_i large
    exact encodeClientFrame_raised below four (by omega)

theorem pong_received : Receives 16 [0x8A, 0x82, 1, 2, 3, 4, 0x69, 0x6B, 0x21] (.ok (10, [0x68, 0x69])) [0x21] := by
  have sent := receiveFrame_encodeClientFrame [] [0x68, 0x69] [1, 2, 3, 4] 10 16 (by decide) (by decide)
  rw [if_pos (by decide)] at sent
  obtain ⟨frame, encoded, taken⟩ := sent
  obtain rfl : [0x8A, 0x82, 1, 2, 3, 4, 0x69, 0x6B] = frame := Except.ok.inj encoded
  exact taken [0x21]

end PspDisasm
