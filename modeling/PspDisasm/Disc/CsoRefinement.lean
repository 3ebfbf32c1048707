import PspDisasm.Disc.CsoStream

namespace PspDisasm.CsoReader
open Foundations

/-- Each cached block is what the file's block decodes to. -/
def Cached (decoders : BlockDecoders) (reader : CsoReader) : Prop :=
  ∀ item ∈ reader.cache, item.1 < reader.image.header.blockCount ∧ reader.image.decodeBlock decoders item.1 = .ok item.2

section Cache
variable {cache : Dict Nat Bytes} {block : Nat} {decoded : Bytes} {item : Nat × Bytes}

theorem mem_moveToEnd : item ∈ moveToEnd cache block ↔ item ∈ cache := by
  rw [moveToEnd, List.mem_append, List.mem_filter, List.mem_filter, ← and_or_left]
  refine and_iff_left ?_
  by_cases same : item.1 = block
  · exact .inr (decide_eq_true same)
  · exact .inl (decide_eq_true same)

theorem mem_evict (kept : item ∈ evict cache) : item ∈ cache := List.mem_of_mem_drop kept

theorem mem_set (listed : item ∈ cache.set block decoded) : item = (block, decoded) ∨ item ∈ cache := by
  induction cache with
  | nil => exact .inl (List.mem_singleton.mp listed)
  | cons first cache ih =>
    obtain ⟨key, old⟩ := first
    by_cases same : key = block
    · subst same
      rw [Dict.set, if_pos rfl] at listed
      rcases List.mem_cons.mp listed with here | later
      · exact .inl here
      · exact .inr (List.mem_cons_of_mem _ later)
    · rw [Dict.set, if_neg same] at listed
      rcases List.mem_cons.mp listed with here | later
      · exact .inr (here ▸ List.mem_cons_self)
      · exact (ih later).imp_right (List.mem_cons_of_mem _)

end Cache

section Blocks
variable {decoders : BlockDecoders} {reader next : CsoReader} {block size : Nat} {decoded output : Bytes}

/-- The cache never shows in what `readBlock` returns. -/
theorem readBlock_ok (cached : Cached decoders reader) (inside : block < reader.image.header.blockCount)
    (ran : reader.image.decodeBlock decoders block = .ok decoded) : ∃ cache,
      readBlock decoders block reader = .ok decoded { reader with cache } ∧ Cached decoders { reader with cache } := by
  rw [readBlock]
  cases found : reader.cache.get? block with
  | some stored =>
    have known := (cached _ (Dict.mem_of_get? found)).2
    cases ran.symm.trans known
    exact ⟨_, rfl, fun item listed => cached item (mem_moveToEnd.mp listed)⟩
  | none =>
    have length := reader.image.indexes_length
    rw [if_neg (by omega), ran]
    refine ⟨_, rfl, fun item listed => ?_⟩
    rcases mem_set (mem_moveToEnd.mp (mem_evict listed)) with rfl | old
    · exact ⟨inside, ran⟩
    · exact cached item old

theorem readBlock_error (cached : Cached decoders reader) (inside : block < reader.image.header.blockCount) {failure : CsoFailure}
    (ran : reader.image.decodeBlock decoders block = .error failure) :
    readBlock decoders block reader = .error failure reader := by
  rw [readBlock]
  cases found : reader.cache.get? block with
  | some stored =>
    have known := (cached _ (Dict.mem_of_get? found)).2
    cases ran.symm.trans known
  | none =>
    have length := reader.image.indexes_length
    rw [if_neg (by omega), ran]

/-- A place in the content lies in its block. -/
theorem offset_lt (inside : reader.position < reader.image.header.uncompressedSize) :
    reader.position % reader.image.header.blockSize <
      reader.image.expectedSize (reader.position / reader.image.header.blockSize) := by
  have whole := Nat.div_add_mod' reader.position reader.image.header.blockSize
  have below := Nat.mod_lt reader.position reader.image.blockSize_pos
  rw [CsoImage.expectedSize]
  omega

/-- One turn of the loop of `read`, at a place in a block that decodes. -/
structure Turn (decoders : BlockDecoders) (size : Nat) (output : Bytes) (reader : CsoReader) (decoded : Bytes) (take : Nat)
    (cache : Dict Nat Bytes) : Prop where
  positive : 0 < take
  fits : take ≤ size
  inBlock : reader.position % reader.image.header.blockSize + take ≤ decoded.length
  cached : Cached decoders { reader with position := reader.position + take, cache }
  goesOn : readBlocks decoders size output reader = readBlocks decoders (size - take)
    (output ++ slice decoded (reader.position % reader.image.header.blockSize) take)
    { reader with position := reader.position + take, cache }

theorem readBlocks_turn (cached : Cached decoders reader)
    (going : 0 < size ∧ reader.position < reader.image.header.uncompressedSize)
    (ran : reader.image.decodeBlock decoders (reader.position / reader.image.header.blockSize) = .ok decoded) (output : Bytes) :
    ∃ take cache, Turn decoders size output reader decoded take cache := by
  obtain ⟨cache, read, cachedNext⟩ := readBlock_ok cached (CsoImage.block_lt going.2) ran
  have length := CsoImage.decodeBlock_length ran
  have offset := offset_lt going.2
  refine ⟨min size (decoded.length - reader.position % reader.image.header.blockSize), cache, ?_, ?_, ?_, cachedNext, ?_⟩
  · omega
  · omega
  · omega
  · rw [readBlocks, dif_pos going]
    dsimp only
    rw [read]
    dsimp only
    rw [dif_neg (by omega)]

/-- The loop of `read` returns the next bytes of the content. -/
theorem readBlocks_content (decodes : reader.image.Decodes decoders) (cached : Cached decoders reader)
    (within : reader.position + size ≤ reader.image.header.uncompressedSize) : ∃ cache,
      readBlocks decoders size output reader =
        .ok (output ++ slice (reader.image.content decoders) reader.position size)
          { reader with position := reader.position + size, cache } ∧
      Cached decoders { reader with position := reader.position + size, cache } := by
  induction size using Nat.strongRecOn generalizing output reader with
  | ind size ih =>
    by_cases going : 0 < size ∧ reader.position < reader.image.header.uncompressedSize
    · obtain ⟨decoded, ran⟩ := decodes _ (CsoImage.block_lt going.2)
      obtain ⟨take, cache, turn⟩ := readBlocks_turn cached going ran output
      have positive := turn.positive
      have fits := turn.fits
      obtain ⟨last, rest, cachedLast⟩ := @ih (size - take) (by omega)
        { reader with position := reader.position + take, cache }
        (output ++ slice decoded (reader.position % reader.image.header.blockSize) take) decodes turn.cached
        (by dsimp only; omega)
      have part : slice decoded (reader.position % reader.image.header.blockSize) take =
          slice (reader.image.content decoders) reader.position take := by
        have inBlock := turn.inBlock
        have length := CsoImage.decodeBlock_length ran
        rw [← decodes.slice_content going.2 (by omega), CsoImage.decoded, ran]
        rfl
      have joined := slice_add (reader.image.content decoders) reader.position take (size - take)
      rw [Nat.add_sub_cancel' fits] at joined
      dsimp only at rest cachedLast
      rw [Nat.add_assoc, Nat.add_sub_cancel' fits] at rest cachedLast
      refine ⟨last, ?_, cachedLast⟩
      rw [turn.goesOn, rest, part, joined, List.append_assoc]
    · have nothing : size = 0 := by omega
      subst nothing
      rw [readBlocks, dif_neg going, slice, List.take_zero, List.append_nil]
      exact ⟨reader.cache, rfl, cached⟩

end Blocks

section Calls
variable {decoders : BlockDecoders} {reader : CsoReader} {stream : MemoryStream}

/-- The reader stands for a stream over the content of its image. -/
structure Stands (decoders : BlockDecoders) (reader : CsoReader) (stream : MemoryStream) : Prop where
  decodes : reader.image.Decodes decoders
  cached : Cached decoders reader
  content : stream.content = reader.image.content decoders
  position : stream.position = reader.position

theorem Stands.length (stands : Stands decoders reader stream) :
    stream.content.length = reader.image.header.uncompressedSize := by
  rw [stands.content, stands.decodes.content_length]

/-- Both sides end alike: with one outcome, and standing for each other again. -/
def Alike {α : Type} (decoders : BlockDecoders) : EStateM.Result CsoFailure CsoReader α →
    EStateM.Result CsoFailure MemoryStream α → Prop
  | .ok value reader, .ok other stream => value = other ∧ Stands decoders reader stream
  | .error failure reader, .error other stream => failure = other ∧ Stands decoders reader stream
  | _, _ => False

theorem Alike.answered {α : Type} {ended : EStateM.Result CsoFailure CsoReader α} {other : EStateM.Result CsoFailure MemoryStream α}
    (alike : Alike decoders ended other) (reply : α → StreamReply) :
    (answered reply ended).1 = (answered reply other).1 ∧ Stands decoders (answered reply ended).2 (answered reply other).2 := by
  cases ended with
  | ok value reader =>
    cases other with
    | ok value stream => exact ⟨congrArg reply alike.1, alike.2⟩
    | error failure stream => exact alike.elim
  | error failure reader =>
    cases other with
    | ok value stream => exact alike.elim
    | error failure stream => exact ⟨congrArg StreamReply.raised alike.1, alike.2⟩

theorem Alike.returning {α β : Type} {x : ReaderM α} {y : MemoryStream.StreamM α} (alike : Alike decoders (x reader) (y stream))
    (f : α → β) : Alike decoders ((x >>= fun a => pure (f a)) reader) ((y >>= fun a => pure (f a)) stream) := by
  cases ended : x reader with
  | ok value next =>
    cases other : y stream with
    | ok result after =>
      rw [ended, other] at alike
      rw [bind_after ended, bind_after other]
      exact ⟨congrArg f alike.1, alike.2⟩
    | error failure after =>
      rw [ended, other] at alike
      exact alike.elim
  | error failure next =>
    cases other : y stream with
    | ok result after =>
      rw [ended, other] at alike
      exact alike.elim
    | error raised after =>
      rw [ended, other] at alike
      rw [bind_raised ended, bind_raised other]
      exact alike

theorem Stands.tell (stands : Stands decoders reader stream) :
    Alike decoders (CsoReader.tell reader) (MemoryStream.tell stream) := ⟨stands.position.symm, stands⟩

theorem Stands.seek (stands : Stands decoders reader stream) (offset whence : Int) :
    Alike decoders (CsoReader.seek offset whence reader) (MemoryStream.seek offset whence stream) := by
  have moved (target : Int) : Alike decoders
      (if target < 0 then .error (.value "negative seek position") reader
        else .ok target.toNat { reader with position := target.toNat })
      (if target < 0 then .error (.value "negative seek position") stream
        else .ok target.toNat { stream with position := target.toNat }) := by
    split
    · exact ⟨rfl, stands⟩
    · exact ⟨rfl, stands.decodes, stands.cached, stands.content, rfl⟩
  unfold CsoReader.seek MemoryStream.seek MemoryStream.origin
  dsimp only
  by_cases fromStart : whence = 0
  · rw [if_pos fromStart, if_pos fromStart]
    dsimp only
    rw [Int.zero_add]
    exact moved offset
  · rw [if_neg fromStart, if_neg fromStart]
    by_cases fromHere : whence = 1
    · rw [if_pos fromHere, if_pos fromHere, stands.position]
      exact moved _
    · rw [if_neg fromHere, if_neg fromHere]
      by_cases fromEnd : whence = 2
      · rw [if_pos fromEnd, if_pos fromEnd, stands.length]
        exact moved _
      · rw [if_neg fromEnd, if_neg fromEnd]
        exact ⟨rfl, stands⟩

theorem Stands.read (stands : Stands decoders reader stream) (size : Option Int) :
    Alike decoders (CsoReader.read decoders size reader) (MemoryStream.read size stream) := by
  have length := stands.length
  have position := stands.position
  have nothing (empty : stream.length size = 0) : Alike decoders (.ok [] reader) (MemoryStream.read size stream) := by
    rw [MemoryStream.read, empty, slice, List.take_zero]
    exact ⟨rfl, stands⟩
  rw [CsoReader.read]
  dsimp only
  split
  · rename_i past
    refine nothing ?_
    rw [MemoryStream.length]
    split
    · omega
    · omega
  · rw [← length, ← position]
    change Alike decoders (if stream.length size = 0 then .ok [] reader else readBlocks decoders (stream.length size) [] reader) _
    split
    · exact nothing ‹_›
    · have bound : reader.position + stream.length size ≤ reader.image.header.uncompressedSize := by
        rw [MemoryStream.length]
        split
        · omega
        · omega
      obtain ⟨cache, ran, cached⟩ := @readBlocks_content decoders reader _ [] stands.decodes stands.cached bound
      rw [ran, MemoryStream.read, stands.content, ← position]
      exact ⟨List.nil_append _, stands.decodes, cached, rfl, rfl⟩

theorem Stands.readinto (stands : Stands decoders reader stream) (buffer : Bytes) :
    Alike decoders (CsoReader.readinto decoders buffer reader) (MemoryStream.readinto buffer stream) := by
  unfold CsoReader.readinto MemoryStream.readinto
  exact (stands.read (some buffer.length)).returning fun data => (data.length, data ++ buffer.drop data.length)

theorem Stands.answer (stands : Stands decoders reader stream) (call : StreamCall) :
    (CsoReader.answer decoders reader call).1 = (MemoryStream.answer stream call).1 ∧
      Stands decoders (CsoReader.answer decoders reader call).2 (MemoryStream.answer stream call).2 := by
  cases call with
  | tell => exact stands.tell.answered _
  | seek offset whence => exact (stands.seek offset whence).answered _
  | read size => exact (stands.read size).answered _
  | readinto buffer => exact (stands.readinto buffer).answered _

theorem Stands.replies (stands : Stands decoders reader stream) (calls : List StreamCall) :
    replies (CsoReader.answer decoders) reader calls = replies MemoryStream.answer stream calls := by
  induction calls generalizing reader stream with
  | nil => rfl
  | cons call calls ih =>
    obtain ⟨same, next⟩ := stands.answer call
    rw [PspDisasm.replies, PspDisasm.replies, same, ih next]

end Calls

section Errors
variable {decoders : BlockDecoders} {reader : CsoReader} {failure : CsoFailure}

/-- The errors that stand for a broken reader. -/
def Unreachable (failure : CsoFailure) : Prop :=
  ∃ block, failure = .shorterThanExpected block ∨ failure = .negativeStoredSize block

/-- Whether or not the blocks decode, the cache stays true to them and no error of the reader itself is raised. -/
def Safe {α : Type} (decoders : BlockDecoders) : EStateM.Result CsoFailure CsoReader α → Prop
  | .ok _ next => Cached decoders next
  | .error failure next => Cached decoders next ∧ ¬Unreachable failure

theorem reachable_of_blockError {block : Nat} (raised : BlockError block failure) : ¬Unreachable failure := by
  rintro ⟨other, same | same⟩
  · subst same
    cases raised
  · subst same
    cases raised

theorem readBlocks_safe (cached : Cached decoders reader) (size : Nat) (output : Bytes) :
    Safe decoders (readBlocks decoders size output reader) := by
  induction size using Nat.strongRecOn generalizing output reader with
  | ind size ih =>
    by_cases going : 0 < size ∧ reader.position < reader.image.header.uncompressedSize
    · have inside := CsoImage.block_lt going.2
      cases ran : reader.image.decodeBlock decoders (reader.position / reader.image.header.blockSize) with
      | error failure =>
        rw [readBlocks, dif_pos going]
        dsimp only
        rw [readBlock_error cached inside ran]
        exact ⟨cached, reachable_of_blockError (CsoImage.decodeBlock_error inside ran)⟩
      | ok decoded =>
        obtain ⟨take, cache, turn⟩ := readBlocks_turn cached going ran output
        have positive := turn.positive
        rw [turn.goesOn]
        exact @ih (size - take) (by omega) { reader with position := reader.position + take, cache } turn.cached _
    · rw [readBlocks, dif_neg going]
      exact cached

theorem read_safe (cached : Cached decoders reader) (size : Option Int) : Safe decoders (CsoReader.read decoders size reader) := by
  have some (size : Nat) : Safe decoders (if size = 0 then .ok [] reader else readBlocks decoders size [] reader) := by
    split
    · exact cached
    · exact readBlocks_safe cached size []
  unfold CsoReader.read
  dsimp only
  split
  · exact cached
  · exact some _

theorem seek_safe (cached : Cached decoders reader) (offset whence : Int) : Safe decoders (CsoReader.seek offset whence reader) := by
  have moved (target : Int) : Safe decoders
      (if target < 0 then .error (.value "negative seek position") reader
        else .ok target.toNat { reader with position := target.toNat }) := by
    split
    · refine ⟨cached, ?_⟩
      rintro ⟨block, same | same⟩
      · cases same
      · cases same
    · exact cached
  unfold CsoReader.seek
  dsimp only
  split
  · exact moved _
  · split
    · exact moved _
    · split
      · exact moved _
      · refine ⟨cached, ?_⟩
        rintro ⟨block, same | same⟩
        · cases same
        · cases same

theorem readinto_safe (cached : Cached decoders reader) (buffer : Bytes) :
    Safe decoders (CsoReader.readinto decoders buffer reader) := by
  have safe := read_safe cached (some buffer.length)
  unfold CsoReader.readinto
  cases ended : CsoReader.read decoders (some buffer.length) reader with
  | ok data next =>
    rw [ended] at safe
    rw [bind_after ended]
    exact safe
  | error failure next =>
    rw [ended] at safe
    rw [bind_raised ended]
    exact safe

theorem Safe.answered {α : Type} {ended : EStateM.Result CsoFailure CsoReader α} (safe : Safe decoders ended) (reply : α → StreamReply)
    (value : ∀ a failure, reply a ≠ .raised failure) :
    Cached decoders (answered reply ended).2 ∧ ∀ failure, (answered reply ended).1 = .raised failure → ¬Unreachable failure := by
  cases ended with
  | ok a next => exact ⟨safe, fun failure same => absurd same (value a failure)⟩
  | error failure next => exact ⟨safe.1, fun other same => StreamReply.raised.inj same ▸ safe.2⟩

theorem answer_safe (cached : Cached decoders reader) (call : StreamCall) :
    Cached decoders (CsoReader.answer decoders reader call).2 ∧
      ∀ failure, (CsoReader.answer decoders reader call).1 = .raised failure → ¬Unreachable failure := by
  cases call with
  | tell =>
    have safe : Safe decoders (CsoReader.tell reader) := cached
    exact safe.answered _ fun _ _ same => nomatch same
  | seek offset whence => exact (seek_safe cached offset whence).answered _ fun _ _ same => nomatch same
  | read size => exact (read_safe cached size).answered _ fun _ _ same => nomatch same
  | readinto buffer => exact (readinto_safe cached buffer).answered _ fun _ _ same => nomatch same

theorem replies_safe (cached : Cached decoders reader) (calls : List StreamCall) {failure : CsoFailure}
    (raised : .raised failure ∈ replies (CsoReader.answer decoders) reader calls) : ¬Unreachable failure := by
  induction calls generalizing reader with
  | nil => cases raised
  | cons call calls ih =>
    obtain ⟨next, reachable⟩ := answer_safe cached call
    rcases List.mem_cons.mp raised with here | later
    · exact reachable failure here.symm
    · exact ih next later

end Errors

theorem init_ok {file : Bytes} {reader : CsoReader} (opened : CsoReader.init file = .ok reader) :
    reader.position = 0 ∧ reader.cache = [] := by
  obtain ⟨image, _, done⟩ := bind_ok.mp opened
  cases done
  exact ⟨rfl, rfl⟩

section Samples

/-- A decompressor for a stream of one stored block. -/
def inflateStored (data : Bytes) : Except String Bytes :=
  if data.head? = some 1 ∧ littleValue (slice data 1 2) = data.length - 5 ∧ littleValue (slice data 3 2) = 0xFFFF - (data.length - 5) then
    .ok (data.drop 5)
  else .error "Error -3 while decompressing data: invalid stored block lengths"

def sampleDecoders : BlockDecoders := ⟨inflateStored, none⟩

/-- Six bytes in blocks of four, the second of them deflated. -/
def sampleFile : Bytes :=
  [0x43, 0x49, 0x53, 0x4F] ++ littleBytes 4 24 ++ littleBytes 8 6 ++ littleBytes 4 4 ++ [1, 0, 0, 0] ++
    littleBytes 4 (2 ^ 31 + 36) ++ littleBytes 4 40 ++ littleBytes 4 47 ++
    [0x41, 0x42, 0x43, 0x44] ++ [1, 2, 0, 0xFD, 0xFF, 0x45, 0x46]

def sampleImage : CsoImage := ⟨sampleFile, ⟨24, 6, 4, 1, 0⟩, [2 ^ 31 + 36, 40, 47], by decide, by decide, by decide⟩

theorem sampleImage_opened : CsoReader.init sampleFile = .ok ⟨sampleImage, 0, []⟩ := rfl

theorem sampleImage_decodes : sampleImage.Decodes sampleDecoders := by
  intro block inside
  have cases : block = 0 ∨ block = 1 := by
    have bound : block < 2 := inside
    omega
  rcases cases with rfl | rfl
  · exact ⟨[0x41, 0x42, 0x43, 0x44], rfl⟩
  · exact ⟨[0x45, 0x46], rfl⟩

example : replies MemoryStream.answer ⟨sampleImage.content sampleDecoders, 0⟩ [.seek (-4) 2, .read (some 3), .tell, .read none] =
    [.position 2, .bytes [0x43, 0x44, 0x45], .position 5, .bytes [0x46]] := by decide

end Samples

end PspDisasm.CsoReader
