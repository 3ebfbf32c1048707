import PspDisasm.Disc.CsoRefinement

namespace PspDisasm.CsoReader
open Foundations

section Calls
variable (decoders : BlockDecoders) (reader : CsoReader)

/-- How many bytes a read returns when nothing fails. -/
def readLength (size : Option Int) : Nat :=
  match size.filter (0 ≤ ·) with
  | none => reader.image.header.uncompressedSize - reader.position
  | some size => min size.toNat (reader.image.header.uncompressedSize - reader.position)

def wanted : StreamCall → Nat
  | .read size => reader.readLength size
  | .readinto buffer => reader.readLength (some buffer.length)
  | _ => 0

/-- The block at the position decodes, but a later one of the range does not. -/
def CutShort (call : StreamCall) : Prop :=
  (∃ decoded, reader.image.decodeBlock decoders (reader.position / reader.image.header.blockSize) = .ok decoded) ∧
    ∃ block, reader.position / reader.image.header.blockSize < block ∧
      block * reader.image.header.blockSize < reader.position + reader.wanted call ∧
        ∃ failure, reader.image.decodeBlock decoders block = .error failure

/-- A call that raises leaves the position, and the later calls are answered as if it had never been made. -/
def Undone (call : StreamCall) : Prop :=
  ∀ failure, (reader.answer decoders call).1 = .raised failure → (reader.answer decoders call).2.position = reader.position ∧
    ∀ later, replies (CsoReader.answer decoders) (reader.answer decoders call).2 later = replies (CsoReader.answer decoders) reader later

/-- The reader behind some calls. -/
def runTo (calls : List StreamCall) : CsoReader := calls.foldl (fun reader call => (reader.answer decoders call).2) reader

end Calls

section Cache
variable {decoders : BlockDecoders} {reader : CsoReader} {cache : Dict Nat Bytes} {α : Type}

/-- Two outcomes that differ in the cached blocks only. -/
def Agree (decoders : BlockDecoders) : EStateM.Result CsoFailure CsoReader α → EStateM.Result CsoFailure CsoReader α → Prop
  | .ok value next, .ok other after => value = other ∧ Cached decoders next ∧ Cached decoders after ∧
    ∃ cache, after = { next with cache }
  | .error failure next, .error other after => failure = other ∧ Cached decoders next ∧ Cached decoders after ∧
    ∃ cache, after = { next with cache }
  | _, _ => False

theorem Agree.answered {ended other : EStateM.Result CsoFailure CsoReader α} (agree : Agree decoders ended other)
    (reply : α → StreamReply) : (answered reply ended).1 = (answered reply other).1 ∧
      Cached decoders (answered reply ended).2 ∧ Cached decoders (answered reply other).2 ∧
        ∃ cache, (answered reply other).2 = { (answered reply ended).2 with cache } := by
  cases ended with
  | ok value next =>
    cases other with
    | ok result after => exact ⟨congrArg reply agree.1, agree.2⟩
    | error failure after => exact agree.elim
  | error failure next =>
    cases other with
    | ok result after => exact agree.elim
    | error raised after => exact ⟨congrArg StreamReply.raised agree.1, agree.2⟩

theorem Agree.same (cached : Cached decoders reader) (also : Cached decoders { reader with cache }) (value : α) :
    Agree decoders (.ok value reader) (.ok value { reader with cache }) := ⟨rfl, cached, also, cache, rfl⟩

theorem readBlocks_agree (cached : Cached decoders reader) (also : Cached decoders { reader with cache }) (size : Nat)
    (output : Bytes) : Agree decoders (readBlocks decoders size output reader) (readBlocks decoders size output { reader with cache }) := by
  induction size using Nat.strongRecOn generalizing output reader cache with
  | ind size ih =>
    by_cases going : 0 < size ∧ reader.position < reader.image.header.uncompressedSize
    · have inside := CsoImage.block_lt going.2
      have offset := offset_lt going.2
      rw [readBlocks, dif_pos going, readBlocks, dif_pos going]
      dsimp only
      cases ran : reader.image.decodeBlock decoders (reader.position / reader.image.header.blockSize) with
      | error failure =>
        rw [readBlock_error cached inside ran, readBlock_error also inside ran]
        exact ⟨rfl, cached, also, cache, rfl⟩
      | ok decoded =>
        have length := CsoImage.decodeBlock_length ran
        obtain ⟨stored, read, cachedNext⟩ := readBlock_ok cached inside ran
        obtain ⟨alsoStored, alsoRead, alsoNext⟩ := readBlock_ok also inside ran
        rw [read, alsoRead]
        dsimp only
        rw [dif_neg (by omega), dif_neg (by omega)]
        have positive : 0 < min size (decoded.length - reader.position % reader.image.header.blockSize) := by omega
        generalize min size (decoded.length - reader.position % reader.image.header.blockSize) = take at positive ⊢
        exact @ih (size - take) (by omega) { reader with position := reader.position + take, cache := stored } alsoStored cachedNext
          alsoNext _
    · rw [readBlocks, dif_neg going, readBlocks, dif_neg going]
      exact .same cached also output

theorem read_eq (size : Option Int) : CsoReader.read decoders size reader =
    if reader.readLength size = 0 then .ok [] reader else readBlocks decoders (reader.readLength size) [] reader := by
  rw [CsoReader.read]
  dsimp only
  split
  · rename_i past
    have nothing : reader.readLength size = 0 := by
      rw [readLength]
      split
      · omega
      · omega
    rw [if_pos nothing]
  · rfl

theorem read_agree (cached : Cached decoders reader) (also : Cached decoders { reader with cache }) (size : Option Int) :
    Agree decoders (CsoReader.read decoders size reader) (CsoReader.read decoders size { reader with cache }) := by
  have length : readLength { reader with cache } size = reader.readLength size := rfl
  rw [read_eq, read_eq, length]
  split
  · exact .same cached also []
  · exact readBlocks_agree cached also _ _

theorem readinto_agree (cached : Cached decoders reader) (also : Cached decoders { reader with cache }) (buffer : Bytes) :
    Agree decoders (CsoReader.readinto decoders buffer reader) (CsoReader.readinto decoders buffer { reader with cache }) := by
  have agree := read_agree cached also (some buffer.length)
  unfold CsoReader.readinto
  cases ended : CsoReader.read decoders (some buffer.length) reader with
  | ok data next =>
    cases other : CsoReader.read decoders (some buffer.length) { reader with cache } with
    | ok result after =>
      rw [ended, other] at agree
      rw [bind_after ended, bind_after other]
      exact ⟨by rw [agree.1], agree.2⟩
    | error failure after =>
      rw [ended, other] at agree
      exact agree.elim
  | error failure next =>
    cases other : CsoReader.read decoders (some buffer.length) { reader with cache } with
    | ok result after =>
      rw [ended, other] at agree
      exact agree.elim
    | error raised after =>
      rw [ended, other] at agree
      rw [bind_raised ended, bind_raised other]
      exact agree

theorem seek_agree (cached : Cached decoders reader) (also : Cached decoders { reader with cache }) (offset whence : Int) :
    Agree decoders (CsoReader.seek offset whence reader) (CsoReader.seek offset whence { reader with cache }) := by
  have raised (failure : CsoFailure) : Agree (α := Nat) decoders (.error failure reader) (.error failure { reader with cache }) :=
    ⟨rfl, cached, also, cache, rfl⟩
  have moved (target : Int) : Agree decoders
      (if target < 0 then .error (.value "negative seek position") reader
        else .ok target.toNat { reader with position := target.toNat })
      (if target < 0 then .error (.value "negative seek position") { reader with cache }
        else .ok target.toNat { reader with position := target.toNat, cache }) := by
    split
    · exact raised _
    · exact ⟨rfl, cached, also, cache, rfl⟩
  unfold CsoReader.seek
  dsimp only
  split
  · exact moved _
  · split
    · exact moved _
    · split
      · exact moved _
      · exact raised _

/-- The cache does not show in what a caller sees. -/
theorem answer_agree (cached : Cached decoders reader) (also : Cached decoders { reader with cache }) (call : StreamCall) :
    (reader.answer decoders call).1 = (CsoReader.answer decoders { reader with cache } call).1 ∧
      Cached decoders (reader.answer decoders call).2 ∧ Cached decoders (CsoReader.answer decoders { reader with cache } call).2 ∧
        ∃ stored, (CsoReader.answer decoders { reader with cache } call).2 = { (reader.answer decoders call).2 with cache := stored } := by
  cases call with
  | tell =>
    have same : Agree decoders (CsoReader.tell reader) (CsoReader.tell { reader with cache }) := .same cached also _
    exact same.answered _
  | seek offset whence => exact (seek_agree cached also offset whence).answered _
  | read size => exact (read_agree cached also size).answered _
  | readinto buffer => exact (readinto_agree cached also buffer).answered _

theorem replies_agree (cached : Cached decoders reader) (also : Cached decoders { reader with cache }) (calls : List StreamCall) :
    replies (CsoReader.answer decoders) reader calls = replies (CsoReader.answer decoders) { reader with cache } calls := by
  induction calls generalizing reader cache with
  | nil => rfl
  | cons call calls ih =>
    obtain ⟨same, next, alsoNext, stored, after⟩ := answer_agree cached also call
    rw [after] at alsoNext
    rw [replies, replies, same, after, ih next alsoNext]

end Cache

section Failures
variable {decoders : BlockDecoders} {reader : CsoReader} {size block : Nat}

/-- A read of some bytes at the position needs the block. -/
def Touches (reader : CsoReader) (size block : Nat) : Prop :=
  0 < size ∧ reader.position / reader.image.header.blockSize ≤ block ∧
    block * reader.image.header.blockSize < reader.position + size

/-- The first block of a range that does not decode, with its error. -/
structure FirstFailure (decoders : BlockDecoders) (reader : CsoReader) (size block : Nat) (failure : CsoFailure) : Prop where
  touched : Touches reader size block
  fails : reader.image.decodeBlock decoders block = .error failure
  earlier : ∀ before < block, reader.position / reader.image.header.blockSize ≤ before →
    ∃ decoded, reader.image.decodeBlock decoders before = .ok decoded

/-- A loop that raises stops at the start of the first block that does not decode, or stays in it. -/
theorem readBlocks_ends (cached : Cached decoders reader) (within : reader.position + size ≤ reader.image.header.uncompressedSize)
    (output : Bytes) :
    (∃ data next, readBlocks decoders size output reader = .ok data next ∧
      ∀ block, Touches reader size block → ∃ decoded, reader.image.decodeBlock decoders block = .ok decoded) ∨
    ∃ failure block cache, FirstFailure decoders reader size block failure ∧
      readBlocks decoders size output reader =
        .error failure { reader with position := max reader.position (block * reader.image.header.blockSize), cache } ∧
      Cached decoders { reader with position := max reader.position (block * reader.image.header.blockSize), cache } := by
  induction size using Nat.strongRecOn generalizing output reader with
  | ind size ih =>
    by_cases going : 0 < size ∧ reader.position < reader.image.header.uncompressedSize
    · have inside := CsoImage.block_lt going.2
      have whole := Nat.div_add_mod' reader.position reader.image.header.blockSize
      cases ran : reader.image.decodeBlock decoders (reader.position / reader.image.header.blockSize) with
      | error failure =>
        have stays : max reader.position (reader.position / reader.image.header.blockSize * reader.image.header.blockSize) =
            reader.position := by omega
        refine .inr ⟨failure, _, reader.cache, ⟨⟨going.1, le_rfl, by omega⟩, ran, fun before below above => ?_⟩, ?_⟩
        · omega
        · rw [stays, readBlocks, dif_pos going]
          dsimp only
          rw [readBlock_error cached inside ran]
          exact ⟨rfl, cached⟩
      | ok decoded =>
        obtain ⟨take, cache, turn⟩ := readBlocks_turn cached going ran output
        have positive := turn.positive
        have fits := turn.fits
        have inBlock := turn.inBlock
        have length := CsoImage.decodeBlock_length ran
        rw [CsoImage.expectedSize] at length
        -- What is left is behind the block at the position, or in the rest of it.
        have behind : ∀ block, reader.position / reader.image.header.blockSize < block →
            reader.position + take ≤ block * reader.image.header.blockSize := by
          intro block later
          have next := Nat.mul_le_mul_right reader.image.header.blockSize (Nat.succ_le_of_lt later)
          rw [Nat.succ_mul] at next
          omega
        have same : ∀ block, reader.position / reader.image.header.blockSize < block →
            (Touches { reader with position := reader.position + take, cache } (size - take) block ↔ Touches reader size block) := by
          intro block later
          have start := behind block later
          constructor
          · rintro ⟨_, _, below⟩
            exact ⟨going.1, later.le, by dsimp only at below; omega⟩
          · rintro ⟨_, _, below⟩
            exact ⟨by omega, Nat.div_le_of_le_mul (by rw [Nat.mul_comm]; exact start), by dsimp only; omega⟩
        rw [turn.goesOn]
        rcases @ih (size - take) (by omega) { reader with position := reader.position + take, cache } turn.cached
          (by dsimp only; omega) _ with ⟨data, next, ended, all⟩ | ⟨failure, block, stored, first, ended, after⟩
        · refine .inl ⟨data, next, ended, fun block touched => ?_⟩
          rcases Nat.eq_or_lt_of_le touched.2.1 with here | later
          · exact ⟨decoded, here ▸ ran⟩
          · exact all block ((same block later).mpr touched)
        · have later : reader.position / reader.image.header.blockSize < block := by
            have notBefore : reader.position / reader.image.header.blockSize ≤ block :=
              (Nat.div_le_div_right (Nat.le_add_right _ take)).trans first.touched.2.1
            refine Nat.lt_of_le_of_ne notBefore fun here => ?_
            have fails := first.fails
            rw [← here] at fails
            cases ran.symm.trans fails
          have start := behind block later
          have stops : max (reader.position + take) (block * reader.image.header.blockSize) =
              max reader.position (block * reader.image.header.blockSize) := by omega
          dsimp only at ended after
          rw [stops] at ended after
          refine .inr ⟨failure, block, stored, ⟨(same block later).mp first.touched, first.fails, fun before below above => ?_⟩,
            ended, after⟩
          rcases Nat.eq_or_lt_of_le above with here | between
          · exact ⟨decoded, here ▸ ran⟩
          · refine first.earlier before below (Nat.div_le_of_le_mul ?_)
            rw [Nat.mul_comm]
            exact behind before between
    · refine .inl ⟨output, reader, ?_, fun block touched => absurd ⟨touched.1, ?_⟩ going⟩
      · rw [readBlocks, dif_neg going]
      · have start := touched.1
        omega

theorem readLength_within (size : Option Int) (some : 0 < reader.readLength size) :
    reader.position + reader.readLength size ≤ reader.image.header.uncompressedSize := by
  rw [readLength] at some ⊢
  split at some
  · omega
  · omega

/-- Where a read that raises leaves the reader. -/
theorem read_ends (cached : Cached decoders reader) (size : Option Int) :
    (∃ data next, CsoReader.read decoders size reader = .ok data next ∧
      ∀ block, Touches reader (reader.readLength size) block → ∃ decoded, reader.image.decodeBlock decoders block = .ok decoded) ∨
    ∃ failure block cache, FirstFailure decoders reader (reader.readLength size) block failure ∧
      CsoReader.read decoders size reader =
        .error failure { reader with position := max reader.position (block * reader.image.header.blockSize), cache } ∧
      Cached decoders { reader with position := max reader.position (block * reader.image.header.blockSize), cache } := by
  rw [read_eq]
  split
  · rename_i nothing
    exact .inl ⟨[], reader, rfl, fun block touched => absurd nothing touched.1.ne'⟩
  · rename_i something
    exact readBlocks_ends cached (readLength_within size (Nat.pos_of_ne_zero something)) []

/-- Where a call that reads leaves the reader. -/
theorem answer_ends (cached : Cached decoders reader) (call : StreamCall) :
    ((∀ failure, (reader.answer decoders call).1 = .raised failure → (reader.answer decoders call).2 = reader) ∧
      ∀ block, Touches reader (reader.wanted call) block → ∃ decoded, reader.image.decodeBlock decoders block = .ok decoded) ∨
    ∃ failure block cache, FirstFailure decoders reader (reader.wanted call) block failure ∧
      reader.answer decoders call =
        (.raised failure, { reader with position := max reader.position (block * reader.image.header.blockSize), cache }) ∧
      Cached decoders { reader with position := max reader.position (block * reader.image.header.blockSize), cache } := by
  cases call with
  | tell => exact .inl ⟨fun failure raised => (nomatch raised), fun block touched => absurd touched.1 (Nat.lt_irrefl 0)⟩
  | seek offset whence =>
    refine .inl ⟨fun failure raised => ?_, fun block touched => absurd touched.1 (Nat.lt_irrefl 0)⟩
    have moved (target : Int) : ∀ failure,
        (answered StreamReply.position (if target < 0 then .error (.value "negative seek position") reader
          else .ok target.toNat { reader with position := target.toNat })).1 = .raised failure →
        (answered StreamReply.position (if target < 0 then .error (.value "negative seek position") reader
          else .ok target.toNat { reader with position := target.toNat })).2 = reader := by
      intro failure raised
      split at raised
      · rename_i negative
        rw [if_pos negative]
        rfl
      · cases raised
    unfold CsoReader.answer CsoReader.seek at raised ⊢
    dsimp only at raised ⊢
    split at raised
    · rename_i fromStart
      rw [if_pos fromStart]
      exact moved _ failure raised
    · rename_i elsewhere
      rw [if_neg elsewhere]
      split at raised
      · rename_i fromHere
        rw [if_pos fromHere]
        exact moved _ failure raised
      · rename_i noHere
        rw [if_neg noHere]
        split at raised
        · rename_i fromEnd
          rw [if_pos fromEnd]
          exact moved _ failure raised
        · rename_i nowhere
          rw [if_neg nowhere]
          rfl
  | read size =>
    rcases read_ends cached size with ⟨data, next, ended, all⟩ | ⟨failure, block, cache, first, ended, after⟩
    · refine .inl ⟨fun failure raised => ?_, all⟩
      rw [CsoReader.answer, ended] at raised
      cases raised
    · refine .inr ⟨failure, block, cache, first, ?_, after⟩
      rw [CsoReader.answer, ended]
      rfl
  | readinto buffer =>
    rcases read_ends cached (some buffer.length) with ⟨data, next, ended, all⟩ | ⟨failure, block, cache, first, ended, after⟩
    · refine .inl ⟨fun failure raised => ?_, all⟩
      rw [CsoReader.answer, CsoReader.readinto, bind_after ended] at raised
      cases raised
    · refine .inr ⟨failure, block, cache, first, ?_, after⟩
      rw [CsoReader.answer, CsoReader.readinto, bind_raised ended]
      rfl

/-- A call that raises is undone unless it read a block before the one that fails. -/
theorem undone_iff (cached : Cached decoders reader) (call : StreamCall) :
    Undone decoders reader call ↔ ¬CutShort decoders reader call := by
  have whole := Nat.div_add_mod' reader.position reader.image.header.blockSize
  have below := Nat.mod_lt reader.position reader.image.blockSize_pos
  have ahead : ∀ block, reader.position / reader.image.header.blockSize < block →
      reader.position < block * reader.image.header.blockSize := by
    intro block later
    have next := Nat.mul_le_mul_right reader.image.header.blockSize (Nat.succ_le_of_lt later)
    rw [Nat.succ_mul] at next
    omega
  rcases answer_ends cached call with ⟨kept, all⟩ | ⟨failure, block, cache, first, ended, after⟩
  · refine iff_of_true (fun failure raised => ?_) ?_
    · rw [kept failure raised]
      exact ⟨rfl, fun _ => rfl⟩
    · rintro ⟨_, block, later, within, failure, fails⟩
      have start := ahead block later
      obtain ⟨decoded, ran⟩ := all block ⟨by omega, later.le, within⟩
      cases ran.symm.trans fails
  · constructor
    · rintro undone ⟨⟨decoded, ran⟩, _⟩
      have position := (undone failure (congrArg Prod.fst ended)).1
      rw [ended] at position
      have later : reader.position / reader.image.header.blockSize < block := by
        refine Nat.lt_of_le_of_ne first.touched.2.1 fun here => ?_
        have fails := first.fails
        rw [← here] at fails
        cases ran.symm.trans fails
      have start := ahead block later
      dsimp only at position
      omega
    · intro whole other raised
      have here : reader.position / reader.image.header.blockSize = block := by
        by_contra different
        have later := Nat.lt_of_le_of_ne first.touched.2.1 different
        exact whole ⟨first.earlier _ later le_rfl, block, later, first.touched.2.2, failure, first.fails⟩
      have stays : max reader.position (block * reader.image.header.blockSize) = reader.position := by
        rw [← here]
        omega
      rw [stays] at ended after
      rw [ended]
      exact ⟨rfl, fun later => (replies_agree cached after later).symm⟩

theorem runTo_cached (cached : Cached decoders reader) (calls : List StreamCall) : Cached decoders (runTo decoders reader calls) := by
  induction calls generalizing reader with
  | nil => exact cached
  | cons call calls ih => exact ih (answer_safe cached call).1

end Failures

/-- In a run of calls, the calls that raise have no effect exactly when none of them fails behind a block that it has read. -/
theorem failedCalls_undone {file : Bytes} {reader : CsoReader} (opened : CsoReader.init file = .ok reader) (decoders : BlockDecoders)
    (calls : List StreamCall) :
    (∀ before call rest, calls = before ++ call :: rest → Undone decoders (runTo decoders reader before) call) ↔
      ∀ before call rest, calls = before ++ call :: rest → ¬CutShort decoders (runTo decoders reader before) call := by
  have cached : Cached decoders reader := by
    rw [Cached, (init_ok opened).2]
    exact List.forall_mem_nil _
  refine forall_congr' fun before => forall_congr' fun call => forall_congr' fun rest => imp_congr_right fun _ => ?_
  exact undone_iff (runTo_cached cached before) call

section Samples

/-- A read that stays in the first block. -/
theorem sampleRead_undone : Undone sampleDecoders (runTo sampleDecoders ⟨sampleImage, 0, []⟩ []) (.read (some 3)) := by
  refine (failedCalls_undone sampleImage_opened sampleDecoders [.read (some 3)]).mpr (fun before call rest split => ?_) [] _ [] rfl
  rcases List.cons_eq_append_iff.mp split with ⟨rfl, here⟩ | ⟨_, _, none⟩
  · obtain ⟨rfl, rfl⟩ := List.cons.inj here
    rintro ⟨_, block, later, within, _⟩
    have first : 0 < block := later
    have inside : block * 4 < 0 + 3 := within
    omega
  · exact absurd none.symm (by simp)

/-- The stored length in the second block and its complement do not match. -/
def damagedFile : Bytes :=
  [0x43, 0x49, 0x53, 0x4F] ++ littleBytes 4 24 ++ littleBytes 8 6 ++ littleBytes 4 4 ++ [1, 0, 0, 0] ++
    littleBytes 4 (2 ^ 31 + 36) ++ littleBytes 4 40 ++ littleBytes 4 47 ++
    [0x41, 0x42, 0x43, 0x44] ++ [1, 3, 0, 0xFD, 0xFF, 0x45, 0x46]

def damagedImage : CsoImage := { sampleImage with file := damagedFile }

/-- The bytes of the first block are skipped by the call that fails in the second. -/
theorem damagedRead_moves : ∃ reader, CsoReader.init damagedFile = .ok reader ∧ ¬Undone sampleDecoders reader (.read (some 6)) ∧
    replies (CsoReader.answer sampleDecoders) reader [.tell, .read (some 6), .tell] =
      [.position 0, .raised (.invalidDeflate 1 "Error -3 while decompressing data: invalid stored block lengths"), .position 4] := by
  refine ⟨⟨damagedImage, 0, []⟩, rfl, fun undone => ?_, by decide +kernel⟩
  have raised : (CsoReader.answer sampleDecoders ⟨damagedImage, 0, []⟩ (.read (some 6))).1 =
      .raised (.invalidDeflate 1 "Error -3 while decompressing data: invalid stored block lengths") := by decide +kernel
  have moved : (CsoReader.answer sampleDecoders ⟨damagedImage, 0, []⟩ (.read (some 6))).2.position = 4 := by decide +kernel
  have stays := (undone _ raised).1
  rw [moved] at stays
  cases stays

end Samples

end PspDisasm.CsoReader
