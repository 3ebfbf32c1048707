import PspDisasm.Foundations.ByteWords
import PspDisasm.Foundations.InterruptedStream
import PspDisasm.Runtime.Messages

namespace PspDisasm
open Foundations

/-- What a `recv` can meet. Of some data it takes what it asked for, and the rest
stays; no data at all is the end of the connection. -/
inductive RecvEvent
  | data (bytes : Bytes)
  | timeout
  | failed (message : String)
deriving DecidableEq, Repr

/-- What the socket will give. Behind the last event every `recv` times out. -/
abbrev Schedule := List RecvEvent

abbrev SocketM := EStateM RuntimeFailure Schedule

def timedOut : RuntimeFailure := .timeout "PPSSPP debugger receive timed out"

def connectionError (message : String) : RuntimeFailure :=
  .connection ("PPSSPP debugger connection error: " ++ message)

def closedUnexpectedly : RuntimeFailure := .connection "PPSSPP debugger connection closed unexpectedly"

/-- The loop of `_recv_exact`. Its chunks are local: no exception hands them over. -/
def recvLoop : Schedule → Nat → List Bytes → EStateM.Result RuntimeFailure Schedule Bytes
  | schedule, 0, chunks => .ok chunks.flatten schedule
  | [], _ + 1, _ => .error timedOut []
  | .timeout :: rest, _ + 1, _ => .error timedOut rest
  | .failed message :: rest, _ + 1, _ => .error (connectionError message) rest
  | .data bytes :: rest, remaining + 1, chunks =>
    if bytes = [] then .error closedUnexpectedly rest
    else if remaining + 1 < bytes.length then
      .ok (chunks ++ [bytes.take (remaining + 1)]).flatten (.data (bytes.drop (remaining + 1)) :: rest)
    else recvLoop rest (remaining + 1 - bytes.length) (chunks ++ [bytes])

def recvExact (size : Nat) : SocketM Bytes := fun schedule => recvLoop schedule size []

def fragmented : RuntimeFailure := .protocol "fragmented PPSSPP WebSocket frames are unsupported"

def oversized (length maxFrameBytes : Nat) : RuntimeFailure :=
  .protocol ("PPSSPP debugger frame exceeds the maximum size (" ++ toString length ++ " > " ++
    toString maxFrameBytes ++ " bytes)")

def readLength (second : UInt8) : SocketM Nat := do
  let length := (second &&& 0x7F).toNat
  if length = 126 then
    let bytes ← recvExact 2
    pure (Endianness.big.value bytes)
  else if length = 127 then
    let bytes ← recvExact 8
    pure (Endianness.big.value bytes)
  else pure length

def readMaskKey (second : UInt8) : SocketM Bytes :=
  if second &&& 0x80 ≠ 0 then recvExact 4 else pure []

def unmask (maskKey payload : Bytes) : Bytes :=
  if maskKey = [] then payload
  else payload.mapIdx fun index value => value ^^^ maskKey.getD (index % 4) 0

/-- `_receive_frame`: the opcode and the payload of a frame. -/
def receiveFrame (maxFrameBytes : Nat) : SocketM (Nat × Bytes) := do
  let header ← recvExact 2
  let first := header.getD 0 0
  let second := header.getD 1 0
  lifted (raiseIf (first &&& 0x80 = 0) fragmented)
  let opcode := (first &&& 0x0F).toNat
  let length ← readLength second
  lifted (raiseIf (maxFrameBytes < length) (oversized length maxFrameBytes))
  let maskKey ← readMaskKey second
  let payload ← recvExact length
  pure (opcode, unmask maskKey payload)

/-- The bytes that the socket still has to give. -/
def received (schedule : Schedule) : Bytes :=
  schedule.flatMap fun
    | .data bytes => bytes
    | _ => []

/-- The parts of the stream between the events that end a call: a timeout, an error and a closed connection. -/
def recvParts : Schedule → Parts UInt8
  | [] => ⟨[], []⟩
  | .data (byte :: bytes) :: rest => ⟨byte :: bytes ++ (recvParts rest).lead, (recvParts rest).later⟩
  | _ :: rest => ⟨[], (recvParts rest).lead :: (recvParts rest).later⟩

theorem recvParts_stream (schedule : Schedule) : (recvParts schedule).stream = received schedule := by
  induction schedule with
  | nil => rfl
  | cons event rest ih =>
    rw [received, List.flatMap_cons, ← received, ← ih]
    rcases event with (_ | ⟨byte, bytes⟩) | _ | _
    all_goals simp [recvParts, Parts.stream]

theorem recvParts_data {bytes : Bytes} (nonempty : bytes ≠ []) (rest : Schedule) :
    recvParts (.data bytes :: rest) = ⟨bytes ++ (recvParts rest).lead, (recvParts rest).later⟩ := by
  cases bytes with
  | nil => exact absurd rfl nonempty
  | cons byte bytes => rfl

theorem recvLoop_zero (schedule : Schedule) (chunks : List Bytes) :
    recvLoop schedule 0 chunks = .ok chunks.flatten schedule := by
  cases schedule <;> rfl

section Loop
variable {rest : Schedule} {bytes : Bytes} {size : Nat} {chunks : List Bytes}

/-- What is left of a chunk longer than needed stays unread. -/
theorem recvLoop_longer (short : size + 1 < bytes.length) :
    Settles recvParts (fun s => recvLoop s (size + 1) chunks) (.data bytes :: rest) (size + 1)
      (.ok (chunks.flatten ++ (recvParts (.data bytes :: rest)).lead.take (size + 1))) := by
  have nonempty : bytes ≠ [] := List.ne_nil_of_length_pos (by omega)
  have left : bytes.drop (size + 1) ≠ [] := by
    rw [ne_eq, List.drop_eq_nil_iff]
    omega
  have parts := recvParts_data nonempty rest
  apply Settles.of_taken (t := .data (bytes.drop (size + 1)) :: rest)
  · rw [parts, List.length_append]
    omega
  · simp only [recvLoop, if_neg nonempty, if_pos short, lifted, parts, List.flatten_append, List.flatten_singleton,
      List.take_append_of_le_length short.le]
  · rw [recvParts_data left, parts, Parts.drop, List.drop_append_of_le_length short.le]

/-- Behind a chunk that is not longer than needed the loop goes on with the rest of the schedule. -/
theorem recvLoop_shorter (nonempty : bytes ≠ []) (long : bytes.length ≤ size + 1)
    (settled : Settles recvParts (fun s => recvLoop s (size + 1 - bytes.length) (chunks ++ [bytes])) rest
      (size + 1 - bytes.length)
      (.ok ((chunks ++ [bytes]).flatten ++ (recvParts rest).lead.take (size + 1 - bytes.length)))) :
    Settles recvParts (fun s => recvLoop s (size + 1) chunks) (.data bytes :: rest) (size + 1)
      (.ok (chunks.flatten ++ (recvParts (.data bytes :: rest)).lead.take (size + 1))) := by
  have parts := recvParts_data nonempty rest
  have ran : recvLoop (.data bytes :: rest) (size + 1) chunks =
      recvLoop rest (size + 1 - bytes.length) (chunks ++ [bytes]) := by
    simp only [recvLoop, if_neg nonempty, if_neg (Nat.not_lt.mpr long)]
  have length : (recvParts (.data bytes :: rest)).lead.length = bytes.length + (recvParts rest).lead.length := by
    rw [parts, List.length_append]
  by_cases within : size + 1 - bytes.length ≤ (recvParts rest).lead.length
  · obtain ⟨t, ended, after⟩ := settled.taken within
    have joined : chunks.flatten ++ (bytes ++ (recvParts rest).lead).take (size + 1) =
        (chunks ++ [bytes]).flatten ++ (recvParts rest).lead.take (size + 1 - bytes.length) := by
      rw [List.take_append, List.take_of_length_le long, List.flatten_append, List.flatten_singleton, List.append_assoc]
    have dropped : (bytes ++ (recvParts rest).lead).drop (size + 1) =
        (recvParts rest).lead.drop (size + 1 - bytes.length) := by
      rw [List.drop_append, List.drop_eq_nil_of_le long, List.nil_append]
    refine .of_taken (by omega) (ran.trans (by rw [parts, joined]; exact ended)) ?_
    rw [after, parts, Parts.drop, Parts.drop, dropped]
  · obtain ⟨failure, t, ended, after⟩ := settled.interrupted (by omega)
    exact .of_interrupted (by omega) (ran.trans ended) (by rw [after, parts, Parts.skip, Parts.skip])

end Loop

/-- However the stream is cut into chunks, the loop takes what it needs in front of the next interruption. -/
theorem recvLoop_settles (schedule : Schedule) (size : Nat) (chunks : List Bytes) :
    Settles recvParts (fun s => recvLoop s size chunks) schedule size
      (.ok (chunks.flatten ++ (recvParts schedule).lead.take size)) := by
  induction schedule generalizing size chunks with
  | nil =>
    cases size with
    | zero => exact .of_taken (Nat.zero_le _) (by simp [recvLoop_zero, lifted]) rfl
    | succ size => exact .of_interrupted (Nat.zero_lt_succ _) rfl rfl
  | cons event rest ih =>
    cases size with
    | zero => exact .of_taken (Nat.zero_le _) (by simp [recvLoop_zero, lifted]) rfl
    | succ size =>
      cases event with
      | timeout => exact .of_interrupted (Nat.zero_lt_succ _) rfl rfl
      | failed message => exact .of_interrupted (Nat.zero_lt_succ _) rfl rfl
      | data bytes =>
        by_cases empty : bytes = []
        · subst empty
          exact .of_interrupted (Nat.zero_lt_succ _) rfl rfl
        by_cases short : size + 1 < bytes.length
        · exact recvLoop_longer short
        · exact recvLoop_shorter empty (by omega) (ih _ _)

theorem recvExact_settles (size : Nat) (schedule : Schedule) :
    Settles recvParts (recvExact size) schedule size (.ok ((recvParts schedule).lead.take size)) :=
  recvLoop_settles schedule size []

/-- Where the stream goes on with some bytes, these are what the loop reads. -/
theorem recvExact_reads {schedule : Schedule} {part rest : Bytes} (ahead : received schedule = part ++ rest) :
    Settles recvParts (recvExact part.length) schedule part.length (.ok part) := by
  refine (recvExact_settles part.length schedule).congr fun within => ?_
  rw [Parts.take_lead ((recvParts_stream schedule).trans ahead) within]

theorem recvExact_steady (size : Nat) : Steady recvParts (recvExact size) :=
  fun schedule => ⟨size, _, recvExact_settles size schedule⟩

theorem received_after {s t : Schedule} {part rest : Bytes} (ahead : received s = part ++ rest)
    (within : part.length ≤ (recvParts s).lead.length) (after : recvParts t = (recvParts s).drop part.length) :
    received t = rest := by
  rw [← recvParts_stream, after, Parts.stream_drop within, recvParts_stream, ahead, List.drop_left]

/-- A step that takes just the first bytes of the stream leaves the others to the next step. -/
theorem settles_bind {β γ : Type} {x : SocketM β} {f : β → SocketM γ} {b : β} {s : Schedule} {part rest : Bytes}
    {more : Nat} {result : Except RuntimeFailure γ} (ahead : received s = part ++ rest)
    (first : Settles recvParts x s part.length (.ok b))
    (second : ∀ t, received t = rest → Settles recvParts (f b) t more result) :
    Settles recvParts (x >>= f) s (part.length + more) result :=
  first.bind fun t _ within after => second t (received_after ahead within after)

theorem readLength_steady (second : UInt8) : Steady recvParts (readLength second) := by
  simp only [readLength]
  split
  · exact .bind (recvExact_steady 2) fun _ => .pure
  · split
    · exact .bind (recvExact_steady 8) fun _ => .pure
    · exact .pure

theorem readMaskKey_steady (second : UInt8) : Steady recvParts (readMaskKey second) := by
  unfold readMaskKey
  split
  · exact recvExact_steady 4
  · exact .pure

/-- Whatever the bytes are, a call reads at least a header. -/
theorem receiveFrame_hungry (maxFrameBytes : Nat) (schedule : Schedule) :
    ∃ size result, 2 ≤ size ∧ Settles recvParts (receiveFrame maxFrameBytes) schedule size result := by
  have settled : ∃ more result, Settles recvParts (receiveFrame maxFrameBytes) schedule (2 + more) result := by
    refine Steady.bind_from (recvExact_settles 2 schedule) fun header => .bind .lifted fun _ => ?_
    refine .bind (readLength_steady _) fun length => .bind .lifted fun _ => ?_
    exact .bind (readMaskKey_steady _) fun maskKey => .bind (recvExact_steady length) fun payload => .pure
  obtain ⟨more, result, settled⟩ := settled
  exact ⟨2 + more, result, by omega, settled⟩

end PspDisasm
