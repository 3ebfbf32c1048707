import PspDisasm.Runtime.ServerFrames

namespace PspDisasm
open Foundations

/-- The bytes are a frame that was sent and all frames sent behind it. -/
def StartsFrame (frames : List ServerFrame) (bytes : Bytes) : Prop :=
  ∃ sent frame rest, frames = sent ++ frame :: rest ∧ bytes = encodeAll (frame :: rest)

/-- Over any number of calls: what they return is a subsequence of what was
sent, and the bytes a call takes for a header are those of a frame. -/
structure KeepsBoundaries (maxFrameBytes : Nat) (frames : List ServerFrame) (schedule : Schedule) : Prop where
  subsequence : ∀ count,
    (resultsAfter (receiveFrame maxFrameBytes) count schedule).Sublist (frames.map ServerFrame.content)
  headers : ∀ count header rest,
    recvExact 2 (stateAfter (receiveFrame maxFrameBytes) count schedule) = .ok header rest →
      StartsFrame frames (received (stateAfter (receiveFrame maxFrameBytes) count schedule))

/-- The points at which the client starts afresh: each start of a part, and the point in a frame up to which a
refused frame is read. Behind the point come the rest of its part and the later parts. -/
inductive Resumes (maxFrameBytes : Nat) (frames : List ServerFrame) (parts : List Bytes) : Bytes → List Bytes → Prop
  | interruption {before part after} : parts = before ++ part :: after → Resumes maxFrameBytes frames parts part after
  | refusal {before front left after sent frame rest} : parts = before ++ (front ++ left) :: after →
      frames = sent ++ frame :: rest → frame.refusal maxFrameBytes ≠ none →
      frame.needed maxFrameBytes ≤ front.length →
      left ++ after.flatten = frame.encode.drop (frame.needed maxFrameBytes) ++ encodeAll rest →
      Resumes maxFrameBytes frames parts left after

/-- Wherever the client starts afresh with enough bytes for a header in front of the next interruption, a frame starts. -/
def Undisturbed (maxFrameBytes : Nat) (frames : List ServerFrame) (schedule : Schedule) : Prop :=
  ∀ left after, Resumes maxFrameBytes frames (recvParts schedule).all left after → 2 ≤ left.length →
    StartsFrame frames (left ++ after.flatten)

theorem encodeAll_append (first second : List ServerFrame) :
    encodeAll (first ++ second) = encodeAll first ++ encodeAll second := List.flatMap_append

theorem encodeAll_cons (frame : ServerFrame) (frames : List ServerFrame) :
    encodeAll (frame :: frames) = frame.encode ++ encodeAll frames := List.flatMap_cons

theorem encodeAll_flatten (groups : List (List ServerFrame)) :
    (groups.map encodeAll).flatten = encodeAll groups.flatten := by
  induction groups with
  | nil => rfl
  | cons group groups ih => rw [List.map_cons, List.flatten_cons, List.flatten_cons, encodeAll_append, ih]

section Frames
variable {maxFrameBytes : Nat} {frame : ServerFrame} {frames sent rest other others : List ServerFrame}

theorem ServerFrame.needed_ge (frame : ServerFrame) (maxFrameBytes : Nat) : 2 ≤ frame.needed maxFrameBytes := by
  have length := frame.encode_length
  unfold needed
  split
  · omega
  · split <;> omega

theorem ServerFrame.needed_le (frame : ServerFrame) (maxFrameBytes : Nat) :
    frame.needed maxFrameBytes ≤ frame.encode.length := by
  have length := frame.encode_length
  unfold needed
  split
  · omega
  · split <;> omega

theorem ServerFrame.needed_of_accepted (accepted : frame.refusal maxFrameBytes = none) :
    frame.needed maxFrameBytes = frame.encode.length := by
  unfold refusal at accepted
  unfold needed
  split at accepted
  · cases accepted
  · rename_i whole
    split at accepted
    · cases accepted
    · rename_i small
      rw [if_neg whole, if_neg small]

theorem encodeAll_empty (empty : (encodeAll frames).length = 0) : frames = [] := by
  cases frames with
  | nil => rfl
  | cons frame frames =>
    have positive := frame.encode_length
    rw [encodeAll_cons, List.length_append] at empty
    omega

/-- Of two splits of the frames, the one with fewer bytes behind it comes later. -/
theorem later_split (same : sent ++ rest = other ++ others)
    (fewer : (encodeAll others).length ≤ (encodeAll rest).length) :
    ∃ between, other = sent ++ between ∧ rest = between ++ others := by
  rcases List.append_eq_append_iff.mp same with ⟨between, front, back⟩ | ⟨between, front, back⟩
  · exact ⟨between, front, back⟩
  · rw [back, encodeAll_append, List.length_append] at fewer
    have none : between = [] := encodeAll_empty (by omega)
    subst none
    exact ⟨[], by simpa using front.symm, by simpa using back.symm⟩

end Frames

/-- Between two calls: what has been returned was sent in front of `rest`. The stream goes on with `rest`, unless
fewer bytes than a header are left in front of the next interruption. -/
structure Aligned (frames : List ServerFrame) (schedule state : Schedule) (decoded : List (Nat × Bytes)) : Prop where
  within : (recvParts state).Within (recvParts schedule).all
  split : ∃ sent rest, frames = sent ++ rest ∧ decoded.Sublist (sent.map ServerFrame.content) ∧
    (received state = encodeAll rest ∨
      (recvParts state).lead.length < 2 ∧ (received state).length ≤ (encodeAll rest).length)

section Calls
variable {maxFrameBytes : Nat} {frames sent rest : List ServerFrame} {schedule state : Schedule}
  {decoded : List (Nat × Bytes)}

theorem received_split (s : Schedule) : received s = (recvParts s).lead ++ (recvParts s).later.flatten :=
  (recvParts_stream s).symm

/-- With a header in front of the next interruption, a frame starts. -/
theorem Aligned.starts (aligned : Aligned frames schedule state decoded) (header : 2 ≤ (recvParts state).lead.length) :
    ∃ sent frame rest, frames = sent ++ frame :: rest ∧ decoded.Sublist (sent.map ServerFrame.content) ∧
      received state = encodeAll (frame :: rest) := by
  obtain ⟨sent, rest, split, sublist, ahead⟩ := aligned.split
  have ahead : received state = encodeAll rest := ahead.resolve_right fun short => by omega
  cases rest with
  | nil =>
    have length := congrArg List.length ahead
    rw [received_split, List.length_append] at length
    simp only [encodeAll, List.flatMap_nil, List.length_nil] at length
    omega
  | cons frame rest => exact ⟨sent, frame, rest, split, sublist, ahead⟩

/-- A call after which the client starts afresh, on a frame or too near to the next interruption to read a header. -/
theorem Aligned.afresh (within : (recvParts state).Within (recvParts schedule).all) (split : frames = sent ++ rest)
    (sublist : decoded.Sublist (sent.map ServerFrame.content))
    (fewer : (received state).length ≤ (encodeAll rest).length)
    (starts : 2 ≤ (recvParts state).lead.length → StartsFrame frames (received state)) :
    Aligned frames schedule state decoded := by
  refine ⟨within, ?_⟩
  by_cases header : 2 ≤ (recvParts state).lead.length
  · obtain ⟨other, frame, others, same, ahead⟩ := starts header
    obtain ⟨between, rfl, _⟩ := later_split (split.symm.trans same) (ahead ▸ fewer)
    refine ⟨sent ++ between, frame :: others, same, ?_, Or.inl ahead⟩
    rw [List.map_append]
    exact sublist.trans (List.sublist_append_left ..)
  · exact ⟨sent, rest, split, sublist, Or.inr ⟨by omega, fewer⟩⟩

/-- An interruption takes the client to the start of the next part. -/
theorem Aligned.interrupted {next : Schedule} (aligned : Aligned frames schedule state decoded)
    (undisturbed : Undisturbed maxFrameBytes frames schedule)
    (skipped : recvParts next = (recvParts state).skip) : Aligned frames schedule next decoded := by
  obtain ⟨sent, rest, split, sublist, ahead⟩ := aligned.split
  obtain ⟨within, starts⟩ := aligned.within.skip
  rw [← skipped] at within starts
  have fewer : (received next).length ≤ (received state).length := by
    rw [← recvParts_stream, ← recvParts_stream, skipped]
    exact Parts.stream_skip_le
  refine .afresh within split sublist ?_ fun header => ?_
  · rcases ahead with same | ⟨_, less⟩
    · rwa [← same]
    · omega
  · obtain ⟨before, listed⟩ := starts (List.ne_nil_of_length_pos (by omega))
    rw [received_split]
    exact undisturbed _ _ (.interruption listed) header

/-- An accepted frame is returned, and the client is on the next one. -/
theorem Aligned.accepted {frame : ServerFrame} (aligned : Aligned frames schedule state decoded)
    (split : frames = sent ++ frame :: rest) (sublist : decoded.Sublist (sent.map ServerFrame.content))
    (ahead : received state = frame.encode ++ encodeAll rest)
    (fits : frame.needed maxFrameBytes ≤ (recvParts state).lead.length)
    (allowed : frame.refusal maxFrameBytes = none) :
    Aligned frames schedule (finalState (receiveFrame maxFrameBytes state))
      (decoded ++ returned (receiveFrame maxFrameBytes) state) := by
  have settled : Settles recvParts (receiveFrame maxFrameBytes) state _ _ := receiveFrame_settles ahead
  obtain ⟨next, ran, after⟩ := settled.taken fits
  simp only [ServerFrame.result, allowed, lifted] at ran
  rw [returned_ok ran, ran, finalState]
  rw [ServerFrame.needed_of_accepted allowed] at fits after
  refine ⟨after ▸ aligned.within.drop, sent ++ [frame], rest, ?_, ?_, Or.inl (received_after ahead fits after)⟩
  · rw [split, List.append_assoc, List.singleton_append]
  · rw [List.map_append, List.map_singleton]
    exact sublist.append (List.Sublist.refl _)

/-- Of a refused frame what is behind the refused field stays unread. -/
theorem Aligned.refused {frame : ServerFrame} (aligned : Aligned frames schedule state decoded)
    (undisturbed : Undisturbed maxFrameBytes frames schedule)
    (split : frames = sent ++ frame :: rest) (sublist : decoded.Sublist (sent.map ServerFrame.content))
    (ahead : received state = frame.encode ++ encodeAll rest)
    (fits : frame.needed maxFrameBytes ≤ (recvParts state).lead.length)
    {failure : RuntimeFailure} (refusal : frame.refusal maxFrameBytes = some failure) :
    Aligned frames schedule (finalState (receiveFrame maxFrameBytes state))
      (decoded ++ returned (receiveFrame maxFrameBytes) state) := by
  have settled : Settles recvParts (receiveFrame maxFrameBytes) state _ _ := receiveFrame_settles ahead
  obtain ⟨next, ran, after⟩ := settled.taken fits
  simp only [ServerFrame.result, refusal, lifted] at ran
  rw [returned_raised ran, ran, finalState, List.append_nil]
  have behind : received next = frame.encode.drop (frame.needed maxFrameBytes) ++ encodeAll rest := by
    rw [← recvParts_stream, after, Parts.stream_drop fits, recvParts_stream, ahead,
      List.drop_append_of_le_length (frame.needed_le maxFrameBytes)]
  refine .afresh (after ▸ aligned.within.drop) split sublist ?_ fun header => ?_
  · rw [behind, encodeAll_cons, List.length_append, List.length_append, List.length_drop]
    omega
  · obtain ⟨before, front, listed⟩ := aligned.within
    have listed : (recvParts schedule).all = before ++ (front ++ (recvParts state).lead.take (frame.needed maxFrameBytes) ++
        (recvParts next).lead) :: (recvParts next).later := by
      rw [listed, after, Parts.drop, List.append_assoc, List.take_append_drop]
    rw [received_split] at behind ⊢
    refine undisturbed _ _ (.refusal listed split (by simp [refusal]) ?_ behind) header
    rw [List.length_append, List.length_take]
    omega

/-- Every call keeps the alignment. -/
theorem Aligned.call (undisturbed : Undisturbed maxFrameBytes frames schedule)
    (aligned : Aligned frames schedule state decoded) :
    Aligned frames schedule (finalState (receiveFrame maxFrameBytes state))
      (decoded ++ returned (receiveFrame maxFrameBytes) state) := by
  have cut : ∀ size result, Settles recvParts (receiveFrame maxFrameBytes) state size result →
      (recvParts state).lead.length < size → Aligned frames schedule (finalState (receiveFrame maxFrameBytes state))
        (decoded ++ returned (receiveFrame maxFrameBytes) state) := by
    intro size result settled short
    obtain ⟨failure, next, ran, _⟩ := settled.interrupted short
    rw [returned_raised ran, List.append_nil]
    exact aligned.interrupted undisturbed (settled.final_interrupted short)
  by_cases header : 2 ≤ (recvParts state).lead.length
  · obtain ⟨sent, frame, rest, split, sublist, ahead⟩ := aligned.starts header
    rw [encodeAll_cons] at ahead
    by_cases fits : frame.needed maxFrameBytes ≤ (recvParts state).lead.length
    · cases refusal : frame.refusal maxFrameBytes with
      | none => exact aligned.accepted split sublist ahead fits refusal
      | some failure => exact aligned.refused undisturbed split sublist ahead fits refusal
    · exact cut _ _ (receiveFrame_settles ahead) (by omega)
  · obtain ⟨size, result, positive, settled⟩ := receiveFrame_hungry maxFrameBytes state
    exact cut size result settled (by omega)

theorem aligned_run (delivers : received schedule = encodeAll frames)
    (undisturbed : Undisturbed maxFrameBytes frames schedule) (count : Nat) :
    Aligned frames schedule (stateAfter (receiveFrame maxFrameBytes) count schedule)
      (resultsAfter (receiveFrame maxFrameBytes) count schedule) := by
  induction count with
  | zero => exact ⟨Parts.within_all, [], frames, rfl, List.Sublist.refl _, Or.inl delivers⟩
  | succ count ih =>
    rw [stateAfter_succ]
    exact ih.call undisturbed

theorem recvExact_lead {bytes : Bytes} {next : Schedule} {size : Nat} (read : recvExact size state = .ok bytes next) :
    size ≤ (recvParts state).lead.length := by
  by_contra short
  obtain ⟨failure, other, ran, _⟩ := (recvExact_settles size state).interrupted (by omega)
  rw [ran] at read
  cases read

theorem keepsBoundaries_of_undisturbed (delivers : received schedule = encodeAll frames)
    (undisturbed : Undisturbed maxFrameBytes frames schedule) : KeepsBoundaries maxFrameBytes frames schedule where
  subsequence count := by
    obtain ⟨sent, rest, split, sublist, _⟩ := (aligned_run delivers undisturbed count).split
    rw [split, List.map_append]
    exact sublist.trans (List.sublist_append_left ..)
  headers count header next read := by
    obtain ⟨sent, frame, rest, split, _, ahead⟩ :=
      (aligned_run delivers undisturbed count).starts (recvExact_lead read)
    exact ⟨sent, frame, rest, split, ahead⟩

/-- A call with a header in front of the next interruption starts at a frame. -/
theorem KeepsBoundaries.starts {count : Nat} {left : Bytes} {after : List Bytes}
    (keeps : KeepsBoundaries maxFrameBytes frames schedule)
    (reached : recvParts (stateAfter (receiveFrame maxFrameBytes) count schedule) = ⟨left, after⟩)
    (header : 2 ≤ left.length) : StartsFrame frames (left ++ after.flatten) := by
  have within : 2 ≤ (recvParts (stateAfter (receiveFrame maxFrameBytes) count schedule)).lead.length := by
    rwa [reached]
  obtain ⟨next, ran, _⟩ := (recvExact_settles 2 _).taken within
  have starts := keeps.headers count _ next ran
  rwa [received_split, reached] at starts

theorem reaches_needed {frame : ServerFrame} {others : List ServerFrame} {count : Nat} {front left : Bytes}
    {after : List Bytes}
    (reached : recvParts (stateAfter (receiveFrame maxFrameBytes) count schedule) = ⟨front ++ left, after⟩)
    (ahead : front ++ left ++ after.flatten = frame.encode ++ encodeAll others)
    (room : frame.needed maxFrameBytes ≤ front.length) :
    recvParts (stateAfter (receiveFrame maxFrameBytes) (count + 1) schedule) =
      ⟨front.drop (frame.needed maxFrameBytes) ++ left, after⟩ := by
  have position : received (stateAfter (receiveFrame maxFrameBytes) count schedule) =
      frame.encode ++ encodeAll others := by
    rw [received_split, reached, ← ahead]
  have settled : Settles recvParts (receiveFrame maxFrameBytes) _ _ _ := receiveFrame_settles position
  have within : frame.needed maxFrameBytes ≤ (front ++ left).length := by
    rw [List.length_append]
    omega
  rw [stateAfter_succ, settled.final (by rwa [reached]), reached, Parts.drop, List.drop_append_of_le_length room]

/-- On its way to a refused frame the client stands at the start of this frame at some time. -/
theorem KeepsBoundaries.reaches_refused {frame : ServerFrame} {count : Nat} {front left : Bytes} {after : List Bytes}
    (keeps : KeepsBoundaries maxFrameBytes frames schedule) (split : frames = sent ++ frame :: rest)
    (fits : frame.needed maxFrameBytes ≤ front.length)
    (behind : left ++ after.flatten = frame.encode.drop (frame.needed maxFrameBytes) ++ encodeAll rest)
    (reached : recvParts (stateAfter (receiveFrame maxFrameBytes) count schedule) = ⟨front ++ left, after⟩) :
    ∃ more, recvParts (stateAfter (receiveFrame maxFrameBytes) more schedule) = ⟨left, after⟩ := by
  induction size : front.length using Nat.strong_induction_on generalizing front count with
  | _ bound ih =>
    have header : 2 ≤ (front ++ left).length := by
      have least := frame.needed_ge maxFrameBytes
      rw [List.length_append]
      omega
    obtain ⟨earlier, first, others, same, ahead⟩ := keeps.starts reached header
    have length := congrArg List.length ahead
    have least := first.needed_ge maxFrameBytes
    have most := first.needed_le maxFrameBytes
    have part := frame.needed_le maxFrameBytes
    have tail := congrArg List.length behind
    rw [encodeAll_cons] at ahead length
    simp only [List.length_append, List.length_drop] at length tail
    have fewer : (encodeAll (frame :: rest)).length ≤ (encodeAll (first :: others)).length := by
      rw [encodeAll_cons, encodeAll_cons, List.length_append, List.length_append]
      omega
    obtain ⟨between, _, listed⟩ := later_split (same.symm.trans split) fewer
    cases between with
    | nil =>
      obtain ⟨rfl, rfl⟩ := List.cons.inj listed
      have next := reaches_needed reached ahead fits
      rw [List.drop_eq_nil_of_le (by omega), List.nil_append] at next
      exact ⟨count + 1, next⟩
    | cons head between =>
      rw [List.cons_append] at listed
      obtain ⟨rfl, rfl⟩ := List.cons.inj listed
      rw [encodeAll_append, encodeAll_cons, List.length_append, List.length_append] at length
      have next := reaches_needed reached ahead (by omega)
      refine ih (front.drop (first.needed maxFrameBytes)).length ?_ ?_ next rfl
      · rw [List.length_drop]
        omega
      · rw [List.length_drop]
        omega

theorem KeepsBoundaries.undisturbed (keeps : KeepsBoundaries maxFrameBytes frames schedule) :
    Undisturbed maxFrameBytes frames schedule := by
  have hungry : ∀ s, ∃ size result, 0 < size ∧ Settles recvParts (receiveFrame maxFrameBytes) s size result := by
    intro s
    obtain ⟨size, result, least, settled⟩ := receiveFrame_hungry maxFrameBytes s
    exact ⟨size, result, by omega, settled⟩
  intro left after resumes header
  cases resumes with
  | interruption listed =>
    obtain ⟨count, reached⟩ := reaches_part hungry listed
    exact keeps.starts reached header
  | refusal listed split refusal fits behind =>
    obtain ⟨count, reached⟩ := reaches_part hungry listed
    obtain ⟨more, reached⟩ := keeps.reaches_refused split fits behind reached
    exact keeps.starts reached header

/-- Frame boundaries survive exactly when the client never starts afresh in the middle of a frame with a header's worth
of bytes in front of it. -/
theorem keepsBoundaries_iff (maxFrameBytes : Nat) (frames : List ServerFrame) (schedule : Schedule)
    (delivers : received schedule = encodeAll frames) :
    KeepsBoundaries maxFrameBytes frames schedule ↔ Undisturbed maxFrameBytes frames schedule :=
  ⟨KeepsBoundaries.undisturbed, keepsBoundaries_of_undisturbed delivers⟩

/-- Interruptions between frames do no harm, however many there are and however the frames are cut into chunks. -/
theorem undisturbed_of_gaps {groups : List (List ServerFrame)} (parts : (recvParts schedule).all = groups.map encodeAll)
    (allowed : ∀ frame ∈ groups.flatten, frame.refusal maxFrameBytes = none) :
    Undisturbed maxFrameBytes groups.flatten schedule := by
  intro left after resumes header
  cases resumes with
  | interruption listed =>
    obtain ⟨earlier, tail, rfl, _, found⟩ := List.map_eq_append_iff.mp (parts.symm.trans listed)
    obtain ⟨group, later, rfl, rfl, rfl⟩ := List.map_eq_cons_iff.mp found
    cases group with
    | nil => simp [encodeAll] at header
    | cons frame rest =>
      refine ⟨earlier.flatten, frame, rest ++ later.flatten, by simp, ?_⟩
      rw [encodeAll_flatten, ← encodeAll_append, List.cons_append]
  | refusal _ split refusal _ _ => exact absurd (allowed _ (by simp [split])) refusal

end Calls

def helloFrame : ServerFrame where
  first := 0x81
  form := .short
  maskKey := none
  payload := [0x7B, 0x7D]
  fits := by decide

/-- The message `{"event":"Àxyz"}`, which holds the bytes `C3 80`. -/
def accentFrame : ServerFrame where
  first := 0x81
  form := .short
  maskKey := none
  payload := [0x7B, 0x22, 0x65, 0x76, 0x65, 0x6E, 0x74, 0x22, 0x3A, 0x22, 0xC3, 0x80, 0x78, 0x79, 0x7A, 0x22, 0x7D]
  fits := by decide

theorem keepsBoundaries_between : KeepsBoundaries 1024 [helloFrame, accentFrame]
    [.data [0x81, 0x02, 0x7B], .data [0x7D], .timeout, .timeout, .data accentFrame.encode] := by
  have parts : (recvParts [.data [0x81, 0x02, 0x7B], .data [0x7D], .timeout, .timeout, .data accentFrame.encode]).all =
      List.map encodeAll [[helloFrame], [], [accentFrame]] := rfl
  exact (keepsBoundaries_iff _ _ _ rfl).mpr (undisturbed_of_gaps parts (by decide))

/-- A timeout inside the message: the first call times out, and the second takes `C3 80` for a header. -/
theorem timeout_inside : received [.data (accentFrame.encode.take 12), .timeout, .data (accentFrame.encode.drop 12)] =
      encodeAll [accentFrame] ∧
    resultsAfter (receiveFrame 1024) 2
      [.data (accentFrame.encode.take 12), .timeout, .data (accentFrame.encode.drop 12)] = [(3, [])] ∧
    ¬KeepsBoundaries 1024 [accentFrame]
      [.data (accentFrame.encode.take 12), .timeout, .data (accentFrame.encode.drop 12)] := by
  refine ⟨rfl, rfl, fun keeps => ?_⟩
  have sublist := keeps.subsequence 2
  exact absurd sublist (by decide)

end PspDisasm
