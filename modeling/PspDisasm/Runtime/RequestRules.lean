import PspDisasm.Runtime.Session
import Mathlib.Data.List.Induction

namespace PspDisasm
open Foundations

namespace Transport

/-- The message in a frame, if the frame has one. -/
def message? (arrival : Arrival) : Option Message :=
  match readFrame arrival with
  | .ok message => message
  | .error _ => none

/-- A frame that the receive loop reads past. -/
def Skipped (accept : Message → Bool) (arrival : Arrival) : Prop :=
  ∃ found, readFrame arrival = .ok found ∧ ∀ message ∈ found, accept message = false

/-- The queues after the receive loop has read past some frames. -/
def enqueueAll (t : Transport) (arrivals : List Arrival) : Transport :=
  (arrivals.filterMap message?).foldl enqueue t

/-- Everything that a request sent now can find to read. -/
def arrived (t : Transport) : List Arrival := t.unread ++ t.nextArrivals

section Queues
variable {t : Transport} {message found : Message} {name : String} {arrivals : List Arrival}

@[simp] theorem enqueue_sent : (t.enqueue message).sent = t.sent := by
  unfold enqueue
  split <;> rfl

@[simp] theorem enqueue_nextTicket : (t.enqueue message).nextTicket = t.nextTicket := by
  unfold enqueue
  split <;> rfl

@[simp] theorem enqueue_turns : (t.enqueue message).turns = t.turns := by
  unfold enqueue
  split <;> rfl

theorem appendBounded_mem {α : Type} {limit : Nat} {queue : List α} {item other : α}
    (member : other ∈ appendBounded limit queue item) : other ∈ queue ∨ other = item := by
  have kept := List.mem_of_mem_drop member
  simpa using kept

theorem appendBounded_ne_nil {α : Type} {limit : Nat} {queue : List α} {item : α} (bounded : 0 < limit) :
    appendBounded limit queue item ≠ [] := by
  intro empty
  have size := congrArg List.length empty
  simp only [appendBounded, List.length_drop, List.length_append, List.length_cons, List.length_nil] at size
  omega

theorem enqueue_mem (member : found ∈ (t.enqueue message).queuedEvents name) :
    found ∈ t.queuedEvents name ∨ found = message := by
  unfold enqueue at member
  split at member
  · rename_i other named
    dsimp only at member
    by_cases same : name = other
    · subst same
      rw [Function.update_self] at member
      exact appendBounded_mem member
    · rw [Function.update_of_ne same] at member
      exact Or.inl member
  · exact Or.inl member

/-- A queue is empty after an append just when it was and the message is not for it. -/
theorem enqueue_empty_iff : (t.enqueue message).queuedEvents name = [] ↔
    t.queuedEvents name = [] ∧ message.unsolicited? ≠ some name := by
  unfold enqueue
  split
  · rename_i other named
    rw [named]
    dsimp only
    by_cases same : name = other
    · subst same
      rw [Function.update_self]
      simp [appendBounded_ne_nil t.bounded]
    · rw [Function.update_of_ne same]
      simp [Ne.symm same]
  · rename_i unnamed
    rw [unnamed]
    simp

@[simp] theorem enqueueAll_nil : t.enqueueAll [] = t := rfl

theorem enqueueAll_append {more : List Arrival} : t.enqueueAll (arrivals ++ more) = (t.enqueueAll arrivals).enqueueAll more := by
  unfold enqueueAll
  rw [List.filterMap_append, List.foldl_append]

theorem enqueueAll_cons {arrival : Arrival} {rest : List Arrival} :
    t.enqueueAll (arrival :: rest) = (match message? arrival with
      | some message => t.enqueue message
      | none => t).enqueueAll rest := by
  cases found : message? arrival <;> simp [enqueueAll, found]

theorem enqueueAll_first {arrival : Arrival} {rest : List Arrival} :
    t.enqueueAll (arrival :: rest) = (t.enqueueAll [arrival]).enqueueAll rest := by
  rw [← enqueueAll_append]
  rfl

theorem enqueueAll_empty_iff : (t.enqueueAll arrivals).queuedEvents name = [] ↔
    t.queuedEvents name = [] ∧ ∀ arrival ∈ arrivals, ∀ message ∈ message? arrival, message.unsolicited? ≠ some name := by
  induction arrivals using List.reverseRecOn with
  | nil => simp
  | append_singleton arrivals arrival ih =>
    rw [enqueueAll_append]
    cases found : message? arrival with
    | none => simpa [enqueueAll, found, or_imp, forall_and] using ih
    | some message =>
      have last : (t.enqueueAll arrivals).enqueueAll [arrival] = (t.enqueueAll arrivals).enqueue message := by
        simp [enqueueAll, found]
      rw [last, enqueue_empty_iff, ih]
      simp [or_imp, forall_and, found, and_assoc]

@[simp] theorem enqueueAll_frame : (t.enqueueAll arrivals).sent = t.sent ∧
    (t.enqueueAll arrivals).nextTicket = t.nextTicket ∧ (t.enqueueAll arrivals).turns = t.turns := by
  unfold enqueueAll
  induction arrivals.filterMap message? generalizing t with
  | nil => exact ⟨rfl, rfl, rfl⟩
  | cons message messages ih =>
    obtain ⟨sent, ticket, turns⟩ := ih (t := t.enqueue message)
    exact ⟨by simpa using sent, by simpa using ticket, by simpa using turns⟩

end Queues

section Receiving
variable {accept : Message → Bool} {arrival : Arrival} {arrivals rest : List Arrival} {t final : Transport}
variable {message : Message}

/-- A frame raises, is read past or is accepted. -/
theorem arrival_cases (accept : Message → Bool) (arrival : Arrival) : (∃ failure, readFrame arrival = .error failure) ∨
    Skipped accept arrival ∨ ∃ message, readFrame arrival = .ok (some message) ∧ accept message = true := by
  cases read : readFrame arrival with
  | error failure => exact .inl ⟨failure, rfl⟩
  | ok found =>
    cases found with
    | none => exact .inr (.inl ⟨none, read, nofun⟩)
    | some message =>
      cases accepted : accept message with
      | true => exact .inr (.inr ⟨message, rfl, accepted⟩)
      | false =>
        refine .inr (.inl ⟨some message, read, ?_⟩)
        rintro _ ⟨⟩
        exact accepted

theorem receiveFrom_failed {failure : RuntimeFailure} (failed : readFrame arrival = .error failure) :
    receiveFrom accept (arrival :: rest) t = .error failure { t with unread := rest } := by
  rw [receiveFrom, failed]

theorem receiveFrom_accepted (read : readFrame arrival = .ok (some message)) (accepted : accept message = true) :
    receiveFrom accept (arrival :: rest) t = .ok message { t with unread := rest } := by
  rw [receiveFrom, read]
  exact if_pos accepted

theorem receiveFrom_skipped (skipped : Skipped accept arrival) :
    receiveFrom accept (arrival :: rest) t = receiveFrom accept rest (t.enqueueAll [arrival]) := by
  obtain ⟨found, read, refused⟩ := skipped
  rw [receiveFrom, read, enqueueAll_cons, message?, read]
  cases found with
  | none => rfl
  | some message =>
    have notAccepted : ¬accept message = true := Bool.eq_false_iff.mp (refused message rfl)
    exact if_neg notAccepted

/-- The receive loop returns the first accepted message, unless an exception comes before it. -/
theorem receiveFrom_ok : receiveFrom accept arrivals t = .ok message final ↔
    ∃ before arrival after, arrivals = before ++ arrival :: after ∧ (∀ a ∈ before, Skipped accept a) ∧
      readFrame arrival = .ok (some message) ∧ accept message = true ∧
      final = { t.enqueueAll before with unread := after } := by
  constructor
  · intro ran
    induction arrivals generalizing t with
    | nil => cases ran
    | cons arrival rest ih =>
      rcases arrival_cases accept arrival with ⟨failure, failed⟩ | skipped | ⟨found, read, accepted⟩
      · rw [receiveFrom_failed failed] at ran
        cases ran
      · rw [receiveFrom_skipped skipped] at ran
        obtain ⟨before, taken, after, rfl, passed, read, accepted, rfl⟩ := ih ran
        refine ⟨arrival :: before, taken, after, rfl, List.forall_mem_cons.mpr ⟨skipped, passed⟩, read, accepted, ?_⟩
        rw [← enqueueAll_first]
      · rw [receiveFrom_accepted read accepted] at ran
        cases ran
        exact ⟨[], arrival, rest, rfl, List.forall_mem_nil _, read, accepted, rfl⟩
  · rintro ⟨before, taken, after, rfl, passed, read, accepted, rfl⟩
    induction before generalizing t with
    | nil => exact receiveFrom_accepted read accepted
    | cons first before ih =>
      obtain ⟨skipped, passed⟩ := List.forall_mem_cons.mp passed
      rw [List.cons_append, receiveFrom_skipped skipped, ih passed, ← enqueueAll_first]

/-- Reading never touches the record of the sent requests. -/
theorem receiveFrom_sent : (finalState (receiveFrom accept arrivals t)).sent = t.sent := by
  induction arrivals generalizing t with
  | nil => rfl
  | cons arrival rest ih =>
    rcases arrival_cases accept arrival with ⟨failure, failed⟩ | skipped | ⟨message, read, accepted⟩
    · rw [receiveFrom_failed failed, finalState]
    · rw [receiveFrom_skipped skipped, ih, enqueueAll_frame.1]
    · rw [receiveFrom_accepted read accepted, finalState]

end Receiving

section Requests
variable {builtins : Builtins} {event : String} {params : Dict String Json} {t final : Transport} {response : Message}
variable {ticket : Nat}

/-- The transport after an attempt to send a request. -/
def afterSend (t : Transport) (event : String) (params : Dict String Json) : Transport := { t with
  nextTicket := t.nextTicket + 1
  sent := t.sent ++ [⟨event, t.nextTicket, params, t.turn.sendError.isNone⟩]
  unread := t.arrived
  turns := t.turns.tail }

theorem send_final : finalState (send event params t) = t.afterSend event params := by
  unfold send
  dsimp only
  split <;> rfl

theorem send_ok : send event params t = .ok ticket final ↔
    t.turn.sendError = none ∧ ticket = t.nextTicket ∧ final = t.afterSend event params := by
  unfold send
  dsimp only
  cases outcome : t.turn.sendError with
  | none => simp [afterSend, arrived, outcome, eq_comm]
  | some text => simp

/-- A request returns the first reply with its ticket, unless that is an error or an exception comes before it. -/
theorem request_ok : request builtins event params t = .ok response final ↔
    t.turn.sendError = none ∧ ∃ before arrival after, t.arrived = before ++ arrival :: after ∧
      (∀ a ∈ before, Skipped (answers t.nextTicket) a) ∧ readFrame arrival = .ok (some response) ∧
      answers t.nextTicket response = true ∧ isError response = false ∧
      final = { (t.afterSend event params).enqueueAll before with unread := after } := by
  simp only [request, effect_bind_ok, send_ok, lifted_ok, raiseIf_ok, effect_pure_ok, receiveUntil, receiveFrom_ok]
  constructor
  · rintro ⟨ticket, _, ⟨delivered, rfl, rfl⟩, found, read, ⟨before, arrival, after, split, passed, same, accepted, rfl⟩,
      _, _, ⟨noError, rfl⟩, rfl, rfl⟩
    exact ⟨delivered, before, arrival, after, split, passed, same, accepted, by simpa using noError, rfl⟩
  · rintro ⟨delivered, before, arrival, after, split, passed, same, accepted, noError, rfl⟩
    exact ⟨t.nextTicket, _, ⟨delivered, rfl, rfl⟩, response, _, ⟨before, arrival, after, split, passed, same, accepted, rfl⟩,
      ⟨⟩, _, ⟨by simpa using noError, rfl⟩, rfl, rfl⟩

/-- A request is one attempt to send, however it ends. -/
theorem request_sent : (finalState (request builtins event params t)).sent =
    t.sent ++ [⟨event, t.nextTicket, params, t.turn.sendError.isNone⟩] := by
  have silent : Leaves sent (finalState (send event params t)) (finalState (request builtins event params t)) := by
    refine Maintains.after (send event params) ?_ t
    intro ticket
    refine Maintains.bind (fun _ => receiveFrom_sent) ?_
    intro response
    exact (Maintains.lifted _).bind fun _ => Maintains.pure response
  rw [send_final] at silent
  exact silent

theorem connect_ok {casefold : String → String} {options : TransportOptions} {wire : Wire}
    (ran : connect casefold builtins options wire = .ok final) :
    ∃ limit bounded, bootstrap builtins (opened limit bounded wire) = .ok () final := by
  simp only [connect, bind_ok] at ran
  obtain ⟨_, _, _, _, _, _, ran⟩ := ran
  split at ran
  · obtain ⟨_, _, ran⟩ := bind_ok.mp ran
    split at ran
    · rename_i started
      cases ran
      exact ⟨_, _, started⟩
    · cases ran
  · cases ran

end Requests

section Waits
variable {name : String} {timeout : Rat} {t : Transport}

theorem waitForEvent_refused (tooShort : timeout ≤ 0) :
    waitForEvent name timeout t = .error (.timeout "event wait timeout must be positive") t := by
  refine bind_raised ?_
  rw [raiseIf, if_pos tooShort]
  rfl

/-- A wait takes the oldest event of its queue. -/
theorem waitForEvent_queued {message : Message} {rest : List Message} (allowed : ¬timeout ≤ 0)
    (queue : t.queuedEvents name = message :: rest) : waitForEvent name timeout t =
      .ok message { t with queuedEvents := Function.update t.queuedEvents name rest } := by
  have oldest : takeQueued name t = .ok (some message) { t with queuedEvents := Function.update t.queuedEvents name rest } := by
    rw [takeQueued, queue]
  unfold waitForEvent
  rw [raiseIf, if_neg allowed]
  exact (bind_after rfl).trans (bind_after oldest)

/-- With an empty queue a wait reads on. -/
theorem waitForEvent_reads (allowed : ¬timeout ≤ 0) (queue : t.queuedEvents name = []) :
    waitForEvent name timeout t = receiveFrom (fun message => message.event.equalsStr name) t.unread t := by
  have nothing : takeQueued name t = .ok none t := by rw [takeQueued, queue]
  unfold waitForEvent
  rw [raiseIf, if_neg allowed]
  exact (bind_after rfl).trans (bind_after nothing)

end Waits

end Transport

end PspDisasm
