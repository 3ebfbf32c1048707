import PspDisasm.Foundations.BoundedQueue
import PspDisasm.Runtime.RequestRules

namespace PspDisasm
open Foundations

/-- A call that reads messages. -/
inductive TransportCall
  | request (event : String) (params : Dict String Json)
  | tryRequest (event : String) (params : Dict String Json)
  | waitForEvent (event : String) (timeout : Rat)

namespace TransportCall

def IsRequest : TransportCall → Prop
  | .request _ _ | .tryRequest _ _ => True
  | .waitForEvent _ _ => False

def WaitsFor (call : TransportCall) (name : String) : Prop := ∃ timeout, call = .waitForEvent name timeout

variable (builtins : Builtins)

/-- The message that a call returns, if it returns one. -/
def perform : TransportCall → TransportM (Option Message)
  | .request event params => some <$> Transport.request builtins event params
  | .tryRequest event params => Option.map Transport.DebuggerEvent.payload <$> Transport.tryRequest builtins event params
  | .waitForEvent event timeout => some <$> Transport.waitForEvent event timeout

/-- The transport after a call, however the call ends. -/
def after (t : Transport) (call : TransportCall) : Transport := finalState (call.perform builtins t)

/-- What arrives with a call. -/
def newArrivals (t : Transport) : TransportCall → List Arrival
  | .request _ _ | .tryRequest _ _ => t.nextArrivals
  | .waitForEvent _ _ => []

end TransportCall

/-- How a call ended: the ticket that a request of this call carries, and the message that it returned. -/
structure CallResult where
  call : TransportCall
  ticket : Nat
  message : Option Message

namespace Transport
variable (builtins : Builtins)

def returned? : EStateM.Result RuntimeFailure Transport (Option Message) → Option Message
  | .ok message _ => message
  | .error _ _ => none

def afterCalls (calls : List TransportCall) (t : Transport) : Transport := calls.foldl (TransportCall.after builtins) t

def callResults : List TransportCall → Transport → List CallResult
  | [], _ => []
  | call :: calls, t =>
    ⟨call, t.nextTicket, returned? (call.perform builtins t)⟩ :: callResults calls (call.after builtins t)

/-- Everything that arrives with these calls. -/
def callArrivals : List TransportCall → Transport → List Arrival
  | [], _ => []
  | call :: calls, t => call.newArrivals t ++ callArrivals calls (call.after builtins t)

end Transport

namespace Transport

section Reading
variable {accept : Message → Bool} {arrivals : List Arrival} {t : Transport}

/-- A receive loop that raises has queued all it has read. -/
theorem receiveFrom_error {failure : RuntimeFailure} {final : Transport}
    (ran : receiveFrom accept arrivals t = .error failure final) :
    ∃ consumed rest, arrivals = consumed ++ rest ∧ final = { t.enqueueAll consumed with unread := rest } := by
  induction arrivals generalizing t with
  | nil =>
    cases ran
    exact ⟨[], [], rfl, rfl⟩
  | cons arrival rest ih =>
    rcases arrival_cases accept arrival with ⟨failure, failed⟩ | skipped | ⟨message, read, accepted⟩
    · rw [receiveFrom_failed failed] at ran
      cases ran
      have silent : message? arrival = none := by rw [message?, failed]
      refine ⟨[arrival], rest, rfl, ?_⟩
      rw [enqueueAll_cons, silent, enqueueAll_nil]
    · rw [receiveFrom_skipped skipped] at ran
      obtain ⟨consumed, later, rfl, same⟩ := ih ran
      refine ⟨arrival :: consumed, later, rfl, ?_⟩
      rw [same, ← enqueueAll_first]
    · rw [receiveFrom_accepted read accepted] at ran
      cases ran

end Reading

/-- The events of one name among some frames. -/
def eventsNamed (name : String) (arrivals : List Arrival) : List Message :=
  (arrivals.filterMap message?).filter fun message => message.unsolicited? = some name

/-- No queue is longer than it may be. -/
def QueuesBounded (t : Transport) : Prop := ∀ name, (t.queuedEvents name).length ≤ t.maxQueuedEvents

section Queues
variable {t : Transport} {arrivals : List Arrival}

theorem appendBounded_eq {α : Type} {limit : Nat} {queue : List α} {item : α} :
    appendBounded limit queue item = keepLast limit (queue ++ [item]) := by
  rw [appendBounded, keepLast, List.length_append, List.length_singleton]

theorem enqueue_limit {message : Message} : (t.enqueue message).maxQueuedEvents = t.maxQueuedEvents := by
  unfold enqueue
  split <;> rfl

theorem enqueueAll_limit : (t.enqueueAll arrivals).maxQueuedEvents = t.maxQueuedEvents := by
  unfold enqueueAll
  induction arrivals.filterMap message? generalizing t with
  | nil => rfl
  | cons message messages ih => rw [List.foldl_cons, ih, enqueue_limit]

theorem enqueue_queue (bounded : QueuesBounded t) (message : Message) (name : String) :
    (t.enqueue message).queuedEvents name =
      keepLast t.maxQueuedEvents (t.queuedEvents name ++ [message].filter fun m => m.unsolicited? = some name) := by
  unfold enqueue
  cases named : message.unsolicited? with
  | none => simp [named, keepLast_of_fits (bounded name)]
  | some other =>
    by_cases same : name = other
    · subst same
      simp [named, appendBounded_eq]
    · have different : other ≠ name := fun found => same found.symm
      simp [named, same, different, keepLast_of_fits (bounded name)]

theorem enqueue_bounded (bounded : QueuesBounded t) (message : Message) : QueuesBounded (t.enqueue message) := by
  intro name
  rw [enqueue_queue bounded, enqueue_limit]
  exact keepLast_length_le

/-- After some frames have been read past, each queue holds the newest of its events. -/
theorem enqueueAll_queue (bounded : QueuesBounded t) (name : String) :
    (t.enqueueAll arrivals).queuedEvents name =
      keepLast t.maxQueuedEvents (t.queuedEvents name ++ eventsNamed name arrivals) := by
  unfold enqueueAll eventsNamed
  induction arrivals.filterMap message? generalizing t with
  | nil => simp [keepLast_of_fits (bounded name)]
  | cons message messages ih =>
    rw [List.foldl_cons, ih (enqueue_bounded bounded message), enqueue_queue bounded, enqueue_limit, keepLast_append,
      List.append_assoc, ← List.filter_append, List.singleton_append]

end Queues

/-- How a call ends: it returns nothing and has queued the events of what it has read, or it takes the oldest
event of a queue, or it returns the last message that it has read. An event is returned only to a call that
waits for it and has found none before. -/
inductive CallEnd (t : Transport) (call : TransportCall) : List Arrival → Option Message → Transport → Prop
  | quiet {consumed final} : t.unread ++ call.newArrivals t = consumed ++ final.unread →
      (∀ name, final.queuedEvents name = keepLast t.maxQueuedEvents (t.queuedEvents name ++ eventsNamed name consumed)) →
      final.maxQueuedEvents = t.maxQueuedEvents → CallEnd t call consumed none final
  | popped {name message rest final} : call.WaitsFor name → t.queuedEvents name = message :: rest →
      final.unread = t.unread → final.queuedEvents = Function.update t.queuedEvents name rest →
      final.maxQueuedEvents = t.maxQueuedEvents → CallEnd t call [] (some message) final
  | taken {before arrival message final} : t.unread ++ call.newArrivals t = before ++ [arrival] ++ final.unread →
      message? arrival = some message →
      (∀ name, final.queuedEvents name = keepLast t.maxQueuedEvents (t.queuedEvents name ++ eventsNamed name before)) →
      (call.IsRequest → answers t.nextTicket message = true) →
      (∀ name, message.unsolicited? = some name →
        call.WaitsFor name ∧ t.queuedEvents name = [] ∧ eventsNamed name before = []) →
      final.maxQueuedEvents = t.maxQueuedEvents → CallEnd t call (before ++ [arrival]) (some message) final

section Calls
variable {builtins : Builtins} {t : Transport}

theorem not_unsolicited {ticket : Nat} {message : Message} (answered : answers ticket message = true) :
    message.unsolicited? = none := by
  unfold Message.unsolicited?
  unfold answers at answered
  split
  · rename_i null
    rw [null] at answered
    cases answered
  · rfl

theorem afterSend_queues {event : String} {params : Dict String Json} {consumed rest : List Arrival}
    (bounded : QueuesBounded t) (name : String) :
    ({ (t.afterSend event params).enqueueAll consumed with unread := rest } : Transport).queuedEvents name =
      keepLast t.maxQueuedEvents (t.queuedEvents name ++ eventsNamed name consumed) :=
  @enqueueAll_queue (t.afterSend event params) consumed bounded name

theorem eventsNamed_append {name : String} {arrivals more : List Arrival} :
    eventsNamed name (arrivals ++ more) = eventsNamed name arrivals ++ eventsNamed name more := by
  rw [eventsNamed, List.filterMap_append, List.filter_append]
  rfl

theorem eventsNamed_reply {name : String} {arrival : Arrival} {message : Message} (shown : message? arrival = some message)
    (silent : message.unsolicited? ≠ some name) : eventsNamed name [arrival] = [] := by
  simp [eventsNamed, shown, silent]

/-- What the receive loop of a request comes to. A reply may be returned, or it is an error and nothing is returned. -/
theorem reply_end {call : TransportCall} {event : String} {params : Dict String Json} (bounded : QueuesBounded t)
    (arrives : call.newArrivals t = t.nextArrivals) (ended : EStateM.Result RuntimeFailure Transport Message)
    (ran : receiveFrom (answers t.nextTicket) t.arrived (t.afterSend event params) = ended) :
    (∃ consumed, CallEnd t call consumed none (finalState ended)) ∧
      ∀ message final, ended = .ok message final → ∃ consumed, CallEnd t call consumed (some message) final := by
  cases ended with
  | error failure final =>
    obtain ⟨consumed, rest, split, rfl⟩ := receiveFrom_error ran
    refine ⟨⟨consumed, .quiet ?_ (afterSend_queues bounded) enqueueAll_limit⟩, fun _ _ same => ?_⟩
    · rw [arrives]
      exact split
    · cases same
  | ok message final =>
    obtain ⟨before, arrival, rest, split, passed, read, accepted, rfl⟩ := receiveFrom_ok.mp ran
    have stream : t.unread ++ call.newArrivals t = before ++ [arrival] ++ rest := by
      rw [arrives, List.append_assoc]
      exact split
    have shown : message? arrival = some message := by rw [message?, read]
    have silent (name : String) : message.unsolicited? ≠ some name := by
      rw [not_unsolicited accepted]
      exact (Option.some_ne_none name).symm
    constructor
    · refine ⟨before ++ [arrival], .quiet stream (fun name => ?_) enqueueAll_limit⟩
      rw [eventsNamed_append, eventsNamed_reply shown (silent name), List.append_nil]
      exact afterSend_queues bounded name
    · rintro _ _ ⟨⟩
      exact ⟨before ++ [arrival], .taken stream shown (afterSend_queues bounded) (fun _ => accepted)
        (fun name named => absurd named (silent name)) enqueueAll_limit⟩

theorem request_delivered {event : String} {params : Dict String Json} (delivered : t.turn.sendError = none) :
    request builtins event params t =
      match receiveFrom (answers t.nextTicket) t.arrived (t.afterSend event params) with
      | .ok response final =>
        if isError response = true then .error (debuggerError builtins response) final else .ok response final
      | .error failure final => .error failure final := by
  refine (bind_after (send_ok.mpr ⟨delivered, rfl, rfl⟩)).trans ?_
  cases ran : receiveFrom (answers t.nextTicket) t.arrived (t.afterSend event params) with
  | error failure final => exact bind_raised ran
  | ok response final =>
    refine (bind_after ran).trans ?_
    unfold raiseIf
    by_cases wrong : isError response = true
    · simp only [if_pos wrong]
      rfl
    · simp only [if_neg wrong]
      rfl

theorem tryRequest_delivered {event : String} {params : Dict String Json} (delivered : t.turn.sendError = none) :
    tryRequest builtins event params t =
      match receiveFrom (answers t.nextTicket) t.arrived (t.afterSend event params) with
      | .ok response final =>
        if isError response = true then .ok none final
        else .ok (some ⟨builtins.strOf response.event, response, t.nextTicket⟩) final
      | .error failure final => if expected failure then .ok none final else .error failure final :=
  bind_after (send_ok.mpr ⟨delivered, rfl, rfl⟩)

theorem send_raised {event : String} {params : Dict String Json} {text : String} (failed : t.turn.sendError = some text) :
    send event params t = .error (.connection ("PPSSPP debugger send failed: " ++ text)) (t.afterSend event params) := by
  unfold send
  rw [failed]
  simp [afterSend, arrived, failed]

/-- Without a delivered request the call leaves all that arrives unread. -/
theorem undelivered_end {call : TransportCall} {event : String} {params : Dict String Json} (bounded : QueuesBounded t)
    (arrives : call.newArrivals t = t.nextArrivals) : CallEnd t call [] none (t.afterSend event params) := by
  refine .quiet ?_ (fun name => ?_) rfl
  · rw [arrives]
    rfl
  · have silent : eventsNamed name [] = [] := rfl
    rw [silent, List.append_nil, keepLast_of_fits (bounded name)]
    rfl

theorem request_end (bounded : QueuesBounded t) (event : String) (params : Dict String Json) :
    ∃ consumed, CallEnd t (.request event params) consumed
      (returned? ((TransportCall.request event params).perform builtins t)) ((TransportCall.request event params).after builtins t) := by
  rw [TransportCall.after, TransportCall.perform]
  cases failed : t.turn.sendError with
  | some text =>
    have raised : request builtins event params t =
        .error (.connection ("PPSSPP debugger send failed: " ++ text)) (t.afterSend event params) :=
      bind_raised (send_raised failed)
    rw [map_raised raised]
    exact ⟨[], undelivered_end bounded rfl⟩
  | none =>
    have ended := @request_delivered builtins t event params failed
    cases ran : receiveFrom (answers t.nextTicket) t.arrived (t.afterSend event params) with
    | error failure final =>
      rw [ran] at ended
      rw [map_raised ended]
      exact (reply_end bounded rfl _ ran).1
    | ok response final =>
      rw [ran] at ended
      by_cases wrong : isError response = true
      · simp only [if_pos wrong] at ended
        rw [map_raised ended]
        exact (reply_end bounded rfl _ ran).1
      · simp only [if_neg wrong] at ended
        rw [map_after ended]
        exact (reply_end bounded rfl _ ran).2 response final rfl

theorem tryRequest_end (bounded : QueuesBounded t) (event : String) (params : Dict String Json) :
    ∃ consumed, CallEnd t (.tryRequest event params) consumed
      (returned? ((TransportCall.tryRequest event params).perform builtins t))
      ((TransportCall.tryRequest event params).after builtins t) := by
  rw [TransportCall.after, TransportCall.perform]
  cases failed : t.turn.sendError with
  | some text =>
    have raised : tryRequest builtins event params t =
        .error (.connection ("PPSSPP debugger send failed: " ++ text)) (t.afterSend event params) :=
      bind_raised (send_raised failed)
    rw [map_raised raised]
    exact ⟨[], undelivered_end bounded rfl⟩
  | none =>
    have ended := @tryRequest_delivered builtins t event params failed
    cases ran : receiveFrom (answers t.nextTicket) t.arrived (t.afterSend event params) with
    | error failure final =>
      rw [ran] at ended
      by_cases caught : expected failure = true
      · simp only [if_pos caught] at ended
        rw [map_after ended]
        exact (reply_end bounded rfl _ ran).1
      · simp only [if_neg caught] at ended
        rw [map_raised ended]
        exact (reply_end bounded rfl _ ran).1
    | ok response final =>
      rw [ran] at ended
      by_cases wrong : isError response = true
      · simp only [if_pos wrong] at ended
        rw [map_after ended]
        exact (reply_end bounded rfl _ ran).1
      · simp only [if_neg wrong] at ended
        rw [map_after ended]
        exact (reply_end bounded rfl _ ran).2 response final rfl

theorem unsolicited_event {name : String} {message : Message} (named : message.unsolicited? = some name) :
    message.event = .str name := by
  unfold Message.unsolicited? at named
  split at named
  · rename_i other text null
    cases named
    exact text
  · cases named

theorem unsolicited_name {name other : String} {message : Message} (named : message.unsolicited? = some other)
    (accepted : message.event.equalsStr name = true) : other = name := by
  rw [unsolicited_event named] at accepted
  exact of_decide_eq_true accepted

/-- A message that a wait reads past is no event that it waits for. -/
theorem passed_events {name : String} {before : List Arrival}
    (passed : ∀ a ∈ before, Skipped (fun message => message.event.equalsStr name) a) : eventsNamed name before = [] := by
  rw [eventsNamed, List.filter_eq_nil_iff]
  intro message member named
  obtain ⟨arrival, inBefore, shown⟩ := List.mem_filterMap.mp member
  obtain ⟨found, read, refused⟩ := passed arrival inBefore
  rw [message?, read] at shown
  have notIt : message.event.equalsStr name = false := refused message shown
  rw [unsolicited_event (of_decide_eq_true named)] at notIt
  exact of_decide_eq_false notIt rfl

theorem waitForEvent_end (bounded : QueuesBounded t) (name : String) (timeout : Rat) :
    ∃ consumed, CallEnd t (.waitForEvent name timeout) consumed
      (returned? ((TransportCall.waitForEvent name timeout).perform builtins t))
      ((TransportCall.waitForEvent name timeout).after builtins t) := by
  rw [TransportCall.after, TransportCall.perform]
  by_cases tooShort : timeout ≤ 0
  · rw [map_raised (waitForEvent_refused tooShort)]
    refine ⟨[], .quiet (List.append_nil _) (fun other => ?_) rfl⟩
    have silent : eventsNamed other [] = [] := rfl
    rw [silent, List.append_nil, keepLast_of_fits (bounded other)]
    rfl
  · cases queue : t.queuedEvents name with
    | cons message rest =>
      rw [map_after (waitForEvent_queued tooShort queue)]
      exact ⟨[], .popped ⟨timeout, rfl⟩ queue rfl rfl rfl⟩
    | nil =>
      have reading := waitForEvent_reads tooShort queue
      cases ran : receiveFrom (fun message => message.event.equalsStr name) t.unread t with
      | error failure final =>
        rw [map_raised (reading.trans ran)]
        obtain ⟨consumed, rest, split, rfl⟩ := receiveFrom_error ran
        exact ⟨consumed, .quiet ((List.append_nil _).trans split) (enqueueAll_queue bounded) enqueueAll_limit⟩
      | ok message final =>
        rw [map_after (reading.trans ran)]
        obtain ⟨before, arrival, rest, split, passed, read, accepted, rfl⟩ := receiveFrom_ok.mp ran
        have shown : message? arrival = some message := by rw [message?, read]
        refine ⟨before ++ [arrival], .taken ?_ shown (enqueueAll_queue bounded) False.elim (fun other named => ?_) enqueueAll_limit⟩
        · rw [List.append_assoc]
          exact (List.append_nil _).trans split
        · have same := unsolicited_name named accepted
          subst same
          exact ⟨⟨timeout, rfl⟩, queue, passed_events passed⟩

theorem perform_end (builtins : Builtins) (bounded : QueuesBounded t) (call : TransportCall) :
    ∃ consumed, CallEnd t call consumed (returned? (call.perform builtins t)) (call.after builtins t) := by
  cases call with
  | request event params => exact request_end bounded event params
  | tryRequest event params => exact tryRequest_end bounded event params
  | waitForEvent event timeout => exact waitForEvent_end bounded event timeout

end Calls

end Transport

end PspDisasm
