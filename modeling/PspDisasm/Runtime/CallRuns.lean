import PspDisasm.Runtime.DeliveryLedger

namespace PspDisasm
open Foundations

namespace Transport
variable {builtins : Builtins}

section Concat
variable {calls : List TransportCall} {call : TransportCall} {t : Transport}

theorem afterCalls_concat : afterCalls builtins (calls ++ [call]) t = call.after builtins (afterCalls builtins calls t) := by
  rw [afterCalls, List.foldl_concat]
  rfl

theorem callResults_concat : callResults builtins (calls ++ [call]) t = callResults builtins calls t ++
    [⟨call, (afterCalls builtins calls t).nextTicket, returned? (call.perform builtins (afterCalls builtins calls t))⟩] := by
  induction calls generalizing t with
  | nil => rfl
  | cons first calls ih =>
    rw [List.cons_append, callResults, ih]
    rfl

theorem callArrivals_concat : callArrivals builtins (calls ++ [call]) t =
    callArrivals builtins calls t ++ call.newArrivals (afterCalls builtins calls t) := by
  induction calls generalizing t with
  | nil => exact List.append_nil _
  | cons first calls ih =>
    rw [List.cons_append, callArrivals, ih, callArrivals, List.append_assoc]
    rfl

theorem CallEnd.stream {final : Transport} {consumed : List Arrival} {returned : Option Message}
    (ended : CallEnd t call consumed returned final) : t.unread ++ call.newArrivals t = consumed ++ final.unread := by
  cases ended with
  | quiet stream _ _ => exact stream
  | popped waits _ unread _ _ =>
    obtain ⟨timeout, rfl⟩ := waits
    rw [unread]
    exact List.append_nil _
  | taken stream _ _ _ _ _ => exact stream

theorem CallEnd.limit {final : Transport} {consumed : List Arrival} {returned : Option Message}
    (ended : CallEnd t call consumed returned final) : final.maxQueuedEvents = t.maxQueuedEvents := by
  cases ended with
  | quiet _ _ limit => exact limit
  | popped _ _ _ _ limit => exact limit
  | taken _ _ _ _ _ limit => exact limit

end Concat

/-- What some calls on a transport have done with the frames that they have read: the messages that they returned,
in order, and after each number of calls the positions of the queued events. No event is lost: it was returned,
it is queued still, or after some of the calls its queue was full of newer ones. -/
structure DeliveryRecord (builtins : Builtins) (start : Transport) (calls : List TransportCall) where
  read : List Arrival
  deliveries : List Delivery
  queued : Nat → String → List Nat
  stream : start.unread ++ callArrivals builtins calls start = read ++ (afterCalls builtins calls start).unread
  results : (callResults builtins calls start).filter (·.message.isSome) =
    deliveries.map fun delivery => ⟨delivery.call, delivery.ticket, some delivery.message⟩
  ledger : Ledger start.maxQueuedEvents read deliveries (queued calls.length) (afterCalls builtins calls start).queuedEvents
  snapshots : ∀ count ≤ calls.length, ∀ name,
    List.Forall₂ (MessageAt read) (queued count name) ((afterCalls builtins (calls.take count) start).queuedEvents name)
  kept : ∀ name position, position ∈ eventsAt name 0 read →
    (∃ delivery ∈ deliveries, delivery.position = position) ∨ position ∈ queued calls.length name ∨
      ∃ count ≤ calls.length, FullOfNewer start.maxQueuedEvents (queued count name) position

theorem DeliveryRecord.bounded {start : Transport} {calls : List TransportCall} (record : DeliveryRecord builtins start calls)
    (same : (afterCalls builtins calls start).maxQueuedEvents = start.maxQueuedEvents) :
    QueuesBounded (afterCalls builtins calls start) := by
  intro name
  rw [same, ← (record.ledger.queues name).length_eq]
  exact record.ledger.bounded name

/-- What one more call does with the events: those of earlier snapshots are accounted for as before, and those that
were queued or have been read now are in what the call leaves. -/
theorem DeliveryRecord.kept_next {start : Transport} {calls : List TransportCall} {call : TransportCall}
    (record : DeliveryRecord builtins start calls) {more : List Delivery} {consumed : List Arrival}
    {queued : Nat → String → List Nat} (earlier : ∀ count ≤ calls.length, queued count = record.queued count)
    (kept : ∀ name position, position ∈ record.queued calls.length name ∨ position ∈ eventsAt name record.read.length consumed →
      (∃ delivery ∈ more, delivery.position = position) ∨ position ∈ queued (calls ++ [call]).length name ∨
        FullOfNewer start.maxQueuedEvents (queued (calls ++ [call]).length name) position)
    {name : String} {position : Nat} (member : position ∈ eventsAt name 0 (record.read ++ consumed)) :
    (∃ delivery ∈ record.deliveries ++ more, delivery.position = position) ∨
      position ∈ queued (calls ++ [call]).length name ∨ ∃ count ≤ (calls ++ [call]).length,
        FullOfNewer start.maxQueuedEvents (queued count name) position := by
  have now : position ∈ record.queued calls.length name ∨ position ∈ eventsAt name record.read.length consumed →
      (∃ delivery ∈ record.deliveries ++ more, delivery.position = position) ∨
        position ∈ queued (calls ++ [call]).length name ∨ ∃ count ≤ (calls ++ [call]).length,
          FullOfNewer start.maxQueuedEvents (queued count name) position := by
    intro known
    rcases kept name position known with ⟨delivery, listed, here⟩ | still | full
    · exact Or.inl ⟨delivery, List.mem_append_right _ listed, here⟩
    · exact Or.inr (Or.inl still)
    · exact Or.inr (Or.inr ⟨_, Nat.le_refl _, full⟩)
  rw [eventsAt_append, List.mem_append, Nat.zero_add] at member
  rcases member with old | new
  · rcases record.kept name position old with ⟨delivery, listed, here⟩ | queued | ⟨count, within, full⟩
    · exact Or.inl ⟨delivery, List.mem_append_left _ listed, here⟩
    · exact now (Or.inl queued)
    · rw [← earlier count within] at full
      refine Or.inr (Or.inr ⟨count, ?_, full⟩)
      rw [List.length_append]
      omega
  · exact now (Or.inr new)

/-- One more call goes on with the record. -/
theorem DeliveryRecord.next {start : Transport} {calls : List TransportCall} (record : DeliveryRecord builtins start calls)
    (limit : (afterCalls builtins calls start).maxQueuedEvents = start.maxQueuedEvents) (call : TransportCall) :
    Nonempty (DeliveryRecord builtins start (calls ++ [call])) ∧
      (afterCalls builtins (calls ++ [call]) start).maxQueuedEvents = start.maxQueuedEvents := by
  obtain ⟨consumed, ended⟩ := perform_end builtins (record.bounded limit) call
  have ledger := record.ledger
  rw [← limit] at ledger
  obtain ⟨more, after, next, returned, kept⟩ := ended.ledger ledger
  have sameLimit := ended.limit.trans limit
  rw [sameLimit] at next
  rw [limit] at kept
  have last : Function.update record.queued (calls ++ [call]).length after (calls ++ [call]).length = after :=
    Function.update_self ..
  have earlier : ∀ count ≤ calls.length,
      Function.update record.queued (calls ++ [call]).length after count = record.queued count := by
    intro count within
    apply Function.update_of_ne
    rw [List.length_append, List.length_singleton]
    omega
  rw [← last] at kept
  refine ⟨⟨{
    read := record.read ++ consumed
    deliveries := record.deliveries ++ more
    queued := Function.update record.queued (calls ++ [call]).length after
    stream := ?_
    results := ?_
    ledger := ?_
    snapshots := ?_
    kept := fun name position member => record.kept_next earlier kept member }⟩, ?_⟩
  · rw [callArrivals_concat, ← List.append_assoc, record.stream, List.append_assoc, ended.stream, List.append_assoc,
      afterCalls_concat]
  · rw [callResults_concat, List.filter_append, record.results, List.map_append, returned]
    cases returned? (call.perform builtins (afterCalls builtins calls start)) <;> rfl
  · rw [last, afterCalls_concat]
    exact next
  · intro count within name
    by_cases before : count ≤ calls.length
    · rw [earlier count before, List.take_append_of_le_length before]
      exact (record.snapshots count before name).imp fun _ _ shown => shown.append consumed
    · have all : count = (calls ++ [call]).length := by
        rw [List.length_append, List.length_singleton] at within ⊢
        omega
      rw [all, last, List.take_length, afterCalls_concat]
      exact next.queues name
  · rw [afterCalls_concat]
    exact sameLimit

/-- A probe that times out; its late reply, two events and the reply of the next request. -/
def lateReplies : Wire where
  handshake := .ok ()
  early := []
  turns := [⟨none, [.failed (.timeout "PPSSPP debugger receive timed out")]⟩,
    ⟨none, [.text (.ok (.obj [("event", .str "hle.module.list"), ("ticket", .int 1)])),
      .text (.ok (.obj [("event", .str "cpu.stepping"), ("pc", .int 0x08804000)])),
      .text (.ok (.obj [("event", .str "cpu.stepping"), ("pc", .int 0x08804004)])),
      .text (.ok (.obj [("event", .str "cpu.getAllRegs"), ("ticket", .int 2)]))]⟩]

end Transport

end PspDisasm
