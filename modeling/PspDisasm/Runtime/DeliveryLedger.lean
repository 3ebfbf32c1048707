import PspDisasm.Runtime.EventDelivery

namespace PspDisasm
open Foundations

namespace Transport

/-- The name of the event in a frame, if it has one. -/
def eventName? (arrival : Arrival) : Option String := (message? arrival).bind Message.unsolicited?

/-- Where the events of one name stand among frames of which the first has the number `offset`. -/
def eventsAt (name : String) (offset : Nat) (arrivals : List Arrival) : List Nat :=
  ((arrivals.zipIdx offset).filter fun item => eventName? item.1 = some name).map Prod.snd

/-- The message of the frame at a position. -/
def MessageAt (read : List Arrival) (position : Nat) (message : Message) : Prop :=
  ∃ arrival, read[position]? = some arrival ∧ message? arrival = some message

section Positions
variable {name : String} {read more arrivals : List Arrival} {offset position : Nat} {message other : Message}

theorem MessageAt.lt (shown : MessageAt read position message) : position < read.length := by
  obtain ⟨arrival, found, _⟩ := shown
  exact (List.getElem?_eq_some_iff.mp found).1

theorem MessageAt.append (shown : MessageAt read position message) (more : List Arrival) :
    MessageAt (read ++ more) position message := by
  obtain ⟨arrival, found, same⟩ := shown
  exact ⟨arrival, by rw [List.getElem?_append_left (List.getElem?_eq_some_iff.mp found).1, found], same⟩

theorem MessageAt.unique (shown : MessageAt read position message) (again : MessageAt read position other) : message = other := by
  obtain ⟨arrival, found, same⟩ := shown
  obtain ⟨twin, foundAgain, sameAgain⟩ := again
  cases found.symm.trans foundAgain
  exact Option.some.inj (same.symm.trans sameAgain)

theorem eventsAt_append : eventsAt name offset (arrivals ++ more) =
    eventsAt name offset arrivals ++ eventsAt name (offset + arrivals.length) more := by
  rw [eventsAt, List.zipIdx_append, List.filter_append, List.map_append]
  rfl

theorem eventsAt_sorted : (eventsAt name offset arrivals).Pairwise (· < ·) := by
  have all : ((arrivals.zipIdx offset).map Prod.snd).Pairwise (· < ·) := by
    rw [List.zipIdx_map_snd]
    exact List.pairwise_lt_range'
  exact all.sublist (List.Sublist.map _ List.filter_sublist)

theorem eventsAt_le (member : position ∈ eventsAt name offset arrivals) : offset ≤ position := by
  obtain ⟨⟨arrival, index⟩, kept, rfl⟩ := List.mem_map.mp member
  exact (List.mem_zipIdx (List.mem_of_mem_filter kept)).1

theorem mem_eventsAt_singleton {arrival : Arrival} (member : position ∈ eventsAt name offset [arrival]) : position = offset := by
  obtain ⟨⟨frame, index⟩, kept, rfl⟩ := List.mem_map.mp member
  have single := List.mem_of_mem_filter kept
  rw [List.zipIdx_singleton, List.mem_singleton] at single
  rw [single]

theorem mem_eventsAt : position ∈ eventsAt name 0 read ↔
    ∃ message, MessageAt read position message ∧ message.unsolicited? = some name := by
  simp only [eventsAt, List.mem_map, List.mem_filter, decide_eq_true_eq, Prod.exists, exists_eq_right,
    List.mem_zipIdx_iff_getElem?, eventName?, Option.bind_eq_some_iff, MessageAt]
  constructor
  · rintro ⟨arrival, found, message, shown, named⟩
    exact ⟨message, ⟨arrival, found, shown⟩, named⟩
  · rintro ⟨message, ⟨arrival, found, shown⟩, named⟩
    exact ⟨arrival, found, message, shown, named⟩

/-- The events of a name stand where the frames have them. -/
theorem eventsAt_shown (read arrivals : List Arrival) (name : String) :
    List.Forall₂ (MessageAt (read ++ arrivals)) (eventsAt name read.length arrivals) (eventsNamed name arrivals) := by
  induction arrivals generalizing read with
  | nil => exact .nil
  | cons arrival rest ih =>
    have later := ih (read ++ [arrival])
    rw [List.append_assoc, List.singleton_append, List.length_append, List.length_singleton] at later
    cases shown : message? arrival with
    | none =>
      have positions : eventsAt name read.length (arrival :: rest) = eventsAt name (read.length + 1) rest := by
        simp [eventsAt, List.zipIdx_cons, eventName?, shown]
      have messages : eventsNamed name (arrival :: rest) = eventsNamed name rest := by simp [eventsNamed, shown]
      rw [positions, messages]
      exact later
    | some message =>
      by_cases named : message.unsolicited? = some name
      · have positions : eventsAt name read.length (arrival :: rest) =
            read.length :: eventsAt name (read.length + 1) rest := by
          simp [eventsAt, List.zipIdx_cons, eventName?, shown, named]
        have messages : eventsNamed name (arrival :: rest) = message :: eventsNamed name rest := by
          simp [eventsNamed, shown, named]
        rw [positions, messages]
        refine .cons ⟨arrival, ?_, shown⟩ later
        rw [List.getElem?_append_right (Nat.le_refl _), Nat.sub_self]
        rfl
      · have positions : eventsAt name read.length (arrival :: rest) = eventsAt name (read.length + 1) rest := by
          simp [eventsAt, List.zipIdx_cons, eventName?, shown, named]
        have messages : eventsNamed name (arrival :: rest) = eventsNamed name rest := by
          simp [eventsNamed, shown, named]
        rw [positions, messages]
        exact later

end Positions

/-- A message that a call has returned: the ticket that a request of the call carried, and where among all
frames that were read the message stands. -/
structure Delivery where
  call : TransportCall
  ticket : Nat
  message : Message
  position : Nat

/-- How the queues and the returned messages of a transport come from the frames that it has read: `queued`
gives, for each name, the positions of the events in its queue. -/
structure Ledger (limit : Nat) (read : List Arrival) (deliveries : List Delivery) (queued : String → List Nat)
    (queues : String → List Message) : Prop where
  queues : ∀ name, List.Forall₂ (MessageAt read) (queued name) (queues name)
  sorted : ∀ name, (queued name).Pairwise (· < ·)
  bounded : ∀ name, (queued name).length ≤ limit
  events : ∀ name, ∀ position ∈ queued name, position ∈ eventsAt name 0 read
  shown : ∀ delivery ∈ deliveries, MessageAt read delivery.position delivery.message
  once : (deliveries.map (·.position)).Nodup
  tickets : ∀ delivery ∈ deliveries, delivery.call.IsRequest → answers delivery.ticket delivery.message = true
  waited : ∀ delivery ∈ deliveries, ∀ name, delivery.message.unsolicited? = some name → delivery.call.WaitsFor name
  ordered : ∀ name, ((deliveries.filter fun delivery => delivery.message.unsolicited? = some name).map (·.position)).Pairwise (· < ·)
  fresh : ∀ name, ∀ position ∈ queued name, ∀ delivery ∈ deliveries, delivery.position ≠ position
  later : ∀ name, ∀ position ∈ queued name, ∀ delivery ∈ deliveries, delivery.message.unsolicited? = some name →
    delivery.position < position

namespace Ledger
variable {limit : Nat} {read : List Arrival} {deliveries : List Delivery} {queued : String → List Nat}
  {queues : String → List Message}

theorem opened (limit : Nat) : Ledger limit [] [] (fun _ => []) (fun _ => []) where
  queues _ := .nil
  sorted _ := .nil
  bounded _ := Nat.zero_le limit
  events _ _ member := absurd member List.not_mem_nil
  shown _ member := absurd member List.not_mem_nil
  once := List.nodup_nil
  tickets _ member := absurd member List.not_mem_nil
  waited _ member := absurd member List.not_mem_nil
  ordered _ := .nil
  fresh _ _ member := absurd member List.not_mem_nil
  later _ _ member := absurd member List.not_mem_nil

theorem queued_lt (ledger : Ledger limit read deliveries queued queues) {name : String} {position : Nat}
    (member : position ∈ queued name) : position < read.length := by
  obtain ⟨message, shown, _⟩ := mem_eventsAt.mp (ledger.events name position member)
  exact shown.lt

theorem sorted_append (ledger : Ledger limit read deliveries queued queues) (name : String) (arrivals : List Arrival) :
    (queued name ++ eventsAt name read.length arrivals).Pairwise (· < ·) := by
  refine List.pairwise_append.mpr ⟨ledger.sorted name, eventsAt_sorted, fun old inQueue new inNew => ?_⟩
  exact Nat.lt_of_lt_of_le (ledger.queued_lt inQueue) (eventsAt_le inNew)

/-- Reading past frames puts their events at the ends of the queues. -/
theorem push (ledger : Ledger limit read deliveries queued queues) (arrivals : List Arrival) :
    Ledger limit (read ++ arrivals) deliveries
      (fun name => keepLast limit (queued name ++ eventsAt name read.length arrivals))
      (fun name => keepLast limit (queues name ++ eventsNamed name arrivals)) := by
  have kept : ∀ {name position}, position ∈ keepLast limit (queued name ++ eventsAt name read.length arrivals) →
      position ∈ queued name ∨ position ∈ eventsAt name read.length arrivals :=
    fun member => List.mem_append.mp (keepLast_suffix.subset member)
  have newer : ∀ {name position}, position ∈ eventsAt name read.length arrivals → ∀ delivery ∈ deliveries,
      delivery.position < position :=
    fun member delivery listed => Nat.lt_of_lt_of_le (ledger.shown delivery listed).lt (eventsAt_le member)
  exact {
    queues := fun name => keepLast_forall₂ (List.rel_append
      ((ledger.queues name).imp fun _ _ shown => shown.append arrivals) (eventsAt_shown read arrivals name))
    sorted := fun name => (ledger.sorted_append name arrivals).sublist keepLast_suffix.sublist
    bounded := fun name => keepLast_length_le
    events := by
      intro name position member
      rw [eventsAt_append, List.mem_append, Nat.zero_add]
      exact (kept member).imp_left (ledger.events name position)
    shown := fun delivery listed => (ledger.shown delivery listed).append arrivals
    once := ledger.once
    tickets := ledger.tickets
    waited := ledger.waited
    ordered := ledger.ordered
    fresh := by
      intro name position member delivery listed
      rcases kept member with old | new
      · exact ledger.fresh name position old delivery listed
      · exact (newer new delivery listed).ne
    later := by
      intro name position member delivery listed named
      rcases kept member with old | new
      · exact ledger.later name position old delivery listed named
      · exact newer new delivery listed }

theorem shrink {fewer : String → List Nat} {shorter : String → List Message}
    (ledger : Ledger limit read deliveries queued queues) (shown : ∀ name, List.Forall₂ (MessageAt read) (fewer name) (shorter name))
    (part : ∀ name, (fewer name).Sublist (queued name)) : Ledger limit read deliveries fewer shorter where
  queues := shown
  sorted name := (ledger.sorted name).sublist (part name)
  bounded name := (part name).length_le.trans (ledger.bounded name)
  events name position member := ledger.events name position ((part name).subset member)
  shown := ledger.shown
  once := ledger.once
  tickets := ledger.tickets
  waited := ledger.waited
  ordered := ledger.ordered
  fresh name position member := ledger.fresh name position ((part name).subset member)
  later name position member := ledger.later name position ((part name).subset member)

/-- A message may be returned that stands apart from all others, after the events of its name that were returned
and before those that are queued. -/
theorem add (ledger : Ledger limit read deliveries queued queues) (delivery : Delivery)
    (shown : MessageAt read delivery.position delivery.message)
    (ticket : delivery.call.IsRequest → answers delivery.ticket delivery.message = true)
    (waits : ∀ name, delivery.message.unsolicited? = some name → delivery.call.WaitsFor name)
    (apart : ∀ old ∈ deliveries, old.position ≠ delivery.position)
    (older : ∀ name, delivery.message.unsolicited? = some name → ∀ old ∈ deliveries,
      old.message.unsolicited? = some name → old.position < delivery.position)
    (notQueued : ∀ name, ∀ position ∈ queued name, delivery.position ≠ position)
    (newer : ∀ name, delivery.message.unsolicited? = some name → ∀ position ∈ queued name, delivery.position < position) :
    Ledger limit read (deliveries ++ [delivery]) queued queues where
  queues := ledger.queues
  sorted := ledger.sorted
  bounded := ledger.bounded
  events := ledger.events
  shown := List.forall_mem_append.mpr ⟨ledger.shown, List.forall_mem_singleton.mpr shown⟩
  once := by
    rw [List.map_append, List.nodup_append]
    refine ⟨ledger.once, by simp, fun position old other new => ?_⟩
    obtain ⟨delivered, listed, rfl⟩ := List.mem_map.mp old
    rw [List.mem_singleton.mp new]
    exact apart delivered listed
  tickets := List.forall_mem_append.mpr ⟨ledger.tickets, List.forall_mem_singleton.mpr ticket⟩
  waited := List.forall_mem_append.mpr ⟨ledger.waited, List.forall_mem_singleton.mpr waits⟩
  ordered := by
    intro name
    rw [List.filter_append, List.map_append, List.pairwise_append]
    by_cases named : delivery.message.unsolicited? = some name
    · refine ⟨ledger.ordered name, by simp [named], fun position old other new => ?_⟩
      obtain ⟨delivered, kept, rfl⟩ := List.mem_map.mp old
      obtain ⟨listed, sameName⟩ := List.mem_filter.mp kept
      have position : other = delivery.position := by simpa [named] using new
      rw [position]
      exact older name named delivered listed (of_decide_eq_true sameName)
    · refine ⟨ledger.ordered name, by simp [named], fun position old other new => ?_⟩
      simp [named] at new
  fresh name position member := List.forall_mem_append.mpr
    ⟨ledger.fresh name position member, List.forall_mem_singleton.mpr (notQueued name position member)⟩
  later name position member := List.forall_mem_append.mpr
    ⟨ledger.later name position member, List.forall_mem_singleton.mpr fun named => newer name named position member⟩

/-- The last frame that was read gives its message to the call. -/
theorem deliver (ledger : Ledger limit read deliveries queued queues) {call : TransportCall} {ticket : Nat} {arrival : Arrival}
    {message : Message} (shown : message? arrival = some message)
    (answered : call.IsRequest → answers ticket message = true)
    (waits : ∀ name, message.unsolicited? = some name → call.WaitsFor name ∧ queued name = []) :
    Ledger limit (read ++ [arrival]) (deliveries ++ [⟨call, ticket, message, read.length⟩]) queued queues := by
  have grown : Ledger limit (read ++ [arrival]) deliveries queued queues := {
    ledger with
    queues := fun name => (ledger.queues name).imp fun _ _ shown => shown.append [arrival]
    events := by
      intro name position member
      rw [eventsAt_append, List.mem_append]
      exact Or.inl (ledger.events name position member)
    shown := fun delivery listed => (ledger.shown delivery listed).append [arrival] }
  refine grown.add ⟨call, ticket, message, read.length⟩ ⟨arrival, ?_, shown⟩ answered (fun name named => (waits name named).1)
    ?_ ?_ ?_ ?_
  · rw [List.getElem?_append_right (Nat.le_refl _), Nat.sub_self]
    rfl
  · exact fun old listed => (ledger.shown old listed).lt.ne
  · exact fun _ _ old listed _ => (ledger.shown old listed).lt
  · exact fun _ _ member => (ledger.queued_lt member).ne'
  · intro name named position member
    rw [(waits name named).2] at member
    cases member

/-- An event is queued under its own name only. -/
theorem queued_named (ledger : Ledger limit read deliveries queued queues) {name : String} {position : Nat}
    {message : Message} (member : position ∈ queued name) (shown : MessageAt read position message) :
    message.unsolicited? = some name := by
  obtain ⟨other, found, named⟩ := mem_eventsAt.mp (ledger.events name position member)
  rw [shown.unique found]
  exact named

/-- Without the oldest event of one queue the ledger is one still. -/
theorem dropOldest (ledger : Ledger limit read deliveries queued queues) {name : String} {position : Nat}
    {positions : List Nat} {messages : List Message} (oldest : queued name = position :: positions)
    (rest : List.Forall₂ (MessageAt read) positions messages) :
    Ledger limit read deliveries (Function.update queued name positions) (Function.update queues name messages) := by
  refine ledger.shrink (fun other => ?_) fun other => ?_
  · by_cases same : other = name
    · subst same
      rw [Function.update_self, Function.update_self]
      exact rest
    · rw [Function.update_of_ne same, Function.update_of_ne same]
      exact ledger.queues other
  · by_cases same : other = name
    · subst same
      rw [Function.update_self, oldest]
      exact List.sublist_cons_self position positions
    · rw [Function.update_of_ne same]

/-- The oldest event of a queue is given to a call that waits for it. -/
theorem pop (ledger : Ledger limit read deliveries queued queues) {call : TransportCall} (ticket : Nat) {name : String}
    {position : Nat} {positions : List Nat} {message : Message} {messages : List Message} (waits : call.WaitsFor name)
    (oldest : queued name = position :: positions) (queue : queues name = message :: messages) :
    Ledger limit read (deliveries ++ [⟨call, ticket, message, position⟩]) (Function.update queued name positions)
      (Function.update queues name messages) := by
  have head : position ∈ queued name := by rw [oldest]; exact List.mem_cons_self
  have pairs := ledger.queues name
  rw [oldest, queue] at pairs
  obtain ⟨shown, rest⟩ := List.forall₂_cons.mp pairs
  have named := ledger.queued_named head shown
  have after := ledger.sorted name
  rw [oldest, List.pairwise_cons] at after
  have notRequest : ¬call.IsRequest := by
    obtain ⟨timeout, rfl⟩ := waits
    exact id
  refine (ledger.dropOldest oldest rest).add ⟨call, ticket, message, position⟩ shown
    (fun request => absurd request notRequest) ?_ ?_ ?_ ?_ ?_
  · intro other itsName
    cases named.symm.trans itsName
    exact waits
  · exact ledger.fresh name position head
  · intro other itsName old listed oldName
    cases named.symm.trans itsName
    exact ledger.later name position head old listed oldName
  · intro other queuedPosition member
    by_cases same : other = name
    · subst same
      rw [Function.update_self] at member
      exact (after.1 queuedPosition member).ne
    · rw [Function.update_of_ne same] at member
      intro here
      subst here
      cases named.symm.trans (ledger.queued_named member shown)
      exact same rfl
  · intro other itsName queuedPosition member
    cases named.symm.trans itsName
    rw [Function.update_self] at member
    exact after.1 queuedPosition member

end Ledger

/-- The queue of a name is full, and all its events came after this position. -/
def FullOfNewer (limit : Nat) (queued : List Nat) (position : Nat) : Prop :=
  queued.length = limit ∧ ∀ newer ∈ queued, position < newer

/-- What one call does to a ledger: it reads the consumed frames and returns at most one message. Every event that
was queued or is among the consumed frames is returned now, or queued, or its queue is full of newer ones. -/
theorem CallEnd.ledger {t final : Transport} {call : TransportCall} {read consumed : List Arrival} {returned : Option Message}
    {deliveries : List Delivery} {queued : String → List Nat}
    (ledger : Ledger t.maxQueuedEvents read deliveries queued t.queuedEvents) (ended : CallEnd t call consumed returned final) :
    ∃ (more : List Delivery) (after : String → List Nat),
      Ledger final.maxQueuedEvents (read ++ consumed) (deliveries ++ more) after final.queuedEvents ∧
      more.map (fun delivery => CallResult.mk delivery.call delivery.ticket (some delivery.message)) =
        returned.toList.map (fun message => ⟨call, t.nextTicket, some message⟩) ∧
      ∀ name position, position ∈ queued name ∨ position ∈ eventsAt name read.length consumed →
        (∃ delivery ∈ more, delivery.position = position) ∨ position ∈ after name ∨
          FullOfNewer t.maxQueuedEvents (after name) position := by
  cases ended with
  | quiet _ queues limit =>
    have pushed := ledger.push consumed
    rw [← funext queues, ← limit] at pushed
    rw [limit] at pushed ⊢
    refine ⟨[], _, (List.append_nil deliveries).symm ▸ pushed, rfl, fun name position member => Or.inr ?_⟩
    exact keepLast_or_evicted (ledger.sorted_append name consumed) (List.mem_append.mpr member)
  | @popped name message rest _ waits queue _ queues limit =>
    have pairs := ledger.queues name
    rw [queue] at pairs
    obtain ⟨position, positions, shown, pairs, oldest⟩ := List.forall₂_cons_right_iff.mp pairs
    have popped := ledger.pop t.nextTicket waits oldest queue
    rw [← queues, ← limit] at popped
    rw [List.append_nil]
    refine ⟨_, _, popped, rfl, fun other asked member => ?_⟩
    have inQueue : asked ∈ queued other := member.resolve_right List.not_mem_nil
    by_cases same : other = name
    · subst same
      rw [oldest] at inQueue
      rcases List.mem_cons.mp inQueue with rfl | behind
      · exact Or.inl ⟨_, List.mem_singleton_self _, rfl⟩
      · exact Or.inr (Or.inl (by rw [Function.update_self]; exact behind))
    · exact Or.inr (Or.inl (by rw [Function.update_of_ne same]; exact inQueue))
  | @taken before arrival message _ _ shown queues answered waits limit =>
    have pushed := ledger.push before
    rw [← funext queues, ← limit] at pushed
    have empty : ∀ name, message.unsolicited? = some name →
        keepLast final.maxQueuedEvents (queued name ++ eventsAt name read.length before) = [] := by
      intro name named
      obtain ⟨_, queue, passed⟩ := waits name named
      have pairs := pushed.queues name
      have nothing : keepLast t.maxQueuedEvents ([] : List Message) = [] := keepLast_of_fits (Nat.zero_le _)
      rw [queues name, queue, passed, List.append_nil, nothing] at pairs
      exact List.forall₂_nil_right_iff.mp pairs
    have delivered := pushed.deliver shown answered fun name named => ⟨(waits name named).1, empty name named⟩
    rw [List.append_assoc] at delivered
    refine ⟨_, _, delivered, rfl, fun name position member => ?_⟩
    rw [eventsAt_append, List.mem_append, ← or_assoc] at member
    rcases member with known | last
    · rw [limit]
      exact Or.inr (keepLast_or_evicted (ledger.sorted_append name before) (List.mem_append.mpr known))
    · rw [← List.length_append] at last
      exact Or.inl ⟨_, List.mem_singleton_self _, (mem_eventsAt_singleton last).symm⟩

end Transport

end PspDisasm
