import PspDisasm.Runtime.SessionRules

namespace PspDisasm
open Foundations

namespace Transport

/-- No message that can still be read is from the future. -/
structure Stamped (t : Transport) : Prop where
  unread : ∀ arrival ∈ t.unread, arrival.after ≤ t.sent.length
  queued : ∀ name, ∀ message ∈ t.queuedEvents name, message.after ≤ t.sent.length

variable {t : Transport} {arrivals rest : List Arrival} {message : Message} {arrival : Arrival} {event : String}

theorem Stamped.withUnread (stamped : Stamped t) (kept : ∀ arrival ∈ rest, arrival.after ≤ t.sent.length) :
    Stamped { t with unread := rest } :=
  ⟨kept, stamped.queued⟩

theorem Stamped.enqueue (stamped : Stamped t) (old : message.after ≤ t.sent.length) :
    Stamped (t.enqueue message) := by
  refine ⟨?_, ?_⟩
  · intro arrival member
    have same : (t.enqueue message).unread = t.unread := by
      unfold Transport.enqueue
      split <;> rfl
    rw [same] at member
    rw [enqueue_sent]
    exact stamped.unread arrival member
  · intro name found member
    rw [enqueue_sent]
    rcases enqueue_mem member with inQueue | rfl
    · exact stamped.queued name found inQueue
    · exact old

/-- A message is as old as its frame. -/
theorem readFrame_after (read : readFrame arrival = .ok (some message)) : message.after = arrival.after := by
  unfold readFrame at read
  split at read
  · cases read
  · split at read <;> cases read
  · cases read
  · cases read
    rfl
  · cases read

theorem receiveFrom_stamped {accept : Message → Bool} (stamped : Stamped t)
    (old : ∀ arrival ∈ arrivals, arrival.after ≤ t.sent.length) :
    Stamped (finalState (receiveFrom accept arrivals t)) := by
  induction arrivals generalizing t with
  | nil => exact stamped.withUnread old
  | cons arrival rest ih =>
    obtain ⟨oldFirst, oldRest⟩ := List.forall_mem_cons.mp old
    rw [receiveFrom]
    split
    · exact stamped.withUnread oldRest
    · exact ih stamped oldRest
    · rename_i found read
      split
      · exact stamped.withUnread oldRest
      · have aged : found.after ≤ t.sent.length := readFrame_after read ▸ oldFirst
        refine ih (stamped.enqueue aged) ?_
        rw [enqueue_sent]
        exact oldRest

theorem arrived_after (stamped : Stamped t) : ∀ arrival ∈ t.arrived, arrival.after ≤ t.sent.length + 1 := by
  intro arrival member
  rcases List.mem_append.mp member with inUnread | inNext
  · have old := stamped.unread arrival inUnread
    omega
  · obtain ⟨received, _, rfl⟩ := List.mem_map.mp inNext
    exact le_refl _

theorem afterSend_stamped {params : Dict String Json} (stamped : Stamped t) : Stamped (t.afterSend event params) := by
  have clock : (t.afterSend event params).sent.length = t.sent.length + 1 := by simp [afterSend]
  refine ⟨?_, ?_⟩
  · intro arrival member
    rw [clock]
    exact arrived_after stamped arrival member
  · intro name found member
    have old := stamped.queued name found member
    omega

theorem stampedRule : TransportRule (fun _ => True) (Keeps Stamped) where
  sends event params _ := by
    intro t stamped
    rw [send_final]
    exact afterSend_stamped stamped
  receives accept := by
    intro t stamped
    exact receiveFrom_stamped stamped stamped.unread
  takes event := by
    intro t stamped
    unfold takeQueued
    split
    · rename_i first rest queue
      refine ⟨stamped.unread, ?_⟩
      intro name found member
      change found ∈ Function.update t.queuedEvents event rest name at member
      by_cases same : name = event
      · subst same
        rw [Function.update_self] at member
        have inQueue : found ∈ t.queuedEvents name := queue ▸ List.mem_cons_of_mem _ member
        exact stamped.queued name found inQueue
      · rw [Function.update_of_ne same] at member
        exact stamped.queued name found member
    · exact stamped

/-- `cpu.stepping` messages, under the test of `wait_for_event`. -/
def isStepping (message : Message) : Bool := message.event.equalsStr "cpu.stepping"

def isReply (ticket : Nat) (arrival : Arrival) : Bool := (message? arrival).any (answers ticket)

/-- When the next request has got its reply, a `cpu.stepping` event is
already there: queued before, read past on the way to the reply, or unread behind it. -/
def SteppingPending (t : Transport) : Prop :=
  t.queuedEvents "cpu.stepping" ≠ [] ∨
  (∃ arrival ∈ t.arrived.takeWhile fun arrival => !isReply t.nextTicket arrival,
    ∃ message ∈ message? arrival, message.unsolicited? = some "cpu.stepping") ∨
  ∃ arrival ∈ (t.arrived.dropWhile fun arrival => !isReply t.nextTicket arrival).tail,
    ∃ message ∈ message? arrival, isStepping message = true
deriving Decidable

/-- What a returned add request leaves for the resume and the wait that follow. -/
theorem stepping_pending_iff {builtins : Builtins} {params : Dict String Json} {reply : Message} {added : Transport}
    (ran : request builtins event params t = .ok reply added) :
    SteppingPending t ↔ added.queuedEvents "cpu.stepping" ≠ [] ∨
      ∃ arrival ∈ added.unread, ∃ message ∈ message? arrival, isStepping message = true := by
  obtain ⟨_, before, taken, after, split, passed, read, answered, _, rfl⟩ := request_ok.mp ran
  have notBefore : ∀ arrival ∈ before, (!isReply t.nextTicket arrival) = true := by
    intro arrival member
    obtain ⟨found, same, refused⟩ := passed arrival member
    simp only [isReply, message?, same]
    cases found with
    | none => rfl
    | some message => simpa using refused message rfl
  have atTaken : (!isReply t.nextTicket taken) = false := by simp [isReply, message?, read, answered]
  have front : t.arrived.takeWhile (fun arrival => !isReply t.nextTicket arrival) = before := by
    rw [split, List.takeWhile_append_of_pos notBefore, List.takeWhile_cons, atTaken]
    simp
  have back : t.arrived.dropWhile (fun arrival => !isReply t.nextTicket arrival) = taken :: after := by
    rw [split, List.dropWhile_append_of_pos notBefore, List.dropWhile_cons, atTaken]
    simp
  have queue : ((t.afterSend event params).enqueueAll before).queuedEvents "cpu.stepping" = [] ↔ _ :=
    enqueueAll_empty_iff
  unfold SteppingPending
  rw [front, back, List.tail_cons]
  simp only [ne_eq, queue, not_and_or, or_assoc]
  simp [afterSend]

/-- The first item with a property is in the front part, if that part has one. -/
theorem first_in_front {α : Type} {P : α → Prop} {front back before after : List α} {taken : α}
    (divided : front ++ back = before ++ taken :: after) (none : ∀ item ∈ before, ¬P item) (some : ∃ item ∈ front, P item) :
    taken ∈ front := by
  obtain ⟨item, member, holds⟩ := some
  rcases List.append_eq_append_iff.mp divided with ⟨between, rfl, _⟩ | ⟨between, split, next⟩
  · exact absurd holds (none item (List.mem_append_left _ member))
  · cases between with
    | nil =>
      rw [split, List.append_nil] at member
      exact absurd holds (none item member)
    | cons first between =>
      cases next
      rw [split]
      exact List.mem_append_right _ (List.mem_cons_self ..)

/-- The wait after a resume takes an event that arrived before the resume
just when one was queued or unread then. -/
theorem waitForEvent_fresh_iff {timeout : Rat} {ticket : Nat} {resumed waited : Transport} (stamped : Stamped t)
    (sent : resume t = .ok ticket resumed)
    (ran : waitForEvent "cpu.stepping" timeout resumed = .ok message waited) :
    (isStepping message = true ∧ resumed.sent.length ≤ message.after) ↔
      ¬(t.queuedEvents "cpu.stepping" ≠ [] ∨
        ∃ arrival ∈ t.unread, ∃ message ∈ message? arrival, isStepping message = true) := by
  obtain ⟨_, _, rfl⟩ := send_ok.mp sent
  have clock : (t.afterSend "cpu.resume" []).sent.length = t.sent.length + 1 := by simp [afterSend]
  have allowed : ¬timeout ≤ 0 := by
    intro tooShort
    rw [waitForEvent_refused tooShort] at ran
    cases ran
  rw [clock]
  cases queue : t.queuedEvents "cpu.stepping" with
  | cons first rest =>
    have resumedQueue : (t.afterSend "cpu.resume" []).queuedEvents "cpu.stepping" = first :: rest := queue
    rw [waitForEvent_queued allowed resumedQueue] at ran
    cases ran
    have old := stamped.queued "cpu.stepping" message (queue ▸ List.mem_cons_self ..)
    constructor
    · rintro ⟨_, fresh⟩
      omega
    · intro none
      exact absurd (Or.inl (List.cons_ne_nil _ _)) none
  | nil =>
    have resumedQueue : (t.afterSend "cpu.resume" []).queuedEvents "cpu.stepping" = [] := queue
    rw [waitForEvent_reads allowed resumedQueue] at ran
    obtain ⟨before, taken, after, divided, passed, read, accepted, _⟩ := receiveFrom_ok.mp ran
    have named : isStepping message = true := accepted
    have aged := readFrame_after read
    have inTaken : message ∈ message? taken := by simp [message?, read]
    have notBefore : ∀ arrival ∈ before, ¬∃ other ∈ message? arrival, isStepping other = true := by
      rintro arrival member ⟨other, found, stepping⟩
      obtain ⟨outcome, same, refused⟩ := passed arrival member
      rw [message?, same] at found
      exact absurd stepping (by simpa [isStepping] using refused other found)
    change t.unread ++ t.nextArrivals = before ++ taken :: after at divided
    rw [and_iff_right named]
    simp only [ne_eq, not_true_eq_false, false_or]
    by_cases waiting : ∃ arrival ∈ t.unread, ∃ other ∈ message? arrival, isStepping other = true
    · -- An unread event comes before everything that arrives later.
      refine iff_of_false ?_ (not_not_intro waiting)
      have old := stamped.unread taken (first_in_front divided notBefore waiting)
      omega
    · refine iff_of_true ?_ waiting
      have member : taken ∈ t.unread ++ t.nextArrivals :=
        divided ▸ List.mem_append_right _ (List.mem_cons_self ..)
      rcases List.mem_append.mp member with inUnread | inNext
      · exact absurd ⟨taken, inUnread, message, inTaken, named⟩ waiting
      · obtain ⟨received, _, rfl⟩ := List.mem_map.mp inNext
        exact aged.ge

theorem connect_stamped {casefold : String → String} {builtins : Builtins} {options : TransportOptions} {wire : Wire}
    (ran : connect casefold builtins options wire = .ok t) : Stamped t := by
  obtain ⟨limit, bounded, started⟩ := connect_ok ran
  have bootstrapped : Maintains (Keeps Stamped) (bootstrap builtins) := by
    refine (stampedRule.request trivial _).bind ?_
    intro _
    exact (stampedRule.request trivial _).bind fun _ => Maintains.pure _
  refine bootstrapped.ok started ⟨?_, ?_⟩
  · intro arrival member
    obtain ⟨received, _, rfl⟩ := List.mem_map.mp member
    exact le_refl _
  · intro name message member
    cases member

end Transport

namespace RuntimeSession
variable {builtins : Builtins} {history : List (RuntimeSession × BreakpointCall)} {session final : RuntimeSession}
variable {call : BreakpointCall} {traced : TracedObservation} {observation : RuntimeBreakpointObservation}
variable {hit : Message}

theorem reach_stamped (reach : Reach builtins history session) : session.transport.Stamped := by
  induction reach with
  | connected started =>
    obtain ⟨transport, connected, same⟩ := bind_ok.mp started
    cases same
    exact Transport.connect_stamped connected
  | observed call _ ih =>
    have kept : Maintains (OnSession (Keeps Transport.Stamped)) (observeBreakpoint builtins call) :=
      (Transport.stampedRule.observeTraced fun _ => trivial).map
    exact kept _ ih

/-- The warnings of an observation are those about the address of the hit. -/
theorem capture_warnings (ran : capture builtins call hit session = .ok observation final) :
    observation.warnings = hitWarnings call.address.value hit := by
  simp only [capture, effect_bind_ok, effect_get_ok, effect_pure_ok] at ran
  obtain ⟨_, _, _, _, _, _, _, _, _, _, _, _, _, _, _, rfl, _⟩ := ran
  rfl

theorem hitWarnings_nil {address : Int} (clean : hitWarnings address hit = []) : hitAddress hit = some address := by
  unfold hitWarnings at clean
  split at clean
  · assumption
  · cases clean

/-- The observation of a call rests on a `cpu.stepping` event for its address,
which arrived after the call had resumed the target. -/
structure BackedHit (call : BreakpointCall) (traced : TracedObservation) : Prop where
  stepping : traced.hit.event.equalsStr "cpu.stepping" = true
  atAddress : hitAddress traced.hit = some call.address.value
  fresh : traced.resumedAt ≤ traced.hit.after

/-- The steps of a call that returns an observation. -/
theorem observeTraced_ok (ran : observeTraced builtins call session = .ok traced final) :
    ∃ reply added ticket resumed waited, ∃ params,
      Transport.request builtins "cpu.breakpoint.add" params session.transport = .ok reply added ∧
      Transport.resume added = .ok ticket resumed ∧
      Transport.waitForEvent "cpu.stepping" call.timeout resumed = .ok traced.hit waited ∧
      traced.resumedAt = resumed.sent.length ∧
      traced.observation.warnings = hitWarnings call.address.value traced.hit := by
  simp only [observeTraced, effect_bind_ok, lifted_ok, translating_ok, finallyDo_ok, onTransport, onPart_ok] at ran
  obtain ⟨_, _, ⟨_, rfl⟩, _, _, ⟨_, rfl⟩, _, connected, required, _, _, ⟨added, requested, rfl⟩, _, observed, _⟩ := ran
  have same : connected = session := by
    unfold requireTransport at required
    split at required <;> cases required
    rfl
  subst same
  obtain ⟨reply, after, answered, done⟩ := effect_bind_ok.mp requested
  obtain ⟨_, rfl⟩ := effect_pure_ok.mp done
  simp only [observeInstalled, effect_bind_ok, effect_modify_ok, effect_get_ok, effect_pure_ok, onTransport,
    onPart_ok] at observed
  obtain ⟨_, _, rfl, ticket, _, ⟨resumed, sent, rfl⟩, _, _, ⟨rfl, rfl⟩, hit, _, ⟨waited, took, rfl⟩,
    observation, _, captured, rfl, _⟩ := observed
  exact ⟨reply, after, ticket, resumed, waited, _, answered, sent, took, rfl, capture_warnings captured⟩

/-- In every run, an observation without a warning rests on a fresh hit just
when no `cpu.stepping` event was pending when the call resumed the target. -/
theorem observeTraced_backed_iff (reach : Reach builtins history session)
    (ran : observeTraced builtins call session = .ok traced final) (clean : traced.observation.warnings = []) :
    BackedHit call traced ↔ ¬session.transport.SteppingPending := by
  obtain ⟨reply, added, ticket, resumed, waited, params, requested, sent, took, at_, warnings⟩ := observeTraced_ok ran
  have stamped : added.Stamped :=
    (Transport.stampedRule.request trivial params).ok requested (reach_stamped reach)
  have fresh := Transport.waitForEvent_fresh_iff stamped sent took
  rw [Transport.stepping_pending_iff requested, ← fresh, ← at_]
  have address := hitWarnings_nil (warnings ▸ clean)
  constructor
  · intro backed
    exact ⟨backed.stepping, backed.fresh⟩
  · rintro ⟨stepping, later⟩
    exact ⟨stepping, address, later⟩

/-- Library functions for runs that pass no value through them. -/
def noBuiltins : Builtins := ⟨fun _ => "", fun _ => none, fun _ => ""⟩

def replyTo (event : String) (ticket : Nat) : Received :=
  .text (.ok (.obj [("event", .str event), ("ticket", .int ticket)]))

def steppingAt (address : Int) : Received :=
  .text (.ok (.obj [("event", .str "cpu.stepping"), ("hit", .obj [("kind", .str "exec"), ("address", .int address)])]))

/-- A debugger that answers the two requests of the constructor, and then takes the given turns. -/
def answeringWire (turns : List Turn) : Wire where
  handshake := .ok ()
  early := []
  turns := ⟨none, [replyTo "version" 1]⟩ :: ⟨none, [replyTo "client.config.set" 2]⟩ :: turns

def connectTo (turns : List Turn) : Except RuntimeFailure RuntimeSession :=
  connect noBuiltins id "s1" "127.0.0.1" 40000 defaultConnectTimeout defaultRequestTimeout (answeringWire turns)

/-- A call that captures nothing but the hit. -/
def plainCall : BreakpointCall := ⟨.runtime 0x08800000, 2, [], false, false, defaultMaxBacktraceDepth,
  defaultMaxTotalMemoryBytes⟩

/-- The debugger confirms the breakpoint, stops at it after the resume, and confirms the removal. -/
def promptTurns : List Turn := [⟨none, [replyTo "cpu.breakpoint.add" 3]⟩, ⟨none, [steppingAt 0x08800000]⟩,
  ⟨none, [replyTo "cpu.breakpoint.remove" 5]⟩, .quiet]

theorem promptTurns_backed : ∃ session traced, connectTo promptTurns = .ok session ∧
    outcome (observeTraced noBuiltins plainCall session) = .ok traced ∧ BackedHit plainCall traced := by
  obtain ⟨session, connected⟩ := exists_ok (x := connectTo promptTurns) (by decide +kernel)
  have seen : (fun session => (decide session.transport.SteppingPending,
      (fun traced => traced.observation.warnings) <$> outcome (observeTraced noBuiltins plainCall session))) <$>
        connectTo promptTurns = .ok (false, .ok []) := by decide +kernel
  rw [connected] at seen
  obtain ⟨notPending, warnings⟩ := Prod.mk.inj (Except.ok.inj seen)
  obtain ⟨traced, observed, clean⟩ := map_ok.mp warnings
  obtain ⟨final, ran⟩ := outcome_ok.mp observed
  refine ⟨session, traced, connected, observed, ?_⟩
  exact (observeTraced_backed_iff (.connected connected) ran clean).mpr (of_decide_eq_false notPending)

/-- No `cpu.stepping` comes before the first call times out. It comes while
that call removes its breakpoint, and nothing comes after the second resume. -/
def lateTurns : List Turn := [⟨none, [replyTo "cpu.breakpoint.add" 3]⟩, .quiet,
  ⟨none, [steppingAt 0x08800000, replyTo "cpu.breakpoint.remove" 5]⟩, .quiet,
  ⟨none, [replyTo "cpu.breakpoint.add" 7]⟩, .quiet, ⟨none, [replyTo "cpu.breakpoint.remove" 9]⟩, .quiet]

/-- The second call reports the hit that the first one had queued in its clean-up. -/
theorem observeTraced_reports_stale_hit :
    ¬∀ (builtins : Builtins) (history : List (RuntimeSession × BreakpointCall)) (session final : RuntimeSession)
      (call : BreakpointCall) (traced : TracedObservation),
      Reach builtins history session → observeTraced builtins call session = .ok traced final →
        traced.observation.warnings = [] → BackedHit call traced := by
  intro backed
  obtain ⟨session, connected⟩ := exists_ok (x := connectTo lateTurns) (by decide +kernel)
  have seen : (fun session => (fun traced => (traced.observation.warnings, traced.resumedAt, traced.hit.after)) <$>
      outcome (observeTraced noBuiltins plainCall (finalState (observeBreakpoint noBuiltins plainCall session)))) <$>
        connectTo lateTurns = .ok (.ok ([], 8, 5)) := by decide +kernel
  rw [connected] at seen
  have second : (fun traced => (traced.observation.warnings, traced.resumedAt, traced.hit.after)) <$>
      outcome (observeTraced noBuiltins plainCall (finalState (observeBreakpoint noBuiltins plainCall session))) =
        .ok ([], 8, 5) := Except.ok.inj seen
  obtain ⟨traced, observed, facts⟩ := map_ok.mp second
  obtain ⟨warnings, resumed, arrived⟩ : _ ∧ _ ∧ _ := by simpa only [Prod.mk.injEq] using facts
  obtain ⟨final, ran⟩ := outcome_ok.mp observed
  have fresh := (backed _ _ _ final plainCall traced (.observed plainCall (.connected connected)) ran warnings).fresh
  omega

end RuntimeSession

end PspDisasm
