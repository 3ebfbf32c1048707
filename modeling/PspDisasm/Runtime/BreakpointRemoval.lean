import PspDisasm.Runtime.StaleHits

namespace PspDisasm
open Foundations

/-- The address that a breakpoint request names. -/
def Sent.address (request : Sent) : Json := Json.getField request.params "address"

/-- Every add request that went out is followed by an attempt to remove a breakpoint at its address. -/
def RemovedLater (log : List Sent) : Prop :=
  ∀ before add after, log = before ++ add :: after → add.event = "cpu.breakpoint.add" → add.delivered = true →
    ∃ remove ∈ after, remove.event = "cpu.breakpoint.remove" ∧ remove.address = add.address

/-- A request other than an add. -/
def NotAdd (event : String) : Prop := event ≠ "cpu.breakpoint.add"
deriving Decidable

section Logs
variable {log more : List Sent} {add remove : Sent}

theorem removedLater_of_notAdd (others : ∀ request ∈ log, NotAdd request.event) : RemovedLater log := by
  rintro before add after rfl isAdd _
  exact absurd isAdd (others add (List.mem_append_right _ (List.mem_cons_self ..)))

theorem RemovedLater.append (first : RemovedLater log) (second : RemovedLater more) : RemovedLater (log ++ more) := by
  intro before add after divided isAdd delivered
  rcases List.append_eq_append_iff.mp divided with ⟨between, rfl, rest⟩ | ⟨between, rfl, rest⟩
  · exact second between add after rest isAdd delivered
  · cases between with
    | nil => exact second [] add after rest.symm isAdd delivered
    | cons head between =>
      cases rest
      obtain ⟨remove, member, removes⟩ := first before add between rfl isAdd delivered
      exact ⟨remove, List.mem_append_left _ member, removes⟩

/-- An add request and the removal that answers it, with no other add between or after them. -/
theorem removedLater_cons (others : ∀ request ∈ more, NotAdd request.event) (member : remove ∈ more)
    (removes : remove.event = "cpu.breakpoint.remove") (same : remove.address = add.address) :
    RemovedLater (add :: more) := by
  intro before other after divided isAdd delivered
  cases before with
  | nil =>
    cases divided
    exact ⟨remove, member, removes, same⟩
  | cons head before =>
    cases divided
    exact absurd isAdd (others other (List.mem_append_right _ (List.mem_cons_self ..)))

theorem removedLater_undelivered (lost : add.delivered = false) : RemovedLater [add] := by
  intro before other after divided _ delivered
  have same : other = add := by
    have member : other ∈ [add] := divided ▸ List.mem_append_right _ (List.mem_cons_self ..)
    exact List.mem_singleton.mp member
  rw [same, lost] at delivered
  cases delivered

end Logs

namespace Transport

/-- The client has only sent more requests, and only allowed ones. -/
def LogGrows (allowed : String → Prop) (s t : Transport) : Prop :=
  ∃ more, t.sent = s.sent ++ more ∧ ∀ request ∈ more, allowed request.event

instance (allowed : String → Prop) : IsPreorder Transport (LogGrows allowed) where
  refl s := ⟨[], by simp⟩
  trans _ _ _ first second := by
    obtain ⟨more, grown, allowedMore⟩ := first
    obtain ⟨rest, grownAgain, allowedRest⟩ := second
    refine ⟨more ++ rest, by rw [grownAgain, grown, List.append_assoc], ?_⟩
    intro request member
    exact (List.mem_append.mp member).elim (allowedMore request) (allowedRest request)

theorem logGrowsRule (allowed : String → Prop) : TransportRule allowed (LogGrows allowed) where
  sends event params sendable := by
    intro t
    rw [send_final]
    exact ⟨[⟨event, t.nextTicket, params, t.turn.sendError.isNone⟩], rfl, by simpa using sendable⟩
  receives accept := by
    intro t
    exact ⟨[], by rw [receiveUntil, receiveFrom_sent, List.append_nil], by simp⟩
  takes event := by
    intro t
    unfold takeQueued
    split <;> exact ⟨[], (List.append_nil _).symm, by simp⟩

/-- Where the next request can be sent, its reply reaches the client, is no
error, and comes before the client gives up waiting or the connection fails. -/
def Answered (t : Transport) : Prop :=
  t.turn.sendError = none → ∃ before arrival after reply, t.arrived = before ++ arrival :: after ∧
    (∀ earlier ∈ before, Skipped (answers t.nextTicket) earlier) ∧ readFrame arrival = .ok (some reply) ∧
    answers t.nextTicket reply = true ∧ isError reply = false

variable {t : Transport} (builtins : Builtins) (address : Int)

theorem addExecBreakpoint_sent (t : Transport) : (finalState (addExecBreakpoint builtins address t)).sent = t.sent ++
    [⟨"cpu.breakpoint.add", t.nextTicket, [("address", .int address), ("enabled", .bool true), ("log", .bool false)],
      t.turn.sendError.isNone⟩] := by
  rw [addExecBreakpoint, finalState_discard]
  exact request_sent

theorem addExecBreakpoint_answered (answered : t.Answered) (delivered : t.turn.sendError = none) :
    ∃ final, addExecBreakpoint builtins address t = .ok () final := by
  obtain ⟨before, arrival, after, reply, divided, passed, read, replies, noError⟩ := answered delivered
  exact ⟨_, effect_bind_ok.mpr ⟨reply, _, request_ok.mpr ⟨delivered, before, arrival, after, divided, passed, read,
    replies, noError, rfl⟩, rfl⟩⟩

/-- Answered turns let the add request fail only in the sending. -/
theorem addExecBreakpoint_lost {builtins : Builtins} {address : Int} {failure : RuntimeFailure} {added : Transport} (answered : t.Answered)
    (failed : addExecBreakpoint builtins address t = .error failure added) : t.turn.sendError.isNone = false := by
  by_contra delivered
  rw [Bool.not_eq_false, Option.isNone_iff_eq_none] at delivered
  obtain ⟨after, ran⟩ := addExecBreakpoint_answered builtins address answered delivered
  rw [failed] at ran
  cases ran

theorem answered_of_added {builtins : Builtins} {address : Int} {final : Transport}
    (ran : addExecBreakpoint builtins address t = .ok () final) : t.Answered := by
  obtain ⟨_, _, replied, _⟩ := effect_bind_ok.mp ran
  obtain ⟨_, before, arrival, after, divided, passed, read, answered, noError, _⟩ := request_ok.mp replied
  exact fun _ => ⟨before, arrival, after, _, divided, passed, read, answered, noError⟩

end Transport

/-- The checks that `observe_breakpoint` makes before it sends anything. -/
def BreakpointCall.Accepted (call : BreakpointCall) : Prop :=
  0 < call.timeout ∧ (call.memoryReads.map Prod.snd).sum ≤ call.maxTotalMemoryBytes

namespace RuntimeSession
variable {builtins : Builtins} {history : List (RuntimeSession × BreakpointCall)} {session : RuntimeSession}
variable {call : BreakpointCall}

/-- The clean-up attempts the removal first, whatever then becomes of it. -/
theorem removeInstalled_sent (builtins : Builtins) (address : Int) (session : RuntimeSession) : ∃ ticket delivered more,
    (finalState (removeInstalled builtins address session)).transport.sent = session.transport.sent ++
      ⟨"cpu.breakpoint.remove", ticket, [("address", .int address)], delivered⟩ :: more ∧
    ∀ request ∈ more, NotAdd request.event := by
  have removal : (finalState (suppressing (onTransport (Transport.removeExecBreakpoint builtins address))
      session)).transport.sent = session.transport.sent ++ [⟨"cpu.breakpoint.remove", session.transport.nextTicket,
        [("address", .int address)], session.transport.turn.sendError.isNone⟩] := by
    show (finalState (onTransport _ session)).transport.sent = _
    rw [onTransport, finalState_onPart, Transport.removeExecBreakpoint, finalState_discard]
    exact Transport.request_sent
  have rule := Transport.logGrowsRule NotAdd
  obtain ⟨more, grown, others⟩ : OnSession (Transport.LogGrows NotAdd)
      (finalState (suppressing (onTransport (Transport.removeExecBreakpoint builtins address)) session))
      (finalState (removeInstalled builtins address session)) := by
    refine Maintains.after _ ?_ session
    intro _
    refine (Maintains.modify fun session : RuntimeSession => refl_of (Transport.LogGrows NotAdd) session.transport).bind ?_
    intro _
    have resumed : NotAdd "cpu.resume" := by decide
    exact ((TransportRule.onTransport (rule.sends _ _ resumed)).bind fun _ => Maintains.pure _).suppressing
  rw [removal, List.append_assoc] at grown
  exact ⟨_, _, more, grown, others⟩

/-- After the add there is no other add, and the clean-up comes however the capture ends. -/
theorem captureInstalled_sent (builtins : Builtins) (call : BreakpointCall) (session : RuntimeSession) : ∃ more removal,
    (finalState (finallyDo (observeInstalled builtins call) (removeInstalled builtins call.address.value) session)).transport.sent =
      session.transport.sent ++ more ∧
    removal ∈ more ∧ removal.event = "cpu.breakpoint.remove" ∧ removal.params = [("address", .int call.address.value)] ∧
    ∀ request ∈ more, NotAdd request.event := by
  have grows : Maintains (OnSession (Transport.LogGrows NotAdd)) (observeInstalled builtins call) :=
    (Transport.logGrowsRule NotAdd).observeInstalled (by decide)
  obtain ⟨captured, grown, others⟩ := grows session
  obtain ⟨ticket, delivered, rest, removed, restOthers⟩ := removeInstalled_sent builtins call.address.value
    (finalState (observeInstalled builtins call session))
  refine ⟨captured ++ ⟨"cpu.breakpoint.remove", ticket, [("address", .int call.address.value)], delivered⟩ :: rest, _, ?_,
    List.mem_append_right _ List.mem_cons_self, rfl, rfl, ?_⟩
  · rw [finalState_finallyDo, removed, grown, List.append_assoc]
  · intro request member
    rcases List.mem_append.mp member with inCaptured | inRest
    · exact others request inCaptured
    · rcases List.mem_cons.mp inRest with rfl | inRest
      · show NotAdd "cpu.breakpoint.remove"
        decide
      · exact restOthers request inRest

/-- What a call does to the record of the sent requests, when its add request is answered. -/
theorem observeTraced_removedLater (removed : RemovedLater session.transport.sent)
    (answered : call.Accepted → session.transport.Answered) :
    RemovedLater (finalState (observeTraced builtins call session)).transport.sent := by
  rw [observeTraced, finalState_guard]
  split
  · exact removed
  rename_i positive
  rw [finalState_guard]
  split
  · exact removed
  rename_i within
  have accepted : call.Accepted := ⟨lt_of_not_ge positive, le_of_not_gt within⟩
  cases connected : session.connected with
  | false =>
    have refused : requireTransport session = .error (.capture "runtime session is not connected") session := by
      simp [requireTransport, connected]
    rw [finalState_bind_raised refused]
    exact removed
  | true =>
    have allowed : requireTransport session = .ok () session := by simp [requireTransport, connected]
    rw [finalState_bind_ok allowed, finalState_translating]
    have logged := Transport.addExecBreakpoint_sent builtins call.address.value session.transport
    cases outcome : Transport.addExecBreakpoint builtins call.address.value session.transport with
    | error failure added =>
      have failed : onTransport (Transport.addExecBreakpoint builtins call.address.value) session =
          .error failure (withTransport added session) := by rw [onTransport, onPart, outcome]
      have lost := Transport.addExecBreakpoint_lost (answered accepted) outcome
      rw [outcome] at logged
      rw [finalState_bind_raised failed, withTransport, show added.sent = _ from logged]
      exact removed.append (removedLater_undelivered lost)
    | ok done added =>
      have ran : onTransport (Transport.addExecBreakpoint builtins call.address.value) session =
          .ok done (withTransport added session) := by rw [onTransport, onPart, outcome]
      rw [outcome] at logged
      obtain ⟨more, removal, logs, inMore, removes, params, others⟩ :=
        captureInstalled_sent builtins call (withTransport added session)
      rw [finalState_bind_ok ran, logs, withTransport, show added.sent = _ from logged, List.append_assoc,
        List.singleton_append]
      have same : removal.address = Json.getField [("address", .int call.address.value)] "address" := by rw [Sent.address, params]
      exact removed.append (removedLater_cons others inMore removes same)

theorem close_logGrows (builtins : Builtins) : Maintains (OnSession (Transport.LogGrows NotAdd)) (close builtins) := by
  have rule := Transport.logGrowsRule NotAdd
  have removes : NotAdd "cpu.breakpoint.remove" := by decide
  refine Maintains.getState.bind ?_
  intro session
  split
  · refine Maintains.getState.bind ?_
    intro session
    refine (Maintains.forM ?_ _).bind ?_
    · intro address
      have removal : Maintains (Transport.LogGrows NotAdd) (Transport.removeExecBreakpoint builtins address) :=
        (rule.request removes _).bind fun _ => Maintains.pure _
      refine (TransportRule.onTransport removal).suppressing.bind ?_
      intro _
      exact Maintains.modify fun session : RuntimeSession => refl_of (Transport.LogGrows NotAdd) session.transport
    · intro _
      exact Maintains.modify fun session : RuntimeSession => refl_of (Transport.LogGrows NotAdd) session.transport
  · exact Maintains.pure _

theorem reach_removedLater (reach : Reach builtins history session)
    (answered : ∀ entry ∈ history, entry.2.Accepted → entry.1.transport.Answered) :
    RemovedLater session.transport.sent := by
  induction reach with
  | connected started =>
    obtain ⟨transport, connected, same⟩ := bind_ok.mp started
    cases same
    obtain ⟨limit, bounded, bootstrapped⟩ := Transport.connect_ok connected
    have rule := Transport.logGrowsRule NotAdd
    have grows : Maintains (Transport.LogGrows NotAdd) (Transport.bootstrap builtins) := by
      refine (rule.request (by decide) _).bind ?_
      intro _
      exact (rule.request (by decide) _).bind fun _ => Maintains.pure _
    obtain ⟨more, grown, others⟩ := grows.ok bootstrapped
    rw [grown]
    exact removedLater_of_notAdd others
  | @observed history session call _ ih =>
    have before := ih fun entry member => answered entry (List.mem_append_left _ member)
    have now := answered (session, call) (List.mem_append_right _ (List.mem_singleton_self _))
    rw [observeBreakpoint, finalState_map]
    exact observeTraced_removedLater before now

/-- In a run where every add request that goes out is answered, each of them
is followed by an attempt to remove its breakpoint, at the latest when the session is closed. -/
theorem close_removedLater (reach : Reach builtins history session)
    (answered : ∀ entry ∈ history, entry.2.Accepted → entry.1.transport.Answered) :
    RemovedLater (finalState (close builtins session)).transport.sent := by
  obtain ⟨more, grown, others⟩ := close_logGrows builtins session
  rw [grown]
  exact (reach_removedLater reach answered).append (removedLater_of_notAdd others)

theorem promptTurns_removed : ∃ session, connectTo promptTurns = .ok session ∧
    RemovedLater (finalState (close noBuiltins (finalState (observeBreakpoint noBuiltins plainCall session)))).transport.sent := by
  obtain ⟨session, connected⟩ := exists_ok (x := connectTo promptTurns) (by decide)
  have seen : (fun session => outcome (Transport.addExecBreakpoint noBuiltins 0x08800000 session.transport)) <$>
      connectTo promptTurns = .ok (.ok ()) := by decide
  rw [connected] at seen
  obtain ⟨added, ran⟩ := outcome_ok.mp (Except.ok.inj seen)
  refine ⟨session, connected, close_removedLater (.observed plainCall (.connected connected)) ?_⟩
  intro entry member _
  rw [List.mem_singleton.mp member]
  exact Transport.answered_of_added ran

/-- The add request goes out, but its reply does not come in time. -/
def silentTurns : List Turn := [.quiet]

/-- The breakpoint of an add request without a reply is never removed. -/
theorem close_leaves_breakpoint :
    ¬∀ (builtins : Builtins) (history : List (RuntimeSession × BreakpointCall)) (session : RuntimeSession),
      Reach builtins history session → RemovedLater (finalState (close builtins session)).transport.sent := by
  intro removed
  obtain ⟨session, connected⟩ := exists_ok (x := connectTo silentTurns) (by decide)
  have seen : (fun session => (finalState (close noBuiltins
      (finalState (observeBreakpoint noBuiltins plainCall session)))).transport.sent.map fun request =>
        (request.event, request.delivered)) <$> connectTo silentTurns =
      .ok ([("version", true), ("client.config.set", true)] ++ [("cpu.breakpoint.add", true)]) := by decide
  rw [connected] at seen
  obtain ⟨before, last, log, _, lastSeen⟩ := List.map_eq_append_iff.mp (Except.ok.inj seen)
  obtain ⟨add, rfl, facts⟩ := List.map_eq_singleton_iff.mp lastSeen
  obtain ⟨event, delivered⟩ := Prod.mk.inj facts
  obtain ⟨remove, member, _⟩ := removed noBuiltins _ _ (.observed plainCall (.connected connected)) before add [] log
    event delivered
  cases member

end RuntimeSession

end PspDisasm
