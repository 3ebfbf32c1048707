import PspDisasm.Runtime.RequestRules

namespace PspDisasm
open Foundations

/-- A relation between the first and the last transport of a computation that
every primitive step of the client respects, when it sends only allowed requests. -/
structure TransportRule (allowed : String → Prop) (R : Transport → Transport → Prop) : Prop where
  sends : ∀ event params, allowed event → Maintains R (Transport.send event params)
  receives : ∀ accept, Maintains R (Transport.receiveUntil accept)
  takes : ∀ event, Maintains R (Transport.takeQueued event)

/-- The relation between two sessions that their transports have. -/
def OnSession (R : Transport → Transport → Prop) (s t : RuntimeSession) : Prop := R s.transport t.transport

instance (R : Transport → Transport → Prop) [IsPreorder Transport R] : IsPreorder RuntimeSession (OnSession R) where
  refl s := refl_of R s.transport
  trans _ _ _ first second := trans_of R first second

namespace TransportRule
variable {allowed : String → Prop} {R : Transport → Transport → Prop} [IsPreorder Transport R]
variable {builtins : Builtins} {event : String} (rule : TransportRule allowed R)

include rule

theorem request (sendable : allowed event) (params : Dict String Json) :
    Maintains R (Transport.request builtins event params) := by
  refine (rule.sends event params sendable).bind ?_
  intro ticket
  refine (rule.receives _).bind ?_
  intro response
  exact (Maintains.lifted _).bind fun _ => Maintains.pure response

theorem waitForEvent (event : String) (timeout : Rat) : Maintains R (Transport.waitForEvent event timeout) := by
  refine (Maintains.lifted _).bind ?_
  intro _
  refine (rule.takes event).bind ?_
  intro queued
  cases queued with
  | some message => exact Maintains.pure message
  | none => exact rule.receives _

omit [IsPreorder Transport R] rule in
theorem onTransport {α : Type} {x : TransportM α} (maintained : Maintains R x) :
    Maintains (OnSession R) (RuntimeSession.onTransport x) :=
  Maintains.onPart (fun _ _ => rfl) maintained

omit rule in
theorem requireTransport : Maintains (OnSession R) RuntimeSession.requireTransport := by
  intro session
  unfold RuntimeSession.requireTransport
  split <;> exact refl_of R session.transport

omit rule in
theorem nextSequence : Maintains (OnSession R) RuntimeSession.nextSequence :=
  fun session => refl_of R session.transport

omit rule in
/-- The end of every capture: a sequence number and the session's identifier go into the result. -/
theorem recordWith {α : Type} (record : Nat → RuntimeSession → α) :
    Maintains (OnSession R) (do
      let sequence ← RuntimeSession.nextSequence
      let session ← get
      pure (record sequence session)) := by
  refine nextSequence.bind ?_
  intro sequence
  refine Maintains.getState.bind ?_
  intro session
  exact Maintains.pure _

theorem readRegisters (sendable : allowed "cpu.getAllRegs") :
    Maintains (OnSession R) (RuntimeSession.readRegisters builtins) := by
  refine requireTransport.bind ?_
  intro _
  have reading : Maintains R (Transport.getRegisters builtins) :=
    (rule.request sendable []).bind fun _ => Maintains.lifted _
  refine (onTransport reading).translating.bind ?_
  intro registers
  exact recordWith fun sequence session => (⟨session.sessionId, sequence, registers⟩ : RuntimeRegisterSnapshot)

theorem readMemory (sendable : allowed "memory.read") (address : RuntimeAddress) (size maxBytes : Int) :
    Maintains (OnSession R) (RuntimeSession.readMemory builtins address size maxBytes) := by
  refine requireTransport.bind ?_
  intro _
  have reading : Maintains R (Transport.readMemory builtins address.value size maxBytes) := by
    refine (Maintains.lifted _).bind ?_
    intro _
    refine (Maintains.lifted _).bind ?_
    intro _
    exact (rule.request sendable _).bind fun _ => Maintains.lifted _
  refine (onTransport reading).translating.bind ?_
  intro data
  exact recordWith fun sequence session =>
    (⟨session.sessionId, sequence, address, size, builtins.sha256 data⟩ : RuntimeMemoryObservation)

theorem captureBacktrace (sendable : allowed "hle.backtrace") (maxDepth : Int) :
    Maintains (OnSession R) (RuntimeSession.captureBacktrace builtins maxDepth) := by
  have reading : Maintains R (Transport.backtrace builtins maxDepth) :=
    (rule.request sendable []).bind fun _ => Maintains.lifted _
  refine (onTransport reading).translating.bind ?_
  intro frames
  exact recordWith fun sequence session =>
    (⟨session.sessionId, sequence, frames.map RuntimeAddress.runtime⟩ : RuntimeBacktrace)

omit rule in
theorem whenWanted {α : Type} {wanted : Bool} {x : SessionM α} (maintained : Maintains (OnSession R) x) :
    Maintains (OnSession R) (RuntimeSession.whenWanted wanted x) := by
  unfold RuntimeSession.whenWanted
  split
  · exact maintained.map
  · exact Maintains.pure none

variable {call : BreakpointCall}

theorem capture (sendable : ∀ event ∈ ["cpu.getAllRegs", "memory.read", "hle.backtrace"], allowed event)
    (hit : Message) : Maintains (OnSession R) (RuntimeSession.capture builtins call hit) := by
  have registersRead : Maintains (OnSession R) (RuntimeSession.readRegisters builtins) :=
    rule.readRegisters (sendable "cpu.getAllRegs" (by simp))
  have memoryRead : ∀ read : RuntimeAddress × Int, Maintains (OnSession R)
      (RuntimeSession.readMemory builtins read.1 read.2 call.maxTotalMemoryBytes) :=
    fun read => rule.readMemory (sendable "memory.read" (by simp)) read.1 read.2 _
  have backtraceRead : Maintains (OnSession R) (RuntimeSession.captureBacktrace builtins call.maxBacktraceDepth) :=
    rule.captureBacktrace (sendable "hle.backtrace" (by simp)) _
  refine (whenWanted registersRead).bind ?_
  intro registers
  refine (Maintains.mapM memoryRead call.memoryReads).bind ?_
  intro memory
  refine (whenWanted backtraceRead).bind ?_
  intro backtrace
  exact recordWith fun sequence session => (⟨session.sessionId, sequence, call.address, 1, registers, memory,
    backtrace, RuntimeSession.hitWarnings call.address.value hit⟩ : RuntimeBreakpointObservation)

theorem observeInstalled (sendable : ∀ event ∈ ["cpu.resume", "cpu.getAllRegs", "memory.read", "hle.backtrace"],
    allowed event) : Maintains (OnSession R) (RuntimeSession.observeInstalled builtins call) := by
  refine (Maintains.modify fun session : RuntimeSession => refl_of R session.transport).bind ?_
  intro _
  refine (onTransport (rule.sends _ _ (sendable _ (by simp)))).bind ?_
  intro _
  refine Maintains.getState.bind ?_
  intro session
  refine (onTransport (rule.waitForEvent _ _)).bind ?_
  intro hit
  refine (rule.capture (fun event member => sendable event (List.mem_cons_of_mem _ member)) hit).bind ?_
  intro observation
  exact Maintains.pure _

theorem removeInstalled (sendable : ∀ event ∈ ["cpu.breakpoint.remove", "cpu.resume"], allowed event)
    (address : Int) : Maintains (OnSession R) (RuntimeSession.removeInstalled builtins address) := by
  have removal : Maintains R (Transport.removeExecBreakpoint builtins address) :=
    (rule.request (sendable _ (by simp)) _).bind fun _ => Maintains.pure _
  refine (onTransport removal).suppressing.bind ?_
  intro _
  refine (Maintains.modify fun session : RuntimeSession => refl_of R session.transport).bind ?_
  intro _
  exact ((onTransport (rule.sends _ _ (sendable _ (by simp)))).bind fun _ => Maintains.pure _).suppressing

theorem observeTraced (sendable : ∀ event, allowed event) :
    Maintains (OnSession R) (RuntimeSession.observeTraced builtins call) := by
  refine (Maintains.lifted _).bind ?_
  intro _
  refine (Maintains.lifted _).bind ?_
  intro _
  refine requireTransport.bind ?_
  intro _
  have adding : Maintains R (Transport.addExecBreakpoint builtins call.address.value) :=
    (rule.request (sendable _) _).bind fun _ => Maintains.pure _
  refine ((onTransport adding).bind ?_).translating
  intro _
  exact (rule.observeInstalled fun event _ => sendable event).finallyDo
    (rule.removeInstalled (fun event _ => sendable event) _)

end TransportRule

end PspDisasm
