import PspDisasm.Runtime.Transport

namespace PspDisasm
open Foundations

def defaultMaxBacktraceDepth : Int := 32

def defaultMaxTotalMemoryBytes : Int := 64 * 1024

structure RuntimeAddress where
  domain : String
  value : Int
  modulePath : Option String
deriving DecidableEq, Repr

/-- An address in the space that only a debugger observation produces. -/
def RuntimeAddress.runtime (value : Int) : RuntimeAddress := ⟨"runtime", value, none⟩

structure RuntimeRegisterSnapshot where
  sessionId : String
  sequence : Nat
  registers : Dict String Int
deriving DecidableEq, Repr

structure RuntimeMemoryObservation where
  sessionId : String
  sequence : Nat
  address : RuntimeAddress
  size : Int
  sha256 : String
deriving DecidableEq, Repr

structure RuntimeBacktrace where
  sessionId : String
  sequence : Nat
  frames : List RuntimeAddress
deriving DecidableEq, Repr

structure RuntimeBreakpointObservation where
  sessionId : String
  sequence : Nat
  breakpointAddress : RuntimeAddress
  hitCount : Nat
  registers : Option RuntimeRegisterSnapshot
  memory : List RuntimeMemoryObservation
  backtrace : Option RuntimeBacktrace
  warnings : List String
deriving DecidableEq, Repr

/-- The arguments of one call of `observe_breakpoint`. -/
structure BreakpointCall where
  address : RuntimeAddress
  timeout : Rat
  memoryReads : List (RuntimeAddress × Int)
  captureRegisters : Bool
  captureBacktrace : Bool
  maxBacktraceDepth : Int
  maxTotalMemoryBytes : Int

/-- A session in connect mode. After `close` it is not connected any more. -/
structure RuntimeSession where
  sessionId : String
  transport : Transport
  connected : Bool
  installedBreakpoints : List Int
  sequence : Nat

abbrev SessionM := EStateM RuntimeFailure RuntimeSession

/-- An observation with two facts about the run that produced it: how many
requests were sent when the call had resumed the target, and the event that it
took for the hit. -/
structure TracedObservation where
  observation : RuntimeBreakpointObservation
  resumedAt : Nat
  hit : Message

namespace RuntimeSession

def withTransport (transport : Transport) (session : RuntimeSession) : RuntimeSession :=
  { session with transport := transport }

def onTransport {α : Type} (x : TransportM α) : SessionM α := onPart transport withTransport x

def requireTransport : SessionM Unit := fun session =>
  if session.connected then .ok () session
  else .error (.capture "runtime session is not connected") session

def nextSequence : SessionM Nat := fun session =>
  .ok (session.sequence + 1) { session with sequence := session.sequence + 1 }

/-- `except (RuntimeConnectionError, RuntimeProtocolError, RuntimeTimeoutError)`,
which raises a capture error in place of the exception. -/
def captureFailure (context : String → String) : RuntimeFailure → RuntimeFailure
  | .connection message => .capture (context message)
  | .protocol message => .capture (context message)
  | .timeout message => .capture (context message)
  | .capture message => .capture message
  | .other kind => .other kind

def addressText (address : Int) : String := "0x" ++ hexPadded 8 address

variable (builtins : Builtins)

def readRegisters : SessionM RuntimeRegisterSnapshot := do
  requireTransport
  let registers ← translating (captureFailure fun text => "unable to read registers: " ++ text)
    (onTransport (Transport.getRegisters builtins))
  let sequence ← nextSequence
  pure ⟨(← get).sessionId, sequence, registers⟩

def readMemory (address : RuntimeAddress) (size maxBytes : Int) : SessionM RuntimeMemoryObservation := do
  requireTransport
  let data ← translating (captureFailure fun text =>
      "unable to read memory at " ++ addressText address.value ++ ": " ++ text)
    (onTransport (Transport.readMemory builtins address.value size maxBytes))
  let sequence ← nextSequence
  pure ⟨(← get).sessionId, sequence, address, size, builtins.sha256 data⟩

def captureBacktrace (maxDepth : Int) : SessionM RuntimeBacktrace := do
  let frames ← translating (captureFailure fun text => "unable to capture backtrace: " ++ text)
    (onTransport (Transport.backtrace builtins maxDepth))
  let sequence ← nextSequence
  pure ⟨(← get).sessionId, sequence, frames.map RuntimeAddress.runtime⟩

/-- The address of a `cpu.stepping` event, where it has one. -/
def hitAddress (event : Message) : Option Int :=
  match event.get "hit" with
  | .obj hit => (Json.getField hit "address").int?
  | _ => none

def hitWarnings (address : Int) (event : Message) : List String :=
  if hitAddress event = some address then []
  else
    let observed :=
      match hitAddress event with
      | some other => addressText other
      | none => "none"
    ["breakpoint hit event reported address " ++ observed ++ ", expected " ++ addressText address]

/-- `x if wanted else None`. -/
def whenWanted {α : Type} (wanted : Bool) (x : SessionM α) : SessionM (Option α) :=
  if wanted then some <$> x else pure none

/-- What `observe_breakpoint` captures after the hit. -/
def capture (call : BreakpointCall) (event : Message) : SessionM RuntimeBreakpointObservation := do
  let registers ← whenWanted call.captureRegisters (readRegisters builtins)
  let memory ← call.memoryReads.mapM fun read => readMemory builtins read.1 read.2 call.maxTotalMemoryBytes
  let backtrace ← whenWanted call.captureBacktrace (captureBacktrace builtins call.maxBacktraceDepth)
  let sequence ← nextSequence
  pure ⟨(← get).sessionId, sequence, call.address, 1, registers, memory, backtrace,
    hitWarnings call.address.value event⟩

/-- The part of `observe_breakpoint` after the breakpoint is installed. -/
def observeInstalled (call : BreakpointCall) : SessionM TracedObservation := do
  modify fun session =>
    { session with installedBreakpoints := session.installedBreakpoints.insert call.address.value }
  let _ ← onTransport Transport.resume
  let resumedAt := (← get).transport.sent.length
  let event ← onTransport (Transport.waitForEvent "cpu.stepping" call.timeout)
  let observation ← capture builtins call event
  pure ⟨observation, resumedAt, event⟩

/-- The `finally` block of `observe_breakpoint`. -/
def removeInstalled (address : Int) : SessionM Unit := do
  suppressing (onTransport (Transport.removeExecBreakpoint builtins address))
  modify fun session => { session with installedBreakpoints := session.installedBreakpoints.erase address }
  suppressing do
    let _ ← onTransport Transport.resume

/-- `observe_breakpoint`. Its flag `installed` is set as soon as the add
request has returned, so the `finally` block guards exactly what follows that request. -/
def observeTraced (call : BreakpointCall) : SessionM TracedObservation := do
  lifted (raiseIf (call.timeout ≤ 0) (.capture "observe_breakpoint timeout must be positive"))
  let totalRequested := (call.memoryReads.map Prod.snd).sum
  lifted (raiseIf (call.maxTotalMemoryBytes < totalRequested) (.capture ("requested memory reads total " ++
    toString totalRequested ++ " bytes, exceeding the bound of " ++ toString call.maxTotalMemoryBytes ++ " bytes")))
  requireTransport
  translating (captureFailure fun text =>
      "breakpoint observation at " ++ addressText call.address.value ++ " failed: " ++ text) do
    onTransport (Transport.addExecBreakpoint builtins call.address.value)
    finallyDo (observeInstalled builtins call) (removeInstalled builtins call.address.value)

def observeBreakpoint (call : BreakpointCall) : SessionM RuntimeBreakpointObservation :=
  TracedObservation.observation <$> observeTraced builtins call

/-- `close`, without the process of launch mode. The close frame carries no request. -/
def close : SessionM Unit := do
  if (← get).connected then
    (← get).installedBreakpoints.forM fun address => do
      suppressing (onTransport (Transport.removeExecBreakpoint builtins address))
      modify fun session => { session with installedBreakpoints := session.installedBreakpoints.erase address }
    modify fun session => { session with connected := false }

/-- The constructor in connect mode. -/
def connect (casefold : String → String) (sessionId host : String) (port : Int)
    (connectTimeout requestTimeout : Rat) (wire : Wire) : Except RuntimeFailure RuntimeSession := do
  let transport ← Transport.connect casefold builtins
    ⟨host, port, connectTimeout, requestTimeout, defaultMaxFrameBytes, defaultMaxQueuedEvents⟩ wire
  pure ⟨sessionId, transport, true, [], 0⟩

/-- The sessions that a connected client can get into by calls of
`observe_breakpoint`, with the calls made so far and the state before each of them. -/
inductive Reach (builtins : Builtins) : List (RuntimeSession × BreakpointCall) → RuntimeSession → Prop
  | connected {casefold sessionId host port connectTimeout requestTimeout wire session} :
      connect builtins casefold sessionId host port connectTimeout requestTimeout wire = .ok session →
      Reach builtins [] session
  | observed {history session} (call : BreakpointCall) : Reach builtins history session →
      Reach builtins (history ++ [(session, call)]) (finalState (observeBreakpoint builtins call session))

end RuntimeSession

end PspDisasm
