import Mathlib.Logic.Relation
import PspDisasm.Runtime.DebuggerProcess
import PspDisasm.Runtime.Session

namespace PspDisasm
open Foundations

/-- The exceptions that the constructor of a session can raise. -/
inductive SessionFailure
  | backendUnavailable (message : String)
  | runtime (failure : RuntimeFailure)
deriving DecidableEq

structure LaunchSpec where
  executable : String
  args : List String
  cwd : Option String

/-- The part of the operating system in a launch: which files there are, what `Popen` makes of an argument list and a
directory (what its object will see, or the text of an `OSError`), and the text of a number of seconds. -/
structure LaunchHost where
  isFile : String → Bool
  popen : List String → Option String → Except String (List (Option Int))
  secondsText : Rat → String

structure SessionOptions where
  sessionId : String
  host : String
  port : Int
  launch : Option LaunchSpec
  connectRetrySeconds : Rat
  connectTimeout : Rat
  requestTimeout : Rat

/-- What a session holds beside its transport: its process, the processes that it has given up, how many of its sockets
are open, and the attempts that it has made to connect. -/
structure SessionResources where
  process : Option DebuggerProcess
  released : List DebuggerProcess
  openSockets : Nat
  attempts : List Wire

abbrev ConnectM := EStateM SessionFailure SessionResources

/-- `_cleanup_process`. -/
def SessionResources.cleanupProcess (resources : SessionResources) : SessionResources :=
  match resources.process with
  | none => resources
  | some process => { resources with process := none, released := resources.released ++ [process.terminateProcess] }

/-- `_launch_process`. -/
def launchProcess (host : LaunchHost) (launch : LaunchSpec) : Except SessionFailure DebuggerProcess := do
  raiseIf (¬host.isFile launch.executable) (.backendUnavailable ("PPSSPP executable does not exist: " ++ launch.executable))
  match host.popen (launch.executable :: launch.args) launch.cwd with
  | .ok sightings => .ok (.started sightings)
  | .error text => .error (.backendUnavailable ("unable to launch PPSSPP: " ++ text))

theorem TransportOptions.queue_pos {options : TransportOptions} (bounds : 0 < options.maxFrameBytes ∧ 0 < options.maxQueuedEvents) :
    0 < options.maxQueuedEvents.toNat :=
  Int.pos_iff_toNat_pos.mp bounds.2

/-- The constructor of the transport up to its handshake, which closes the socket again where it fails. -/
def Transport.openSocket (casefold : String → String) (options : TransportOptions) (wire : Wire) : Except RuntimeFailure Transport := do
  raiseIf (casefold options.host ∉ loopbackHosts) (.connection "PPSSPP debugger host must be loopback-only")
  raiseIf (¬(1 ≤ options.port ∧ options.port ≤ 65535))
    (.connection "PPSSPP debugger port must be between 1 and 65535")
  raiseIf (options.connectTimeout ≤ 0 ∨ options.requestTimeout ≤ 0)
    (.connection "PPSSPP debugger timeouts must be positive")
  if bounds : 0 < options.maxFrameBytes ∧ 0 < options.maxQueuedEvents then
    wire.handshake
    pure (opened options.maxQueuedEvents.toNat (TransportOptions.queue_pos bounds) wire)
  else .error (.connection "PPSSPP debugger bounds must be positive")

/-- The first two requests, behind the handshake. No block closes the socket when one of them fails. -/
def Transport.introduce (builtins : Builtins) (opened : Transport) : Except RuntimeFailure Transport :=
  match bootstrap builtins opened with
  | .ok _ connected => .ok connected
  | .error failure _ => .error failure

theorem Transport.connect_eq (casefold : String → String) (builtins : Builtins) (options : TransportOptions) (wire : Wire) :
    connect casefold builtins options wire = openSocket casefold options wire >>= introduce builtins := by
  simp only [connect, openSocket, bind_assoc]
  refine bind_congr fun _ => bind_congr fun _ => bind_congr fun _ => ?_
  split
  · cases wire.handshake <;> rfl
  · rfl

namespace RuntimeSession

section Connecting
variable (casefold : String → String) (builtins : Builtins) (host : LaunchHost) (options : SessionOptions)

def transportOptions : TransportOptions :=
  ⟨options.host, options.port, options.connectTimeout, options.requestTimeout, defaultMaxFrameBytes, defaultMaxQueuedEvents⟩

/-- The constructor of the transport, with the socket that it leaves open. -/
def connectTransport (wire : Wire) : EStateM RuntimeFailure SessionResources Transport := fun resources =>
  let tried := { resources with attempts := resources.attempts ++ [wire] }
  match Transport.openSocket casefold (transportOptions options) wire with
  | .error failure => .error failure tried
  | .ok opened =>
    let holding := { tried with openSockets := tried.openSockets + 1 }
    match Transport.bootstrap builtins opened with
    | .ok _ transport => .ok transport holding
    | .error failure _ => .error failure holding

/-- `self._process.poll()`. -/
def pollProcess : ConnectM (Option Int) := fun resources =>
  match resources.process with
  | none => .error (.runtime (.other "AssertionError")) resources
  | some process => .ok process.poll.returncode { resources with process := some process.poll }

/-- The exceptions after which the connection is tried again. -/
def retried : RuntimeFailure → Bool
  | .connection _ | .timeout _ => true
  | _ => false

def exitedEarly (code : Int) : SessionFailure :=
  .backendUnavailable s!"PPSSPP process exited before its debugger became reachable (exit code {code})"

def unreachable (failure : RuntimeFailure) : SessionFailure :=
  .backendUnavailable ("PPSSPP debugger did not become reachable within " ++ host.secondsText options.connectRetrySeconds ++
    "s: " ++ failure.message)

/-- One turn of the loop of `_connect_with_retry`, and how it goes on. -/
def connectTurn (wire : Wire) (again : RuntimeFailure → ConnectM Transport) : ConnectM Transport := do
  match ← pollProcess with
  | some code => throw (exitedEarly code)
  | none => fun resources =>
    match connectTransport casefold builtins options wire resources with
    | .ok transport tried => .ok transport tried
    | .error failure tried => if retried failure then again failure tried else .error (.runtime failure) tried

/-- `_connect_with_retry`. What the first attempt will meet comes with each further one and the time, from the start of the
loop on, at which the attempt in front of it has failed. Behind the last attempt the time is up. -/
def connectWithRetry : List (Rat × Wire) → Wire → ConnectM Transport
  | [], wire => connectTurn casefold builtins options wire fun failure => throw (unreachable host options failure)
  | (now, next) :: later, wire => connectTurn casefold builtins options wire fun failure =>
    if options.connectRetrySeconds ≤ now then throw (unreachable host options failure) else connectWithRetry later next

/-- The block that the constructor guards. -/
def connectTo? (first : Wire) (later : List (Rat × Wire)) : ConnectM Transport :=
  match options.launch with
  | some launch => do
    let process ← lifted (launchProcess host launch)
    modify fun resources => { resources with process := some process }
    connectWithRetry casefold builtins host options later first
  | none => fun resources =>
    match connectTransport casefold builtins options first resources with
    | .ok transport tried => .ok transport tried
    | .error failure tried => .error (.runtime failure) tried

/-- The constructor. After an exception the process is cleaned up. -/
def start (first : Wire) (later : List (Rat × Wire)) : ConnectM RuntimeSession := fun resources =>
  match connectTo? casefold builtins host options first later resources with
  | .ok transport holding => .ok ⟨options.sessionId, transport, true, [], 0⟩ holding
  | .error failure holding => .error failure holding.cleanupProcess

end Connecting

end RuntimeSession

/-- A session with all that it holds. -/
structure HostedSession where
  session : RuntimeSession
  resources : SessionResources

/-- What a program does with a session: its methods, and the probes that helpers make through its transport. -/
inductive SessionCall
  | readRegisters
  | readMemory (address : RuntimeAddress) (size maxBytes : Int)
  | observeBreakpoint (call : BreakpointCall)
  | probe (event : String) (params : Dict String Json)
  | close

namespace HostedSession
variable (builtins : Builtins)

/-- `close`. Nothing in it raises. -/
def close (hosted : HostedSession) : HostedSession :=
  let closed : HostedSession :=
    if hosted.session.connected then
      { session := finalState (RuntimeSession.close builtins hosted.session)
        resources := { hosted.resources with openSockets := hosted.resources.openSockets - 1 } }
    else hosted
  { closed with resources := closed.resources.cleanupProcess }

/-- How a call leaves the session, whatever it returns or raises. -/
def after (hosted : HostedSession) : SessionCall → HostedSession
  | .readRegisters => { hosted with session := finalState (RuntimeSession.readRegisters builtins hosted.session) }
  | .readMemory address size maxBytes =>
    { hosted with session := finalState (RuntimeSession.readMemory builtins address size maxBytes hosted.session) }
  | .observeBreakpoint call => { hosted with session := finalState (RuntimeSession.observeBreakpoint builtins call hosted.session) }
  | .probe event params => { hosted with session := finalState ((do
      RuntimeSession.requireTransport
      RuntimeSession.onTransport (Transport.tryRequest builtins event params)) hosted.session) }
  | .close => hosted.close builtins

/-- Some calls have been made, each of them whatever came of the ones before. -/
def Called : HostedSession → HostedSession → Prop :=
  Relation.ReflTransGen fun hosted next => ∃ call, next = hosted.after builtins call

end HostedSession

/-- What is left of a `with RuntimeSession(...)` statement: how it ended, what is held, and the session if there was one. -/
structure SessionRun (α : Type) where
  outcome : Except SessionFailure α
  resources : SessionResources
  session : Option RuntimeSession

def withSession {α : Type} (casefold : String → String) (builtins : Builtins) (host : LaunchHost) (options : SessionOptions)
    (first : Wire) (later : List (Rat × Wire)) (body : EStateM RuntimeFailure HostedSession α) : SessionRun α :=
  match RuntimeSession.start casefold builtins host options first later ⟨none, [], 0, []⟩ with
  | .error failure resources => ⟨.error failure, resources, none⟩
  | .ok session resources =>
    let ran := body ⟨session, resources⟩
    let closed := (finalState ran).close builtins
    ⟨(outcome ran).mapError .runtime, closed.resources, some closed.session⟩

end PspDisasm
