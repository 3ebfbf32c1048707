import PspDisasm.Runtime.HostedSession
import PspDisasm.Runtime.StaleHits

namespace PspDisasm
open Foundations

/-- The process has ended, or was told to and then killed. -/
def DebuggerProcess.Gone (process : DebuggerProcess) : Prop :=
  process.signals <+: [.terminate, .kill] ∧ (process.returncode.isSome ∨ process.signals = [.terminate, .kill])

namespace RuntimeSession

section Connecting
variable (casefold : String → String) (builtins : Builtins) (host : LaunchHost) (options : SessionOptions)

/-- What an attempt to connect comes to. -/
def attempt (wire : Wire) : Except RuntimeFailure Transport := Transport.connect casefold builtins (transportOptions options) wire

/-- The attempt has its socket open at the end, whether it connects or not. -/
def holdsSocket (wire : Wire) : Bool := (Transport.openSocket casefold (transportOptions options) wire).isOk

/-- The attempts that fail behind their handshake. -/
def abandoned (wires : List Wire) : List Wire :=
  wires.filter fun wire => holdsSocket casefold options wire && !(attempt casefold builtins options wire).isOk

/-- The resources after some attempts. -/
def afterAttempts (resources : SessionResources) (wires : List Wire) : SessionResources := { resources with
  attempts := resources.attempts ++ wires
  openSockets := resources.openSockets + (wires.filter (holdsSocket casefold options)).length }

variable {casefold builtins host options} {resources : SessionResources} {process : DebuggerProcess} {wire : Wire} {wires : List Wire}

theorem connectTransport_eq : connectTransport casefold builtins options wire resources =
    lifted (attempt casefold builtins options wire) (afterAttempts casefold options resources [wire]) := by
  rw [connectTransport, attempt, Transport.connect_eq, afterAttempts, List.filter_singleton]
  cases opening : Transport.openSocket casefold (transportOptions options) wire with
  | error failure =>
    have closed : holdsSocket casefold options wire = false := by rw [holdsSocket, opening]; rfl
    rw [closed]
    rfl
  | ok opened =>
    have holds : holdsSocket casefold options wire = true := by rw [holdsSocket, opening]; rfl
    rw [ok_bind, holds, Transport.introduce]
    dsimp only
    cases Transport.bootstrap builtins opened <;> rfl

theorem holdsSocket_of_connected (connected : (attempt casefold builtins options wire).isOk) : holdsSocket casefold options wire := by
  rw [attempt, Transport.connect_eq] at connected
  rw [holdsSocket]
  cases opening : Transport.openSocket casefold (transportOptions options) wire with
  | error failure =>
    rw [opening] at connected
    cases connected
  | ok opened => rfl

theorem afterAttempts_append (first second : List Wire) : afterAttempts casefold options resources (first ++ second) =
    afterAttempts casefold options (afterAttempts casefold options resources first) second := by
  simp [afterAttempts, Nat.add_assoc]

/-- Attempts that all fail leave just the sockets of the abandoned ones. -/
theorem abandoned_of_failed (failed : ∀ wire ∈ wires, ¬(attempt casefold builtins options wire).isOk) :
    abandoned casefold builtins options wires = wires.filter (holdsSocket casefold options) := by
  refine List.filter_congr fun wire listed => ?_
  simp [failed wire listed]

/-- The last attempt has connected, and those in front of it failed in a way after which it is tried again. -/
def Connects (casefold : String → String) (builtins : Builtins) (options : SessionOptions) (wires : List Wire) (transport : Transport) : Prop :=
  ∃ before wire, wires = before ++ [wire] ∧ attempt casefold builtins options wire = .ok transport ∧
    ∀ other ∈ before, ∃ failure, attempt casefold builtins options other = .error failure ∧ retried failure

theorem Connects.cons {transport : Transport} {failure : RuntimeFailure} (connects : Connects casefold builtins options wires transport)
    (failed : attempt casefold builtins options wire = .error failure) (again : retried failure) :
    Connects casefold builtins options (wire :: wires) transport := by
  obtain ⟨before, last, rfl, connected, earlier⟩ := connects
  refine ⟨wire :: before, last, rfl, connected, fun other listed => ?_⟩
  rcases List.mem_cons.mp listed with rfl | listed
  · exact ⟨failure, failed, again⟩
  · exact earlier other listed

theorem Connects.sockets {transport : Transport} (connects : Connects casefold builtins options wires transport) :
    (wires.filter (holdsSocket casefold options)).length = (abandoned casefold builtins options wires).length + 1 := by
  obtain ⟨before, last, rfl, connected, earlier⟩ := connects
  have isOk : (attempt casefold builtins options last).isOk := by rw [connected]; rfl
  have failed : ∀ wire ∈ before, ¬(attempt casefold builtins options wire).isOk := by
    intro wire listed
    obtain ⟨failure, raised, _⟩ := earlier wire listed
    rw [raised]
    exact Bool.false_ne_true
  have front := abandoned_of_failed failed
  have holding := holdsSocket_of_connected isOk
  rw [abandoned] at front ⊢
  rw [List.filter_append, List.filter_append, front, List.filter_singleton, List.filter_singleton, holding, isOk]
  simp

/-- What the loop has done when it ends: it made some attempts and looked at the process, and it has connected through the
last attempt, or all of them failed. -/
structure Tried (casefold : String → String) (builtins : Builtins) (options : SessionOptions) (resources : SessionResources)
    (process : DebuggerProcess) (ran : EStateM.Result SessionFailure SessionResources Transport) (wires : List Wire)
    (seen : DebuggerProcess) : Prop where
  final : finalState ran = { afterAttempts casefold options resources wires with process := some seen }
  signals : seen.signals = process.signals
  connects : ∀ transport holding, ran = .ok transport holding → Connects casefold builtins options wires transport
  failed : ∀ failure holding, ran = .error failure holding → ∀ wire ∈ wires, ¬(attempt casefold builtins options wire).isOk

theorem connectTurn_tried {again : RuntimeFailure → ConnectM Transport} (held : resources.process = some process)
    (goesOn : ∀ failure next (seen : DebuggerProcess), next.process = some seen → seen.signals = process.signals →
      ∃ wires later, Tried casefold builtins options next seen (again failure next) wires later) :
    ∃ wires seen, Tried casefold builtins options resources process
      (connectTurn casefold builtins options wire again resources) wires seen := by
  have looked : pollProcess resources = .ok process.poll.returncode { resources with process := some process.poll } := by
    rw [pollProcess, held]
  rw [connectTurn, bind_after looked]
  cases ended : process.poll.returncode with
  | some code =>
    refine ⟨[], process.poll, ?_, DebuggerProcess.poll_signals, ?_, ?_⟩
    · simp [afterAttempts]
      rfl
    · intro transport holding ran
      cases ran
    · intro failure holding _ other listed
      cases listed
  | none =>
    dsimp only
    rw [connectTransport_eq]
    cases made : attempt casefold builtins options wire with
    | ok transport =>
      refine ⟨[wire], process.poll, rfl, DebuggerProcess.poll_signals, ?_, ?_⟩
      · intro other holding ran
        cases ran
        exact ⟨[], wire, rfl, made, by simp⟩
      · intro failure holding ran
        cases ran
    | error failure =>
      have failing : ¬(attempt casefold builtins options wire).isOk := by
        rw [made]
        exact Bool.false_ne_true
      dsimp only [lifted]
      split
      case isTrue again' =>
        obtain ⟨wires, later, tried⟩ := goesOn failure (afterAttempts casefold options { resources with process := some process.poll } [wire])
          process.poll rfl DebuggerProcess.poll_signals
        refine ⟨[wire] ++ wires, later, ?_, tried.signals.trans DebuggerProcess.poll_signals, ?_, ?_⟩
        · rw [tried.final, afterAttempts_append]
          rfl
        · intro transport holding ran
          exact (tried.connects transport holding ran).cons made again'
        · intro other holding ran another listed
          rcases List.mem_cons.mp listed with rfl | listed
          · exact failing
          · exact tried.failed other holding ran another listed
      case isFalse =>
        refine ⟨[wire], process.poll, rfl, DebuggerProcess.poll_signals, ?_, ?_⟩
        · intro transport holding ran
          cases ran
        · intro other holding _ another listed
          rw [List.mem_singleton.mp listed]
          exact failing

/-- Where the loop gives up, all that it has tried so far has failed. -/
theorem tried_gaveUp {failure : SessionFailure} (held : resources.process = some process) :
    Tried casefold builtins options resources process ((throw failure : ConnectM Transport) resources) [] process := by
  refine ⟨?_, rfl, ?_, ?_⟩
  · show resources = _
    simp [afterAttempts, ← held]
  · intro transport holding ran
    cases ran
  · intro other holding _ another listed
    cases listed

theorem connectWithRetry_tried (later : List (Rat × Wire)) (held : resources.process = some process) : ∃ wires seen,
    Tried casefold builtins options resources process (connectWithRetry casefold builtins host options later wire resources) wires seen := by
  induction later generalizing wire resources process with
  | nil =>
    refine connectTurn_tried held fun failure next seen holds same => ?_
    exact ⟨[], seen, tried_gaveUp holds⟩
  | cons further later ih =>
    refine connectTurn_tried held fun failure next seen holds same => ?_
    by_cases late : options.connectRetrySeconds ≤ further.1
    · rw [if_pos late]
      exact ⟨[], seen, tried_gaveUp holds⟩
    · rw [if_neg late]
      obtain ⟨wires, last, tried⟩ := ih holds
      exact ⟨wires, last, tried⟩

/-- How the constructor ends: it has made some attempts and holds some process. It is connected through the last attempt, or all
of them failed and the process is given up. -/
structure Starts (casefold : String → String) (builtins : Builtins) (options : SessionOptions)
    (ran : EStateM.Result SessionFailure SessionResources RuntimeSession) (wires : List Wire) (held : Option DebuggerProcess) : Prop where
  connected : ∀ session holding, ran = .ok session holding →
    holding = { afterAttempts casefold options ⟨none, [], 0, []⟩ wires with process := held } ∧
      ∃ transport, session = ⟨options.sessionId, transport, true, [], 0⟩ ∧ Connects casefold builtins options wires transport
  failed : ∀ failure holding, ran = .error failure holding →
    holding = SessionResources.cleanupProcess { afterAttempts casefold options ⟨none, [], 0, []⟩ wires with process := held } ∧
      ∀ wire ∈ wires, ¬(attempt casefold builtins options wire).isOk

theorem start_attached {first : Wire} {later : List (Rat × Wire)} (attached : options.launch = none) :
    Starts casefold builtins options (start casefold builtins host options first later ⟨none, [], 0, []⟩) [first] none := by
  have made : connectTo? casefold builtins host options first later ⟨none, [], 0, []⟩ =
      lifted ((attempt casefold builtins options first).mapError .runtime) (afterAttempts casefold options ⟨none, [], 0, []⟩ [first]) := by
    rw [connectTo?, attached]
    dsimp only
    rw [connectTransport_eq]
    cases attempt casefold builtins options first <;> rfl
  rw [start, made]
  cases outcome : attempt casefold builtins options first with
  | ok transport =>
    refine ⟨fun session holding ran => ?_, fun failure holding ran => ?_⟩
    · cases ran
      exact ⟨rfl, transport, rfl, [], first, rfl, outcome, by simp⟩
    · cases ran
  | error failure =>
    refine ⟨fun session holding ran => ?_, fun other holding ran => ?_⟩
    · cases ran
    · cases ran
      refine ⟨rfl, fun wire listed => ?_⟩
      rw [List.mem_singleton.mp listed, outcome]
      exact Bool.false_ne_true

theorem start_launched {first : Wire} {later : List (Rat × Wire)} {launch : LaunchSpec} (launches : options.launch = some launch)
    (launched : launchProcess host launch = .ok process) : ∃ wires seen, seen.signals = process.signals ∧
      Starts casefold builtins options (start casefold builtins host options first later ⟨none, [], 0, []⟩) wires (some seen) := by
  obtain ⟨wires, seen, tried⟩ : ∃ wires seen, Tried casefold builtins options ⟨some process, [], 0, []⟩ process
      (connectWithRetry casefold builtins host options later first ⟨some process, [], 0, []⟩) wires seen :=
    connectWithRetry_tried later rfl
  have made : connectTo? casefold builtins host options first later ⟨none, [], 0, []⟩ =
      connectWithRetry casefold builtins host options later first ⟨some process, [], 0, []⟩ := by
    rw [connectTo?, launches]
    dsimp only
    rw [launched]
    rfl
  have final : { afterAttempts casefold options ⟨some process, [], 0, []⟩ wires with process := some seen } =
      { afterAttempts casefold options ⟨none, [], 0, []⟩ wires with process := some seen } := rfl
  refine ⟨wires, seen, tried.signals, ?_⟩
  rw [start, made]
  cases outcome : connectWithRetry casefold builtins host options later first ⟨some process, [], 0, []⟩ with
  | ok transport holding =>
    rw [outcome] at tried
    refine ⟨fun session kept ran => ?_, fun failure kept ran => ?_⟩
    · cases ran
      exact ⟨tried.final.trans final, transport, rfl, tried.connects transport holding rfl⟩
    · cases ran
  | error failure holding =>
    rw [outcome] at tried
    refine ⟨fun session kept ran => ?_, fun other kept ran => ?_⟩
    · cases ran
    · cases ran
      exact ⟨congrArg SessionResources.cleanupProcess (tried.final.trans final), tried.failed failure holding rfl⟩

theorem start_unlaunched {first : Wire} {later : List (Rat × Wire)} {launch : LaunchSpec} {failure : SessionFailure}
    (launches : options.launch = some launch) (unlaunched : launchProcess host launch = .error failure) :
    start casefold builtins host options first later ⟨none, [], 0, []⟩ = .error failure ⟨none, [], 0, []⟩ := by
  have made : connectTo? casefold builtins host options first later ⟨none, [], 0, []⟩ = .error failure ⟨none, [], 0, []⟩ := by
    rw [connectTo?, launches]
    dsimp only
    rw [unlaunched]
    rfl
  rw [start, made]
  rfl

end Connecting

section Calls
variable {builtins : Builtins} {session : RuntimeSession}

/-- Whether the session is connected, and the breakpoints that it takes for installed. -/
def control (session : RuntimeSession) : Bool × List Int := (session.connected, session.installedBreakpoints)

theorem onTransport_control {α : Type} (x : TransportM α) : Maintains (Leaves control) (onTransport x) := by
  intro session
  rw [onTransport, finalState_onPart]
  rfl

theorem requireTransport_control : Maintains (Leaves control) requireTransport := by
  intro session
  unfold requireTransport
  split <;> rfl

theorem nextSequence_control : Maintains (Leaves control) nextSequence := fun _ => rfl

theorem recordWith_control {α : Type} (record : Nat → RuntimeSession → α) : Maintains (Leaves control) (do
    let sequence ← nextSequence
    let session ← get
    pure (record sequence session)) := by
  refine nextSequence_control.bind fun sequence => ?_
  exact Maintains.getState.bind fun session => Maintains.pure _

theorem readRegisters_control : Maintains (Leaves control) (readRegisters builtins) := by
  refine requireTransport_control.bind fun _ => ?_
  refine (onTransport_control _).translating.bind fun registers => ?_
  exact recordWith_control fun sequence session => (⟨session.sessionId, sequence, registers⟩ : RuntimeRegisterSnapshot)

theorem readMemory_control (address : RuntimeAddress) (size maxBytes : Int) :
    Maintains (Leaves control) (readMemory builtins address size maxBytes) := by
  refine requireTransport_control.bind fun _ => ?_
  refine (onTransport_control _).translating.bind fun data => ?_
  exact recordWith_control fun sequence session =>
    (⟨session.sessionId, sequence, address, size, builtins.sha256 data⟩ : RuntimeMemoryObservation)

theorem captureBacktrace_control (maxDepth : Int) : Maintains (Leaves control) (captureBacktrace builtins maxDepth) := by
  refine (onTransport_control _).translating.bind fun frames => ?_
  exact recordWith_control fun sequence session =>
    (⟨session.sessionId, sequence, frames.map RuntimeAddress.runtime⟩ : RuntimeBacktrace)

theorem whenWanted_control {α : Type} {wanted : Bool} {x : SessionM α} (kept : Maintains (Leaves control) x) :
    Maintains (Leaves control) (whenWanted wanted x) := by
  unfold whenWanted
  split
  · exact kept.map
  · exact Maintains.pure none

theorem capture_control (call : BreakpointCall) (hit : Message) : Maintains (Leaves control) (capture builtins call hit) := by
  refine (whenWanted_control readRegisters_control).bind fun registers => ?_
  refine (Maintains.mapM (fun read => readMemory_control _ _ _) _).bind fun memory => ?_
  refine (whenWanted_control (captureBacktrace_control _)).bind fun backtrace => ?_
  exact recordWith_control fun sequence session => (⟨session.sessionId, sequence, call.address, 1, registers, memory, backtrace,
    hitWarnings call.address.value hit⟩ : RuntimeBreakpointObservation)

/-- The breakpoint of a call is listed as soon as it is installed, and nothing else of the control changes. -/
theorem observeInstalled_control (call : BreakpointCall) : control (finalState (observeInstalled builtins call session)) =
    (session.connected, session.installedBreakpoints.insert call.address.value) := by
  have later : Maintains (Leaves control) (do
      let _ ← onTransport Transport.resume
      let resumedAt := (← get).transport.sent.length
      let event ← onTransport (Transport.waitForEvent "cpu.stepping" call.timeout)
      let observation ← capture builtins call event
      pure (⟨observation, resumedAt, event⟩ : TracedObservation)) := by
    refine (onTransport_control _).bind fun _ => Maintains.getState.bind fun _ => (onTransport_control _).bind fun hit => ?_
    exact (capture_control call hit).bind fun _ => Maintains.pure _
  exact later { session with installedBreakpoints := session.installedBreakpoints.insert call.address.value }

theorem removeInstalled_control (address : Int) : control (finalState (removeInstalled builtins address session)) =
    (session.connected, session.installedBreakpoints.erase address) := by
  have removed : control (finalState (onTransport (Transport.removeExecBreakpoint builtins address) session)) = control session :=
    onTransport_control _ session
  have later : Maintains (Leaves control) (suppressing do
      let _ ← onTransport Transport.resume) := ((onTransport_control _).bind fun _ => Maintains.pure _).suppressing
  obtain ⟨connected, installed⟩ := Prod.mk.inj removed
  refine (later { finalState (onTransport (Transport.removeExecBreakpoint builtins address) session) with
    installedBreakpoints := (finalState (onTransport (Transport.removeExecBreakpoint builtins address) session)).installedBreakpoints.erase address }).trans ?_
  rw [control, installed, ← connected]

/-- A first step that leaves the control alone may end the call by raising. -/
theorem bind_control {α β : Type} {x : SessionM α} {f : α → SessionM β} (kept : Maintains (Leaves control) x)
    (rest : ∀ a next, control next = control session → control (finalState (f a next)) = control session) :
    control (finalState ((x >>= f) session)) = control session := by
  have same := kept session
  cases ran : x session with
  | ok a next =>
    rw [ran] at same
    rw [finalState_bind_ok ran]
    exact rest a next same
  | error raised next =>
    rw [ran] at same
    rw [finalState_bind_raised ran]
    exact same

/-- A call that starts with no breakpoint listed ends with none. -/
theorem observeBreakpoint_control (call : BreakpointCall) (idle : session.installedBreakpoints = []) :
    control (finalState (observeBreakpoint builtins call session)) = control session := by
  rw [observeBreakpoint, finalState_map, observeTraced]
  simp only [finalState_guard]
  split
  · rfl
  split
  · rfl
  refine bind_control requireTransport_control fun _ ready same => ?_
  rw [finalState_translating, ← same]
  refine bind_control (onTransport_control _) fun _ added kept => ?_
  obtain ⟨connected, installed⟩ := Prod.mk.inj (kept.trans same)
  have listed : control (finalState (observeInstalled builtins call added)) =
      (added.connected, added.installedBreakpoints.insert call.address.value) := observeInstalled_control call
  obtain ⟨stays, breakpoint⟩ := Prod.mk.inj listed
  rw [finalState_finallyDo, removeInstalled_control, stays, breakpoint, same, control, connected, installed, idle]
  simp

theorem close_idle (connected : session.connected = true) (idle : session.installedBreakpoints = []) :
    finalState (close builtins session) = { session with connected := false } := by
  obtain ⟨sessionId, transport, _, _, sequence⟩ := session
  cases connected
  cases idle
  rfl

theorem requireTransport_closed (closed : session.connected = false) :
    requireTransport session = .error (.capture "runtime session is not connected") session := by
  rw [requireTransport, closed]
  rfl

end Calls

end RuntimeSession

theorem SessionResources.cleanupProcess_none (resources : SessionResources) : resources.cleanupProcess.process = none := by
  unfold cleanupProcess
  split
  · assumption
  · rfl

theorem SessionResources.cleanupProcess_idle {resources : SessionResources} (idle : resources.process = none) :
    resources.cleanupProcess = resources := by
  rw [cleanupProcess, idle]

theorem launchProcess_signals {host : LaunchHost} {launch : LaunchSpec} {process : DebuggerProcess}
    (launched : launchProcess host launch = .ok process) : process.signals = [] := by
  obtain ⟨_, _, started⟩ := bind_ok.mp launched
  split at started
  · cases started
    rfl
  · cases started

theorem DebuggerProcess.terminateProcess_gone {process : DebuggerProcess} (quiet : process.signals = []) :
    process.terminateProcess.Gone := by
  obtain ⟨sent, listed, signals, ended⟩ := process.terminateProcess_stopped.signals
  rw [quiet, List.nil_append] at signals
  refine ⟨?_, signals ▸ ended⟩
  rw [signals]
  simp only [List.mem_cons, List.not_mem_nil, or_false] at listed
  rcases listed with rfl | rfl | rfl <;> simp

namespace HostedSession
variable {builtins : Builtins} {hosted next : HostedSession} {holding : SessionResources}

/-- What `close` leaves of the resources of a connected session. -/
def settled (holding : SessionResources) : SessionResources :=
  SessionResources.cleanupProcess { holding with openSockets := holding.openSockets - 1 }

/-- Between two calls: no breakpoint is listed, and the session has all that it was given, or has released it. -/
structure Orderly (holding : SessionResources) (hosted : HostedSession) : Prop where
  idle : hosted.session.installedBreakpoints = []
  held : hosted.resources = if hosted.session.connected then holding else settled holding

theorem Orderly.of_control {session : RuntimeSession} (orderly : Orderly holding hosted)
    (same : RuntimeSession.control session = RuntimeSession.control hosted.session) :
    Orderly holding { hosted with session := session } := by
  obtain ⟨connected, installed⟩ := Prod.mk.inj same
  exact ⟨installed.trans orderly.idle, by rw [connected]; exact orderly.held⟩

theorem close_open (connected : hosted.session.connected = true) :
    hosted.close builtins = ⟨finalState (RuntimeSession.close builtins hosted.session), settled hosted.resources⟩ := by
  rw [HostedSession.close, if_pos connected]
  rfl

theorem close_again (closed : hosted.session.connected = false) :
    hosted.close builtins = { hosted with resources := hosted.resources.cleanupProcess } := by
  rw [HostedSession.close, if_neg (by simp [closed])]

theorem Orderly.close (orderly : Orderly holding hosted) :
    hosted.close builtins = ⟨{ hosted.session with connected := false }, settled holding⟩ := by
  have held := orderly.held
  by_cases connected : hosted.session.connected = true
  · rw [if_pos connected] at held
    rw [close_open connected, RuntimeSession.close_idle connected orderly.idle, held]
  · rw [if_neg connected] at held
    have closed := Bool.eq_false_iff.mpr connected
    rw [close_again closed, held, settled, SessionResources.cleanupProcess_idle (SessionResources.cleanupProcess_none _), ← closed]

theorem Orderly.after (orderly : Orderly holding hosted) (call : SessionCall) : Orderly holding (hosted.after builtins call) := by
  cases call with
  | readRegisters => exact orderly.of_control (RuntimeSession.readRegisters_control _)
  | readMemory address size maxBytes => exact orderly.of_control (RuntimeSession.readMemory_control _ _ _ _)
  | observeBreakpoint call => exact orderly.of_control (RuntimeSession.observeBreakpoint_control call orderly.idle)
  | probe event params =>
    refine orderly.of_control ?_
    exact (RuntimeSession.requireTransport_control.bind fun _ => RuntimeSession.onTransport_control _) _
  | close =>
    rw [HostedSession.after, orderly.close]
    exact ⟨orderly.idle, rfl⟩

theorem Orderly.called (orderly : Orderly holding hosted) (called : Called builtins hosted next) : Orderly holding next := by
  induction called with
  | refl => exact orderly
  | tail _ step ih =>
    obtain ⟨call, rfl⟩ := step
    exact ih.after call

/-- On a closed session a call raises, or does nothing. -/
theorem after_closed (closed : hosted.session.connected = false) (released : hosted.resources.process = none) (call : SessionCall) :
    hosted.after builtins call = hosted := by
  have refused := RuntimeSession.requireTransport_closed closed
  cases call with
  | readRegisters => rw [HostedSession.after, RuntimeSession.readRegisters, finalState_bind_raised refused]
  | readMemory address size maxBytes => rw [HostedSession.after, RuntimeSession.readMemory, finalState_bind_raised refused]
  | observeBreakpoint call =>
    rw [HostedSession.after, RuntimeSession.observeBreakpoint, finalState_map, RuntimeSession.observeTraced]
    simp only [finalState_guard, finalState_bind_raised refused, ite_self]
  | probe event params => rw [HostedSession.after, finalState_bind_raised refused]
  | close =>
    rw [HostedSession.after, close_again closed, SessionResources.cleanupProcess_idle released]

end HostedSession

section Release
variable {α : Type} {casefold : String → String} {builtins : Builtins} {host : LaunchHost} {options : SessionOptions}
variable {first : Wire} {later : List (Rat × Wire)} {body : EStateM RuntimeFailure HostedSession α} {wires : List Wire}
variable {held : Option DebuggerProcess}

open RuntimeSession

/-- The body only calls the session. -/
def Uses (builtins : Builtins) (body : EStateM RuntimeFailure HostedSession α) : Prop :=
  ∀ hosted, HostedSession.Called builtins hosted (finalState (body hosted))

/-- What a `with` statement ends with, however its body ends. -/
structure SessionReleased (casefold : String → String) (builtins : Builtins) (host : LaunchHost) (options : SessionOptions)
    (body : EStateM RuntimeFailure HostedSession α) (run : SessionRun α) : Prop where
  process : run.resources.process = none
  sockets : run.resources.openSockets = (abandoned casefold builtins options run.resources.attempts).length
  attached : options.launch = none → run.resources.released = []
  unlaunched : ∀ launch failure, options.launch = some launch → launchProcess host launch = .error failure →
    run.outcome = .error failure ∧ run.resources.released = [] ∧ run.resources.attempts = []
  launched : ∀ launch process, options.launch = some launch → launchProcess host launch = .ok process →
    ∃ gone, run.resources.released = [gone] ∧ gone.Gone
  unopened : run.session = none → (∃ failure, run.outcome = .error failure) ∧
    ∀ wire ∈ run.resources.attempts, ¬(attempt casefold builtins options wire).isOk
  closed : ∀ session, run.session = some session → session.connected = false ∧ session.installedBreakpoints = [] ∧
    (∀ call, HostedSession.after builtins ⟨session, run.resources⟩ call = ⟨session, run.resources⟩) ∧
    ∃ transport holding, Connects casefold builtins options run.resources.attempts transport ∧
      run.outcome = (outcome (body ⟨⟨options.sessionId, transport, true, [], 0⟩, holding⟩)).mapError .runtime

theorem withSession_opened {transport : Transport} {holding : SessionResources} (uses : Uses builtins body)
    (started : start casefold builtins host options first later ⟨none, [], 0, []⟩ =
      .ok ⟨options.sessionId, transport, true, [], 0⟩ holding) : ∃ session, session.connected = false ∧ session.installedBreakpoints = [] ∧
    withSession casefold builtins host options first later body =
      ⟨(outcome (body ⟨⟨options.sessionId, transport, true, [], 0⟩, holding⟩)).mapError .runtime,
        HostedSession.settled holding, some session⟩ := by
  have opened : HostedSession.Orderly holding ⟨⟨options.sessionId, transport, true, [], 0⟩, holding⟩ := ⟨rfl, rfl⟩
  have ended := opened.called (uses _)
  refine ⟨{ (finalState (body ⟨⟨options.sessionId, transport, true, [], 0⟩, holding⟩)).session with connected := false }, rfl, ended.idle, ?_⟩
  rw [withSession, started]
  dsimp only
  rw [ended.close]

/-- What is left is the process, given up, and the sockets of the abandoned attempts. -/
theorem withSession_resources (uses : Uses builtins body)
    (starts : Starts casefold builtins options (start casefold builtins host options first later ⟨none, [], 0, []⟩) wires held) :
    (withSession casefold builtins host options first later body).resources =
      SessionResources.cleanupProcess ⟨held, [], (abandoned casefold builtins options wires).length, wires⟩ := by
  cases started : start casefold builtins host options first later ⟨none, [], 0, []⟩ with
  | ok session holding =>
    obtain ⟨kept, transport, rfl, connects⟩ := starts.connected session holding started
    obtain ⟨_, _, _, ran⟩ := withSession_opened uses started
    rw [ran, kept]
    simp [HostedSession.settled, afterAttempts, connects.sockets]
  | error failure holding =>
    obtain ⟨kept, failed⟩ := starts.failed failure holding started
    rw [withSession, started, abandoned_of_failed failed]
    simp [kept, afterAttempts]

theorem cleanupProcess_attempts {resources : SessionResources} : resources.cleanupProcess.attempts = resources.attempts ∧
    resources.cleanupProcess.openSockets = resources.openSockets := by
  unfold SessionResources.cleanupProcess
  split <;> exact ⟨rfl, rfl⟩

/-- What is the same in every mode once the constructor has got to its attempts. -/
theorem released_of_starts (uses : Uses builtins body)
    (starts : Starts casefold builtins options (start casefold builtins host options first later ⟨none, [], 0, []⟩) wires held)
    (attached : options.launch = none → held = none)
    (launched : ∀ launch, options.launch = some launch → ∃ process seen, launchProcess host launch = .ok process ∧
      held = some seen ∧ seen.signals = []) :
    SessionReleased casefold builtins host options body (withSession casefold builtins host options first later body) := by
  have left := withSession_resources uses starts
  have made : (withSession casefold builtins host options first later body).resources.attempts = wires := by
    rw [left]
    exact cleanupProcess_attempts.1
  refine ⟨?_, ?_, fun none => ?_, fun launch failure launches unlaunched => ?_, fun launch process launches ran => ?_, fun unopened => ?_,
    fun session opened => ?_⟩
  · rw [left]
    exact SessionResources.cleanupProcess_none _
  · rw [made, left]
    exact cleanupProcess_attempts.2
  · rw [left, attached none]
    rfl
  · obtain ⟨_, _, ran, _⟩ := launched launch launches
    rw [ran] at unlaunched
    cases unlaunched
  · obtain ⟨_, seen, _, held, quiet⟩ := launched launch launches
    rw [left, held]
    exact ⟨seen.terminateProcess, rfl, DebuggerProcess.terminateProcess_gone quiet⟩
  · cases started : start casefold builtins host options first later ⟨none, [], 0, []⟩ with
    | ok session holding =>
      obtain ⟨_, transport, rfl, _⟩ := starts.connected session holding started
      obtain ⟨_, _, _, ran⟩ := withSession_opened uses started
      rw [ran] at unopened
      cases unopened
    | error failure holding =>
      rw [made]
      refine ⟨⟨failure, ?_⟩, (starts.failed failure holding started).2⟩
      rw [withSession, started]
  · cases started : start casefold builtins host options first later ⟨none, [], 0, []⟩ with
    | ok begun holding =>
      obtain ⟨_, transport, rfl, connects⟩ := starts.connected begun holding started
      obtain ⟨last, closed, idle, ran⟩ := withSession_opened uses started
      rw [ran] at opened
      cases opened
      refine ⟨closed, idle, fun call => HostedSession.after_closed closed ?_ call, transport, holding, made ▸ connects, by rw [ran]⟩
      rw [left]
      exact SessionResources.cleanupProcess_none _
    | error failure holding =>
      rw [withSession, started] at opened
      cases opened

/-- Whatever the debugger, the network and the process do, and however the body ends, a `with RuntimeSession(...)` statement gives
back what it took. The process that it launched has ended or was killed, and in connect mode it touches none. The only sockets left
open are those of the attempts that failed behind their handshake. No breakpoint is listed as installed, a call after the statement
does nothing, and what the body returns or raises is what the statement does. -/
theorem withSession_released {α : Type} (casefold : String → String) (builtins : Builtins) (host : LaunchHost) (options : SessionOptions)
    (first : Wire) (later : List (Rat × Wire)) (body : EStateM RuntimeFailure HostedSession α) (uses : Uses builtins body) :
    SessionReleased casefold builtins host options body (withSession casefold builtins host options first later body) := by
  cases mode : options.launch with
  | none =>
    refine released_of_starts uses (start_attached mode) (fun _ => rfl) fun launch launches => ?_
    rw [mode] at launches
    cases launches
  | some launch =>
    cases launching : launchProcess host launch with
    | ok process =>
      obtain ⟨wires, seen, signals, starts⟩ : ∃ wires seen, seen.signals = process.signals ∧ Starts casefold builtins options
        (start casefold builtins host options first later ⟨none, [], 0, []⟩) wires (some seen) := start_launched mode launching
      refine released_of_starts uses starts (fun none => ?_) fun other launches => ?_
      · rw [mode] at none
        cases none
      · cases mode.symm.trans launches
        exact ⟨process, seen, launching, rfl, signals.trans (launchProcess_signals launching)⟩
    | error failure =>
      have ran : withSession casefold builtins host options first later body = ⟨.error failure, ⟨none, [], 0, []⟩, none⟩ := by
        rw [withSession, start_unlaunched mode launching]
      rw [ran]
      refine ⟨rfl, rfl, fun _ => rfl, fun other raised launches unlaunched => ?_, fun other process launches launched => ?_,
        fun _ => ⟨⟨failure, rfl⟩, by simp⟩, fun session opened => ?_⟩
      · cases mode.symm.trans launches
        cases launching.symm.trans unlaunched
        exact ⟨rfl, rfl, rfl⟩
      · cases mode.symm.trans launches
        cases launching.symm.trans launched
      · cases opened

end Release

section Samples
open RuntimeSession

/-- PPSSPP starts, and is never seen to end. -/
def willingHost : LaunchHost := ⟨fun _ => true, fun _ _ => .ok [], fun _ => "10.0"⟩

def launchOptions : SessionOptions := ⟨"s1", "127.0.0.1", 40000, some ⟨"PPSSPPSDL", [], none⟩, 10, 5, 5⟩

/-- The port is closed. -/
def refusingWire : Wire := ⟨.error (.connection "unable to connect to PPSSPP debugger: connection refused"), [], []⟩

/-- The handshake succeeds, and the first request gets no answer. -/
def muteWire : Wire := ⟨.ok (), [], []⟩

/-- A body that observes a breakpoint and then fails by itself. -/
def failingBody : EStateM RuntimeFailure HostedSession Unit := fun hosted =>
  .error (.other "KeyError") (hosted.after noBuiltins (.observeBreakpoint plainCall))

/-- The third attempt connects. The socket of the second one stays open, and the process is killed in the end. -/
theorem failingBody_released :
    let run := withSession id noBuiltins willingHost launchOptions refusingWire [(1, muteWire), (6, answeringWire promptTurns)] failingBody
    SessionReleased id noBuiltins willingHost launchOptions failingBody run ∧ run.resources.openSockets = 1 ∧
      run.resources.released.map (·.signals) = [[.terminate, .kill]] ∧ run.outcome = .error (.runtime (.other "KeyError")) := by
  refine ⟨withSession_released id noBuiltins willingHost launchOptions _ _ failingBody ?_, ?_⟩
  · intro hosted
    exact Relation.ReflTransGen.single ⟨.observeBreakpoint plainCall, rfl⟩
  · decide +kernel

end Samples

end PspDisasm
