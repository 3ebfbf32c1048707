import PspDisasm.Foundations.Effects
import PspDisasm.Foundations.Raising
import PspDisasm.Runtime.Messages
import Mathlib.Logic.Function.Basic

namespace PspDisasm
open Foundations

def loopbackHosts : List String := ["127.0.0.1", "::1", "localhost"]

def defaultConnectTimeout : Rat := 5

def defaultRequestTimeout : Rat := 5

def defaultMaxFrameBytes : Int := 4 * 1024 * 1024

def defaultMaxQueuedEvents : Int := 256

/-- Three functions of Python's library that the runtime layer only passes values through:
`str` of a decoded value, `base64.b64decode` with validation, and the SHA-256 digest in hexadecimal. -/
structure Builtins where
  strOf : Json → String
  b64decode : String → Option Bytes
  sha256 : Bytes → String

/-- A connected transport. Its clock is the number of requests sent so far;
`unread` is what has arrived since and was not read, and `turns` is what the
debugger and the network will do. -/
structure Transport where
  maxQueuedEvents : Nat
  bounded : 0 < maxQueuedEvents
  nextTicket : Nat
  queuedEvents : String → List Message
  sent : List Sent
  unread : List Arrival
  turns : List Turn

abbrev TransportM := EStateM RuntimeFailure Transport

namespace Transport

def turn (t : Transport) : Turn := t.turns.headD .quiet

/-- What arrives after the next request, stamped with the number of requests sent by then. -/
def nextArrivals (t : Transport) : List Arrival := t.turn.arrivals.map (Arrival.mk (t.sent.length + 1))

/-- `_send_json` with the ticket of `_new_ticket`. -/
def send (event : String) (params : Dict String Json) : TransportM Nat := fun t =>
  let ticket := t.nextTicket
  let after := { t with
    nextTicket := ticket + 1
    sent := t.sent ++ [⟨event, ticket, params, t.turn.sendError.isNone⟩]
    unread := t.unread ++ t.nextArrivals
    turns := t.turns.tail }
  match t.turn.sendError with
  | none => .ok ticket after
  | some text => .error (.connection ("PPSSPP debugger send failed: " ++ text)) after

/-- `deque(maxlen=n).append`: when the queue is full its oldest item is dropped. -/
def appendBounded {α : Type} (limit : Nat) (queue : List α) (item : α) : List α :=
  (queue ++ [item]).drop (queue.length + 1 - limit)

def enqueue (t : Transport) (message : Message) : Transport :=
  match message.unsolicited? with
  | some name => { t with
      queuedEvents := Function.update t.queuedEvents name
        (appendBounded t.maxQueuedEvents (t.queuedEvents name) message) }
  | none => t

/-- What `_receive_json` makes of one frame: a message, an exception, or nothing, and it reads on. -/
def readFrame (arrival : Arrival) : Except RuntimeFailure (Option Message) :=
  match arrival.received with
  | .failed failure => .error failure
  | .control opcode =>
    if opcode = 0x8 then .error (.connection "PPSSPP debugger connection closed") else .ok none
  | .text (.error text) => .error (.protocol ("invalid JSON from PPSSPP debugger: " ++ text))
  | .text (.ok (.obj fields)) => .ok (some ⟨arrival.after, fields⟩)
  | .text (.ok _) => .error (.protocol "PPSSPP debugger JSON response must be an object")

/-- The receive loop of `request` and of `wait_for_event`: messages are read
until one is accepted, and the unsolicited ones before it are queued. When
nothing is left that has arrived, the socket times out. -/
def receiveFrom (accept : Message → Bool) : List Arrival → TransportM Message
  | [], t => .error (.timeout "PPSSPP debugger receive timed out") { t with unread := [] }
  | arrival :: rest, t =>
    match readFrame arrival with
    | .error failure => .error failure { t with unread := rest }
    | .ok none => receiveFrom accept rest t
    | .ok (some message) =>
      if accept message then .ok message { t with unread := rest }
      else receiveFrom accept rest (t.enqueue message)

def receiveUntil (accept : Message → Bool) : TransportM Message := fun t => receiveFrom accept t.unread t

def answers (ticket : Nat) (message : Message) : Bool := message.ticket.equalsInt ticket

def isError (message : Message) : Bool := message.event.equalsStr "error"

variable (builtins : Builtins)

/-- The exception for an `error` reply. -/
def debuggerError (response : Message) : RuntimeFailure :=
  let text :=
    match response.fields.get? "message" with
    | some message => builtins.strOf message
    | none => "unknown debugger error"
  .protocol ("PPSSPP debugger error: " ++ text)

def request (event : String) (params : Dict String Json) : TransportM Message := do
  let ticket ← send event params
  let response ← receiveUntil (answers ticket)
  lifted (raiseIf (isError response = true) (debuggerError builtins response))
  pure response

structure DebuggerEvent where
  event : String
  payload : Message
  ticket : Nat

/-- The failures that `try_request` answers with `None`. -/
def expected : RuntimeFailure → Bool
  | .timeout _ | .connection _ | .protocol _ => true
  | _ => false

/-- `request` for a probe: an error reply and a failure to receive give `None`. -/
def tryRequest (event : String) (params : Dict String Json) : TransportM (Option DebuggerEvent) := do
  let ticket ← send event params
  fun t =>
    match receiveUntil (answers ticket) t with
    | .ok response t =>
      if isError response = true then .ok none t
      else .ok (some ⟨builtins.strOf response.event, response, ticket⟩) t
    | .error failure t => if expected failure then .ok none t else .error failure t

/-- An event that an earlier request queued is returned at once. -/
def takeQueued (event : String) : TransportM (Option Message) := fun t =>
  match t.queuedEvents event with
  | message :: rest => .ok (some message) { t with queuedEvents := Function.update t.queuedEvents event rest }
  | [] => .ok none t

def waitForEvent (event : String) (timeout : Rat) : TransportM Message := do
  lifted (raiseIf (timeout ≤ 0) (.timeout "event wait timeout must be positive"))
  match ← takeQueued event with
  | some message => pure message
  | none => receiveUntil fun message => message.event.equalsStr event

def registerEntry (entry : Json × Json) : Except RuntimeFailure (String × Int) :=
  match entry.1, entry.2.int? with
  | .str name, some value => .ok (name, value)
  | _, _ => .error (.protocol "invalid cpu.getAllRegs register value")

def categoryRegisters (category : Json) : Except RuntimeFailure (List (String × Int)) :=
  match category with
  | .obj fields =>
    match Json.getField fields "registerNames", Json.getField fields "uintValues" with
    | .arr names, .arr values => do
      raiseIf (names.length ≠ values.length) (.protocol "cpu.getAllRegs register arrays differ in length")
      (names.zip values).mapM registerEntry
    | _, _ => .error (.protocol "invalid cpu.getAllRegs register arrays")
  | _ => .error (.protocol "invalid cpu.getAllRegs category")

def parseRegisters (response : Message) : Except RuntimeFailure (Dict String Int) :=
  match response.get "categories" with
  | .arr categories => do
    let entries ← categories.mapM categoryRegisters
    pure (entries.flatten.foldl (fun registers entry => Dict.set registers entry.1 entry.2) [])
  | _ => .error (.protocol "cpu.getAllRegs response is missing categories")

def getRegisters : TransportM (Dict String Int) := do
  let response ← request builtins "cpu.getAllRegs" []
  lifted (parseRegisters response)

def decodeMemory (size : Int) (response : Message) : Except RuntimeFailure Bytes :=
  match response.get "base64" with
  | .str encoded =>
    match builtins.b64decode encoded with
    | some data => do
      raiseIf ((data.length : Int) ≠ size) (.protocol ("memory.read size mismatch: expected " ++ toString size ++
        ", observed " ++ toString data.length))
      pure data
    | none => .error (.protocol "memory.read returned invalid base64")
  | _ => .error (.protocol "memory.read response is missing base64")

def readMemory (address size maxBytes : Int) : TransportM Bytes := do
  lifted (raiseIf (address < 0 ∨ size ≤ 0)
    (.protocol "memory read requires a non-negative address and positive size"))
  lifted (raiseIf (maxBytes < size) (.protocol ("memory read of " ++ toString size ++
    " bytes exceeds the maximum of " ++ toString maxBytes ++ " bytes")))
  let response ← request builtins "memory.read" [("address", .int address), ("size", .int size)]
  lifted (decodeMemory builtins size response)

def addExecBreakpoint (address : Int) : TransportM Unit := do
  let _ ← request builtins "cpu.breakpoint.add" [("address", .int address), ("enabled", .bool true), ("log", .bool false)]

def removeExecBreakpoint (address : Int) : TransportM Unit := do
  let _ ← request builtins "cpu.breakpoint.remove" [("address", .int address)]

def resume : TransportM Nat := send "cpu.resume" []

/-- `items[:depth]`, where a negative depth counts from the end. -/
def sliceTo {α : Type} (items : List α) (depth : Int) : List α :=
  if 0 ≤ depth then items.take depth.toNat else items.take (items.length + depth).toNat

def framePc (frame : Json) : Except RuntimeFailure Int :=
  match frame with
  | .obj fields =>
    match (Json.getField fields "pc").int? with
    | some pc => .ok pc
    | none => .error (.protocol "hle.backtrace frame is missing pc")
  | _ => .error (.protocol "hle.backtrace frame is missing pc")

def parseBacktrace (maxDepth : Int) (response : Message) : Except RuntimeFailure (List Int) :=
  match response.get "frames" with
  | .arr frames => (sliceTo frames maxDepth).mapM framePc
  | _ => .error (.protocol "hle.backtrace response is missing frames")

def backtrace (maxDepth : Int) : TransportM (List Int) := do
  let response ← request builtins "hle.backtrace" []
  lifted (parseBacktrace maxDepth response)

end Transport

/-- The arguments of the constructor of the transport. -/
structure TransportOptions where
  host : String
  port : Int
  connectTimeout : Rat
  requestTimeout : Rat
  maxFrameBytes : Int
  maxQueuedEvents : Int

/-- Everything outside the client: how opening the socket and the handshake
end, what arrives before the first request, and the turns that follow. -/
structure Wire where
  handshake : Except RuntimeFailure Unit
  early : List Received
  turns : List Turn

/-- The transport after the handshake, before its first request. -/
def Transport.opened (maxQueuedEvents : Nat) (bounded : 0 < maxQueuedEvents) (wire : Wire) : Transport where
  maxQueuedEvents := maxQueuedEvents
  bounded := bounded
  nextTicket := 1
  queuedEvents := fun _ => []
  sent := []
  unread := wire.early.map (Arrival.mk 0)
  turns := wire.turns

def Transport.bootstrap (builtins : Builtins) : TransportM Unit := do
  let _ ← request builtins "version" [("name", .str "pspdisasm"), ("version", .str "1.0")]
  let _ ← request builtins "client.config.set" [("acknowledgeDeferred", .bool true)]

/-- The constructor of `PpssppDebuggerTransport`. -/
def Transport.connect (casefold : String → String) (builtins : Builtins) (options : TransportOptions) (wire : Wire) :
    Except RuntimeFailure Transport := do
  raiseIf (casefold options.host ∉ loopbackHosts) (.connection "PPSSPP debugger host must be loopback-only")
  raiseIf (¬(1 ≤ options.port ∧ options.port ≤ 65535))
    (.connection "PPSSPP debugger port must be between 1 and 65535")
  raiseIf (options.connectTimeout ≤ 0 ∨ options.requestTimeout ≤ 0)
    (.connection "PPSSPP debugger timeouts must be positive")
  if bounds : 0 < options.maxFrameBytes ∧ 0 < options.maxQueuedEvents then
    wire.handshake
    match bootstrap builtins (opened options.maxQueuedEvents.toNat (Int.pos_iff_toNat_pos.mp bounds.2) wire) with
    | .ok _ connected => .ok connected
    | .error failure _ => .error failure
  else .error (.connection "PPSSPP debugger bounds must be positive")

end PspDisasm
