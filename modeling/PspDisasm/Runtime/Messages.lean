import PspDisasm.PythonText
import PspDisasm.Foundations.Dict
import Mathlib.Data.Rat.Defs

namespace PspDisasm
open Foundations

/-- The exceptions of the runtime layer, each with its text. Every other
exception that Python can raise is `other`; no handler of this layer names it. -/
inductive RuntimeFailure
  | connection (message : String)
  | protocol (message : String)
  | timeout (message : String)
  | capture (message : String)
  | other (kind : String)
deriving DecidableEq, Repr

def RuntimeFailure.message : RuntimeFailure → String
  | .connection message => message
  | .protocol message => message
  | .timeout message => message
  | .capture message => message
  | .other kind => kind

/-- A value that `json.loads` returns. A float without a value is a NaN or an infinity. -/
inductive Json
  | null
  | bool (value : Bool)
  | int (value : Int)
  | float (value : Option Rat)
  | str (value : String)
  | arr (items : List Json)
  | obj (fields : List (String × Json))

namespace Json

/-- `isinstance(value, int)` and the number, where a boolean counts as 0 or 1. -/
def int? : Json → Option Int
  | .int n => some n
  | .bool b => some (if b then 1 else 0)
  | _ => none

/-- `value == n` for an integer `n`: Python compares numbers of all types. -/
def equalsInt (n : Int) : Json → Bool
  | .int m => m = n
  | .bool b => (if b then 1 else 0) = n
  | .float (some q) => q = n
  | _ => false

def equalsStr (text : String) : Json → Bool
  | .str other => other = text
  | _ => false

/-- `value.get(key)` for a JSON object, where an absent member is `None` as a null one is. -/
def getField (fields : Dict String Json) (key : String) : Json := (fields.get? key).getD .null

end Json

/-- What one call of `_receive_frame` ends with. The payload of a text frame
(opcode 1) is given as `json.loads` decodes it, or with the text of its decode error. -/
inductive Received
  | text (decoded : Except String Json)
  | control (opcode : Nat)
  | failed (failure : RuntimeFailure)

/-- Something that the client can read from its socket, and how many requests
the client had sent when it arrived there. -/
structure Arrival where
  after : Nat
  received : Received

/-- A decoded debugger message, with the arrival time of its frame. -/
structure Message where
  after : Nat
  fields : Dict String Json

namespace Message

def get (message : Message) (key : String) : Json := Json.getField message.fields key

def event (message : Message) : Json := message.get "event"

def ticket (message : Message) : Json := message.get "ticket"

/-- The name of a message that is queued as an event: it has a text for a name and no ticket. -/
def unsolicited? (message : Message) : Option String :=
  match message.event, message.ticket with
  | .str name, .null => some name
  | _, _ => none

end Message

/-- One attempt of the client to send a request. -/
structure Sent where
  event : String
  ticket : Nat
  params : Dict String Json
  delivered : Bool

/-- The part of the debugger and the network in one request: whether the
request can be sent, and what arrives between this request and the next one. -/
structure Turn where
  sendError : Option String
  arrivals : List Received

def Turn.quiet : Turn := ⟨none, []⟩

end PspDisasm
