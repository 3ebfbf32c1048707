import PspDisasm.Decompile.State

namespace PspDisasm
open Foundations

/-- What the built-in types of Python know about texts: `str(value)` of a value that is not a text, the number
that `int` reads, if it reads one, and `repr`. -/
structure ValueTexts where
  strOf : Json → String
  parseInt : String → Option Int
  reprText : String → String

namespace Json

def typeName : Json → String
  | .null => "NoneType"
  | .bool _ => "bool"
  | .int _ => "int"
  | .float _ => "float"
  | .str _ => "str"
  | .arr _ => "list"
  | .obj _ => "dict"

/-- The items that a loop over the value meets, which are also those of `list(value)`. -/
def iterate : Json → Except DecompileFailure (List Json)
  | .arr items => .ok items
  | .str text => .ok (text.toList.map fun c => .str (String.singleton c))
  | .obj fields => .ok (fields.map fun item => .str item.1)
  | value => .error (.other s!"TypeError: '{typeName value}' object is not iterable")

def hashable : Json → Bool
  | .arr _ => false
  | .obj _ => false
  | _ => true

/-- The number that a value counts as where Python compares numbers of all types. -/
def number? : Json → Option Rat
  | .bool value => some (if value then 1 else 0)
  | .int value => some value
  | .float value => value
  | _ => none

/-- Two values that are the same key of a dictionary. -/
def sameKey : Json → Json → Bool
  | .null, .null => true
  | .str text, .str other => text = other
  | .float none, .float none => true
  | value, other => value.number?.isSome ∧ value.number? = other.number?

/-- `dict[key] = value`, where an equal key keeps its place and its first form. -/
def setItem : Dict Json Json → Json × Json → Dict Json Json
  | [], item => [item]
  | (key, old) :: items, item =>
    if sameKey key item.1 then (key, item.2) :: items else (key, old) :: setItem items item

/-- An element of the sequence that `dict(value)` reads. -/
def pair (element : Json) : Except DecompileFailure (Json × Json) :=
  match element.iterate with
  | .ok [key, value] =>
    if key.hashable then .ok (key, value) else .error (.other s!"TypeError: unhashable type: '{typeName key}'")
  | .ok items => .error (.valueError s!"dictionary update sequence element has length {items.length}; 2 is required")
  | .error _ => .error (.other "TypeError: cannot convert dictionary update sequence element to a sequence")

/-- A dictionary of texts among those whose keys need not be texts. -/
def textKeys (dict : Dict String Json) : Dict Json Json := dict.map fun item => (.str item.1, item.2)

/-- `dict(value)`. -/
def entries : Json → Except DecompileFailure (Dict Json Json)
  | .obj fields => .ok (textKeys fields)
  | value => do
    let elements ← value.iterate
    let pairs ← elements.mapM pair
    return pairs.foldl setItem []

end Json

namespace ValueTexts
variable (texts : ValueTexts)

/-- `str(value)`. -/
def toText : Json → String
  | .str text => text
  | value => texts.strOf value

/-- `int(value)`. -/
def toInt : Json → Except DecompileFailure Int
  | .int value => .ok value
  | .bool value => .ok (if value then 1 else 0)
  | .float (some value) => .ok (value.num.tdiv value.den)
  | .float none => .error (.other "cannot convert float NaN or infinity to integer")
  | .str text =>
    match texts.parseInt text with
    | some value => .ok value
    | none => .error (.valueError s!"invalid literal for int() with base 10: {texts.reprText text}")
  | value =>
    .error (.other s!"TypeError: int() argument must be a string, a bytes-like object or a real number, not '{value.typeName}'")

end ValueTexts

namespace Fields

/-- `payload[key]`. -/
def member (fields : Fields) (key : String) : Except DecompileFailure Json :=
  match fields.get? key with
  | some value => .ok value
  | none => .error (.keyError key)

/-- `payload.get(key, default)`. -/
def getOr (fields : Fields) (key : String) (default : Json) : Json := (fields.get? key).getD default

end Fields

/-- `except KeyError` around the constructor of a record. -/
def missingMember {α : Type} (record : String) : Except DecompileFailure α → Except DecompileFailure α
  | .error (.keyError key) => .error (.workspaceError s!"{record} is missing '{key}'")
  | result => result

end PspDisasm
