import Mathlib.Data.List.Basic

namespace PspDisasm.Linker

/-- Where the reader of `csv` stands: `afterReturn` is the beginning of a record after a carriage return. -/
inductive CsvMode
  | startRecord
  | startField
  | inField
  | inQuoted
  | quoteInQuoted
  | afterReturn
deriving DecidableEq, Repr

/-- What a character does to the record at hand. -/
inductive CsvAction
  | skip (next : CsvMode)
  | add (next : CsvMode)
  | saveField
  | endRecord
  | emptyRecord
deriving DecidableEq, Repr

def isLineEnd (c : Char) : Bool := c = '\n' || c = '\r'

def fieldAction (c : Char) : CsvAction :=
  if isLineEnd c then .endRecord
  else if c = '"' then .skip .inQuoted
  else if c = ',' then .saveField
  else .add .inField

def recordAction (c : Char) : CsvAction := if isLineEnd c then .emptyRecord else fieldAction c

def csvAction : CsvMode → Char → CsvAction
  | .startRecord, c => recordAction c
  | .afterReturn, c => if c = '\n' then .skip .startRecord else recordAction c
  | .startField, c => fieldAction c
  | .inField, c => if isLineEnd c then .endRecord else if c = ',' then .saveField else .add .inField
  | .inQuoted, c => if c = '"' then .skip .quoteInQuoted else .add .inQuoted
  | .quoteInQuoted, c =>
    if c = '"' then .add .inQuoted
    else if c = ',' then .saveField
    else if isLineEnd c then .endRecord
    else .add .inField

def afterLineEnd (c : Char) : CsvMode := if c = '\r' then .afterReturn else .startRecord

def fieldSizeLimit : Nat := 131072

/-- The rows of the rest of a text, after the saved fields and the characters of the field at hand, last first. A field
that is too large ends the reading. -/
def csvRows (mode : CsvMode) (fields : List String) (field : List Char) : List Char → List (Except String (List String))
  | [] => if mode = .startRecord ∨ mode = .afterReturn then [] else [.ok (fields ++ [String.ofList field.reverse])]
  | c :: rest =>
    match csvAction mode c with
    | .skip next => csvRows next fields field rest
    | .add next =>
      if fieldSizeLimit ≤ field.length then [.error s!"field larger than field limit ({fieldSizeLimit})"]
      else csvRows next fields (c :: field) rest
    | .saveField => csvRows .startField (fields ++ [String.ofList field.reverse]) [] rest
    | .endRecord => .ok (fields ++ [String.ofList field.reverse]) :: csvRows (afterLineEnd c) [] [] rest
    | .emptyRecord => .ok [] :: csvRows (afterLineEnd c) [] [] rest

def csvReader (text : String) : List (Except String (List String)) := csvRows .startRecord [] [] text.toList

end PspDisasm.Linker
