import PspDisasm.Elf32
import PspDisasm.Foundations.Dict

namespace PspDisasm
open Foundations

def psfMagic : Bytes := [0x00, 0x50, 0x53, 0x46]

/-- What an entry of a PARAM.SFO holds, by its format code. -/
inductive SfoValue
  | text (value : String)
  | number (value : Nat)
  | raw (value : Bytes)
deriving DecidableEq, Repr

/-- `bytes.decode("utf-8")`, which refuses what is no UTF-8. -/
def decodeUtf8Strict (bytes : Bytes) : Option String := String.fromUTF8? ⟨bytes.toArray⟩

def sfoValue (key : String) (format : Nat) (raw : Bytes) : Except Failure SfoValue :=
  if format = 0x0204 then
    match decodeUtf8Strict (untilNul raw) with
    | some text => .ok (.text text)
    | none => .error (.parseError s!"PSF string value for key {key} is not valid UTF-8")
  else if format = 0x0404 then
    if raw.length < 4 then .error (.parseError s!"PSF integer value for key {key} is truncated")
    else .ok (.number (wordAt .little raw 0 4))
  else .ok (.raw raw)

/-- One entry of the index table, added to the entries before it. -/
def sfoEntry (data : Bytes) (keyTable dataTable : Nat) (result : Dict String SfoValue) (index : Nat) :
    Except Failure (Dict String SfoValue) := do
  let entry := 20 + index * 16
  let keyStart := keyTable + wordAt .little data entry 2
  raiseIf (dataTable ≤ keyStart) (.parseError s!"PSF key offset for entry {index} is invalid")
  let keys := slice data keyStart (dataTable - keyStart)
  raiseIf (0 ∉ keys) (.parseError s!"PSF key for entry {index} is not NUL terminated")
  let key ← (decodeUtf8Strict (untilNul keys)).elim (.error (.parseError s!"PSF key for entry {index} is not valid UTF-8")) .ok
  raiseIf (key = "") (.parseError s!"PSF key for entry {index} is empty")
  let dataLen := wordAt .little data (entry + 4) 4
  raiseIf (wordAt .little data (entry + 8) 4 < dataLen)
    (.parseError s!"PSF data length exceeds maximum length for key {key}")
  let valueStart := dataTable + wordAt .little data (entry + 12) 4
  raiseIf (data.length < valueStart + dataLen) (.parseError s!"PSF data for key {key} exceeds file size")
  let value ← sfoValue key (wordAt .little data (entry + 2) 2) (slice data valueStart dataLen)
  return result.set key value

def parseParamSfo (data : Bytes) : Except Failure (Dict String SfoValue) := do
  raiseIf (data.length < 20) (.parseError "Truncated PSF header")
  raiseIf (slice data 0 4 ≠ psfMagic) (.parseError "Invalid PSF magic")
  let keyTable := wordAt .little data 8 4
  let dataTable := wordAt .little data 12 4
  let entryCount := wordAt .little data 16 4
  let indexEnd := 20 + entryCount * 16
  raiseIf (data.length < indexEnd) (.parseError "PSF index table exceeds file size")
  raiseIf (keyTable < indexEnd ∨ data.length < keyTable) (.parseError "PSF key table offset is invalid")
  raiseIf (dataTable < keyTable ∨ data.length < dataTable) (.parseError "PSF data table offset is invalid")
  (List.range entryCount).foldlM (sfoEntry data keyTable dataTable) []

end PspDisasm
