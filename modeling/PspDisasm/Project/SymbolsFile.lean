import PspDisasm.DataTyping.Records
import PspDisasm.Foundations.FirstByKey
import PspDisasm.Linker.ModuleLinks

namespace PspDisasm
open Foundations

namespace Project

/-- What the symbols file takes from a propagated symbol. -/
structure PropagatedSymbol where
  address : Int
  name : String
  kind : String
  source : String
  confidence : Rat
deriving DecidableEq

/-- What `_render_symbols` reads. -/
structure SymbolSources where
  entry : Int
  strings : List DataTyping.StringRecord
  functions : List Linker.LocalFunction
  symbols : List Linker.LocalSymbol
  propagatedSymbols : List PropagatedSymbol
  dataTypes : List DataTyping.DataTypeRecord

def isWordChar (c : Char) : Bool := c.isAlphanum || c = '_'

def cleanedName (name : String) : String :=
  let cleaned := name.toList.map fun c => if isWordChar c then c else '_'
  String.ofList (if cleaned = [] ∨ cleaned.head?.any Char.isDigit then '_' :: cleaned else cleaned)

/-- `_valid_symbol_name`. -/
def validSymbolName (name fallback : String) : String :=
  if cleanedName name = "" then fallback else cleanedName name

/-- `_is_autogenerated_symbol_name`, which has the patterns of the linker. -/
def isAutogeneratedSymbolName (name : String) : Bool := Linker.isAutogeneratedName name

/-- One turn of the loop of `_strong_proposals`. -/
def keepProposal (selected : Dict Int PropagatedSymbol) (record : PropagatedSymbol) : Dict Int PropagatedSymbol :=
  if record.confidence < 19 / 20 then selected
  else
    match selected.get? record.address with
    | none => selected.set record.address record
    | some current =>
      if current.confidence < record.confidence then selected.set record.address record
      else if record.confidence = current.confidence ∧ toLex (record.name, record.source) < toLex (current.name, current.source) then
        selected.set record.address record
      else selected

def strongProposals (records : List PropagatedSymbol) : Dict Int PropagatedSymbol := records.foldl keepProposal []

def typePrefix : DataTyping.DataTypeName → Option String
  | .functionPointer => some "FUNCPTR"
  | .pointer => some "PTR"
  | .functionPointerTable => some "FUNCPTRTBL"
  | .pointerTable => some "PTRTBL"
  | _ => none

/-- One turn of the loop of `_strong_type_names`. -/
def keepTypeName (selected : Dict Int (Rat × String)) (record : DataTyping.DataTypeRecord) : Dict Int (Rat × String) :=
  match typePrefix record.typeName with
  | none => selected
  | some lead =>
    if record.confidence < 9 / 10 then selected
    else
      let name := s!"{lead}_{addressDigits record.address}"
      match selected.get? record.address with
      | none => selected.set record.address (record.confidence, name)
      | some current =>
        if current.1 < record.confidence ∨ record.confidence = current.1 ∧ name < current.2 then
          selected.set record.address (record.confidence, name)
        else selected

def strongTypeNames (records : List DataTyping.DataTypeRecord) : Dict Int String :=
  (records.foldl keepTypeName []).map fun item => (item.1, item.2.2)

/-- A line of the file: the symbol, its address, and the comment behind it. -/
structure SymbolLine where
  name : String
  address : Int
  suffix : String
deriving DecidableEq

def SymbolLine.text (line : SymbolLine) : String := s!"{line.name} = 0x{addressDigits line.address};{line.suffix}"

def functionSuffix : String := " // type:func"

def stringName (address : Int) : String := s!"STR_{addressDigits address}"

/-- The order of `sorted` by the address, then by the name. -/
def byAddressAndName {α : Type} (key : α → Int × String) (items : List α) : List α :=
  items.insertionSort fun first second => toLex (key first) ≤ toLex (key second)

namespace SymbolSources
variable (sources : SymbolSources)

def proposals : Dict Int PropagatedSymbol := strongProposals sources.propagatedSymbols

def typeNames : Dict Int String := strongTypeNames sources.dataTypes

/-- Membership in `strings_by_address`. -/
def isString (address : Int) : Bool := sources.strings.any (·.address = address)

def functionName (name : String) (address : Int) : String :=
  match sources.proposals.get? address with
  | some proposal => if isAutogeneratedSymbolName name then proposal.name else name
  | none => name

def symbolName (name : String) (address : Int) : String :=
  if isAutogeneratedSymbolName name then
    match sources.proposals.get? address with
    | some proposal => proposal.name
    | none => (sources.typeNames.get? address).getD name
  else name

def proposalSuffix (proposal : Option PropagatedSymbol) : String :=
  if proposal.any (·.kind = "function") then functionSuffix else ""

def entryLines : List SymbolLine := if sources.entry ≠ 0 then [⟨"_start", sources.entry, functionSuffix⟩] else []

def stringLines : List SymbolLine :=
  (sources.strings.insertionSort fun first second => first.address ≤ second.address).map fun record =>
    ⟨stringName record.address, record.address, " // type:asciz"⟩

def functionLines : List SymbolLine :=
  (byAddressAndName (fun item => (item.address, item.name)) sources.functions).map fun function =>
    ⟨validSymbolName (sources.functionName function.name function.address) s!"func_{addressDigits function.address}",
      function.address, functionSuffix⟩

def symbolLines : List SymbolLine :=
  ((byAddressAndName (fun item => (item.address, item.name)) sources.symbols).filter fun symbol =>
    !sources.isString symbol.address && symbol.kind ∉ ["label", "branchlabel"]).map fun symbol =>
    ⟨validSymbolName (sources.symbolName symbol.name symbol.address) s!"D_{addressDigits symbol.address}", symbol.address,
      proposalSuffix (sources.proposals.get? symbol.address)⟩

def proposalLines : List SymbolLine :=
  ((byAddressAndName (fun item => (item.1, item.2.name)) sources.proposals).filter fun item => !sources.isString item.1).map
    fun (address, proposal) =>
      let fallback := if proposal.kind = "function" then s!"func_{addressDigits address}" else s!"D_{addressDigits address}"
      ⟨validSymbolName proposal.name fallback, address, proposalSuffix (some proposal)⟩

def typeLines : List SymbolLine :=
  ((byAddressAndName id sources.typeNames).filter fun item => !sources.isString item.1).map fun (address, name) =>
    ⟨validSymbolName name s!"D_{addressDigits address}", address, ""⟩

/-- The lines that the loops come to, in order, with those whose address is used already. -/
def candidates : List SymbolLine :=
  sources.entryLines ++ sources.stringLines ++ sources.functionLines ++ sources.symbolLines ++ sources.proposalLines ++
    sources.typeLines

/-- The symbols that the file defines: every loop passes over the used addresses. -/
def lines : List SymbolLine := (Firsts.ofList SymbolLine.address sources.candidates).kept

/-- `_render_symbols`. -/
def renderSymbols : String :=
  "\n".intercalate ("// Generated by pspdisasm; curate this file as the decompilation progresses." ::
    sources.lines.map SymbolLine.text) ++ "\n"

end SymbolSources

end Project

end PspDisasm
