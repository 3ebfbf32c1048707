import PspDisasm.AnalysisCache
import PspDisasm.Decompile.Queue
import PspDisasm.Disc.ParamSfo
import PspDisasm.Linker.CsvRows
import PspDisasm.Linker.ModuleLinks
import PspDisasm.PythonValues

namespace PspDisasm.Linker
open Foundations

/-- What the readers of the databases use of Python. `jsonLoads` has no value for a text that is no JSON, and `parseHex`
reads a number in base 16. -/
structure NidTexts extends ValueTexts where
  lower : String → String
  casefold : String → String
  parseHex : String → Option Int
  jsonLoads : String → Option Json

/-- The file of a database, by its path. -/
abbrev NidFile := PspDisasm.NidDatabase

inductive NidFormat
  | json
  | csv
deriving DecidableEq, Repr

/-- A symbol as a file gives it. Without a source it has the name of the file for one. -/
structure NidRecord where
  library : String
  nid : Nat
  name : String
  kind : NidKind
  source : Option String
deriving DecidableEq, Repr

def NidRecord.symbol (record : NidRecord) (fileName : String) : NidSymbol :=
  ⟨record.library, record.nid, record.name, record.kind, record.source.getD fileName⟩

section Records
variable (texts : NidTexts)

def kindAliases : Dict String NidKind :=
  [("fun", .function), ("func", .function), ("function", .function), ("var", .variable), ("variable", .variable)]

def normalizeKind (kind : String) : Except String NidKind :=
  match kindAliases.get? (texts.lower (strip kind)) with
  | some normalized => .ok normalized
  | none => .error s!"Unsupported NID kind: {texts.reprText kind}"

/-- `re.fullmatch(r"[0-9A-Fa-f]{8}", text)`. -/
def eightHexDigits (text : String) : Bool :=
  text.length = 8 && text.toList.all fun c =>
    ('0' ≤ c && c ≤ '9') || ('A' ≤ c && c ≤ 'F') || ('a' ≤ c && c ≤ 'f')

def nidNumber (text : String) : Except String Int :=
  if (texts.lower text).startsWith "0x" ∨ eightHexDigits text then
    (texts.parseHex text).elim (.error s!"invalid literal for int() with base 16: {texts.reprText text}") .ok
  else (texts.parseInt text).elim (.error s!"invalid literal for int() with base 10: {texts.reprText text}") .ok

def parseNid (value : Json) : Except String Nat := do
  let nid ← match value with
    | .bool _ => .error "NID must be an integer or hexadecimal string"
    | .int nid => .ok nid
    | value =>
      let text := strip (texts.toText value)
      if text = "" then .error "NID must not be empty" else nidNumber texts text
  raiseIf (¬(0 ≤ nid ∧ nid ≤ 0xFFFFFFFF)) s!"NID out of range: {nid}"
  return nid.toNat

def conflictText (previous normalized : NidSymbol) : String :=
  s!"Conflicting NID names for {normalized.library}/{kindText normalized.kind}/0x{hexPadded 8 normalized.nid}: " ++
    s!"{texts.reprText previous.name} ({previous.source}) -> {texts.reprText normalized.name} ({normalized.source}); " ++
    "later database wins"

/-- `add` of a symbol whose kind and nid are normal, as those of all records are. -/
def NidDatabase.add (database : NidDatabase) (symbol : NidSymbol) : Except String NidDatabase := do
  let normalized : NidSymbol := ⟨strip symbol.library, symbol.nid, strip symbol.name, symbol.kind, strip symbol.source⟩
  raiseIf (normalized.library = "") "NID library name must not be empty"
  raiseIf (normalized.name = "") "NID symbol name must not be empty"
  let key := (normalized.library, normalized.kind, normalized.nid)
  let warnings := match database.symbols.get? key with
    | some previous =>
      if previous.name ≠ normalized.name ∧ ¬isPlaceholderName texts.casefold previous.library previous.nid previous.name ∧
          ¬isPlaceholderName texts.casefold normalized.library normalized.nid normalized.name then
        [conflictText texts previous normalized]
      else []
    | none => []
  return ⟨database.symbols.set key normalized, database.warnings ++ warnings⟩

/-- `resolve` of a kind and a nid that are not normal yet. -/
def NidDatabase.lookup (database : NidDatabase) (library : String) (nid : Json) (kind : String) :
    Except String (Option NidSymbol) := do
  let kind ← normalizeKind texts kind
  let nid ← parseNid texts nid
  return database.resolve library nid kind

/-- `_symbol_from_mapping`, where a source that is missing or false is that of the file. -/
def symbolFromMapping (record : Fields) : Except String NidRecord := do
  let library := record.getOr "library" (record.getOr "library_name" (.str ""))
  let kind := record.getOr "kind" (record.getOr "fun/var" (record.getOr "type" (.str "")))
  let nid := record.getOr "nid" (record.getOr "NID" (.str ""))
  let name := record.getOr "name" (.str "")
  let source := (record.get? "source").filter Json.truthy
  let nid ← parseNid texts nid
  let kind ← normalizeKind texts (texts.toText kind)
  return ⟨texts.toText library, nid, texts.toText name, kind, source.map texts.toText⟩

end Records

/-- The translation of line ends in a text that is read without `newline`. -/
def universalNewlines : List Char → List Char
  | [] => []
  | '\r' :: '\n' :: rest => '\n' :: universalNewlines rest
  | '\r' :: rest => '\n' :: universalNewlines rest
  | c :: rest => c :: universalNewlines rest

/-- `path.read_text(encoding="utf-8")`. -/
def readText (data : Bytes) : Option String :=
  (decodeUtf8Strict data).map fun text => String.ofList (universalNewlines text.toList)

/-- A text under `utf-8-sig`, with its line ends as they are. -/
def readSignedText (data : Bytes) : Option String :=
  decodeUtf8Strict (if data.take 3 = [0xEF, 0xBB, 0xBF] then data.drop 3 else data)

section JsonFiles
variable (texts : NidTexts) (path : String)

/-- The records of a payload, from the item with the number `index` on. -/
def jsonRecords : Nat → List Json → Except String (List NidRecord)
  | _, [] => .ok []
  | index, .obj fields :: items => do
    let record ← symbolFromMapping texts fields
    let records ← jsonRecords (index + 1) items
    return record :: records
  | index, _ :: _ => .error s!"NID JSON {path} record {index} is not an object"

/-- The list in the payload of a file. -/
def symbolList : Json → Option (List Json)
  | .arr items => some items
  | .obj fields =>
    match Fields.getOr fields "symbols" (Fields.getOr fields "nids" .null) with
    | .arr items => some items
    | _ => none
  | _ => none

def loadJsonFile (data : Bytes) : Except String (List NidRecord) := do
  let text ← (readText data).elim (.error "'utf-8' codec can't decode") .ok
  let payload ← (texts.jsonLoads text).elim (.error "the text is no JSON") .ok
  let items ← (symbolList payload).elim
    (.error s!"NID JSON {path} must contain a list or an object with 'symbols'") .ok
  jsonRecords texts path 1 items

end JsonFiles

section CsvFiles
variable (texts : NidTexts) (path : String)

/-- Whether `first` contains `library`, or the third cell is `nid`. -/
def looksLikeCsvHeader : List String → Bool
  | [] => false
  | first :: cells =>
    (texts.lower (strip first)).toList.tails.any ("library".toList.isPrefixOf ·) ||
      (cells[1]?.map fun third => texts.lower (strip third)) = some "nid"

def isComment (cell : String) : Bool := (cell.toList.dropWhile isSpace).head? = some '#'

def csvRecord (index : Nat) : List String → Except String NidRecord
  | library :: kind :: nid :: name :: cells => do
    let source := (cells.head?.map strip).filter (· ≠ "")
    let kind ← normalizeKind texts kind
    let nid ← parseNid texts (.str nid)
    return ⟨strip library, nid, strip name, kind, source⟩
  | _ => .error s!"NID CSV {path} row {index} needs at least 4 columns"

/-- A row that is passed over: one without text, a comment, or the header of the file. -/
def skipsRow (index : Nat) (row : List String) : Bool :=
  row.all (strip · = "") || (row.head?.map isComment) = some true || (index = 1 && looksLikeCsvHeader texts row)

/-- The records of the rows from the one with the number `index` on. -/
def csvRecords : Nat → List (Except String (List String)) → Except String (List NidRecord)
  | _, [] => .ok []
  | index, row :: rows => do
    let row ← row
    if skipsRow texts index row then csvRecords (index + 1) rows
    else
      let record ← csvRecord texts path index row
      let records ← csvRecords (index + 1) rows
      return record :: records

def loadCsvFile (data : Bytes) : Except String (List NidRecord) := do
  let text ← (readSignedText data).elim (.error "'utf-8' codec can't decode") .ok
  csvRecords texts path 1 (csvReader text)

end CsvFiles

/-- `Path(path).suffix`: a dot at an end of the name does not begin a suffix. -/
def pathSuffix (path : String) : String :=
  let name := (pathName path).toList
  let suffix := (name.reverse.takeWhile (· ≠ '.')).reverse
  if suffix = [] ∨ name.length ≤ suffix.length + 1 then "" else String.ofList ('.' :: suffix)

section Databases
variable (texts : NidTexts)

def formatOf (path : String) : Option NidFormat :=
  let suffix := texts.lower (pathSuffix path)
  if suffix = ".json" then some .json
  else if suffix = ".csv" ∨ suffix = ".txt" then some .csv
  else none

def loadRecords (path : String) (format : NidFormat) (data : Bytes) : Except String (List NidRecord) :=
  match format with
  | .json => loadJsonFile texts path data
  | .csv => loadCsvFile texts path data

def fileRecords (file : NidFile) : Except String (List NidRecord) :=
  match formatOf texts file.path, file.data with
  | none, _ => .error s!"Unsupported NID database format for {file.path}; expected .json or .csv"
  | some _, none => .error s!"[Errno 2] No such file or directory: '{file.path}'"
  | some format, some data => loadRecords texts file.path format data

def NidDatabase.addFile (database : NidDatabase) (file : NidFile) : Except String NidDatabase := do
  let records ← fileRecords texts file
  (records.map (·.symbol (pathName file.path))).foldlM (NidDatabase.add texts) database

def loadNidDatabases (files : List NidFile) : Except String NidDatabase :=
  files.foldlM (NidDatabase.addFile texts) ⟨[], []⟩

end Databases

end PspDisasm.Linker
