import PspDisasm.Linker.NidFiles
import PspDisasm.PlacementOrder

namespace PspDisasm.Linker
open Foundations

/-- Two loads both fail, or lead to the same warnings and the same symbol for every library, nid and kind. -/
structure LoadsAgree (texts : NidTexts) (files others : List NidFile) : Prop where
  succeed : (loadNidDatabases texts files).isOk = (loadNidDatabases texts others).isOk
  warnings : ∀ {database other}, loadNidDatabases texts files = .ok database → loadNidDatabases texts others = .ok other →
    database.warnings = other.warnings
  symbols : ∀ {database other}, loadNidDatabases texts files = .ok database → loadNidDatabases texts others = .ok other →
    ∀ library nid kind, database.lookup texts library nid kind = other.lookup texts library nid kind

/-- What the key of an analysis is the digest of. -/
def keyPayload (tools : AnalysisTools) (manifest : GameWorkspaceManifest) (config : AnalysisConfig) : KeyPayload :=
  ⟨manifest.sourceIdentity, analysisSchemaVersion, tools.toolkitVersion,
    config.nidDatabases.filterMap fun database => database.data.map fun data => (data.length, tools.sha256 data),
    config.recoveryBackends, config.recoveryMaxOutputBytes⟩

/-- The digests of two keys, and those of the databases at the same places, come from the same bytes where they are
the same. -/
structure NoCollision (tools : AnalysisTools) (manifest : GameWorkspaceManifest) (config other : AnalysisConfig) : Prop where
  keys : tools.keyDigest (keyPayload tools manifest config) = tools.keyDigest (keyPayload tools manifest other) →
    keyPayload tools manifest config = keyPayload tools manifest other
  contents : ∀ pair ∈ config.nidDatabases.zip other.nidDatabases, ∀ data ∈ pair.1.data, ∀ otherData ∈ pair.2.data,
    tools.sha256 data = tools.sha256 otherData → data = otherData

def SameKey (tools : AnalysisTools) (manifest : GameWorkspaceManifest) (config other : AnalysisConfig) : Prop :=
  ∃ key, analysisKey tools manifest config = .ok key ∧ analysisKey tools manifest other = .ok key

/-- Whatever the files of these names hold, an equal key of two analyses that differ in the databases only means that
their loads agree. -/
def KeyCovers (tools : AnalysisTools) (texts : NidTexts) (names others : List String) : Prop :=
  ∀ (manifest : GameWorkspaceManifest) (backends : List String) (bound : Nat) (files otherFiles : List NidFile),
    files.map (·.path) = names → otherFiles.map (·.path) = others →
    NoCollision tools manifest ⟨files, backends, bound⟩ ⟨otherFiles, backends, bound⟩ →
    SameKey tools manifest ⟨files, backends, bound⟩ ⟨otherFiles, backends, bound⟩ → LoadsAgree texts files otherFiles

/-- The source of the records of a file that give none. -/
def defaultSource (path : String) : String := strip (pathName path)

def NameAlike (texts : NidTexts) (name other : String) : Prop :=
  formatOf texts name = formatOf texts other ∧ defaultSource name = defaultSource other

def Unsupported (texts : NidTexts) (names : List String) : Prop := ∃ name ∈ names, formatOf texts name = none

/-- Two lists of as many names have the same formats and the same default sources, or each of them has a name that
cannot be loaded. -/
def NamesAlike (texts : NidTexts) (names others : List String) : Prop :=
  names.length = others.length →
    Unsupported texts names ∧ Unsupported texts others ∨ List.Forall₂ (NameAlike texts) names others

/-- A file whose records all give a source of their own. -/
def SourcesGiven (texts : NidTexts) (file : NidFile) : Prop :=
  ∀ records, fileRecords texts file = .ok records → ∀ record ∈ records, record.source.isSome

def FileAlike (texts : NidTexts) (file other : NidFile) : Prop :=
  formatOf texts file.path = formatOf texts other.path ∧
    (defaultSource file.path = defaultSource other.path ∨ SourcesGiven texts file)

section Keys
variable {tools : AnalysisTools} {manifest : GameWorkspaceManifest} {config other : AnalysisConfig} {key : String}

/-- A key is the digest of its payload, and all databases can be read. -/
theorem analysisKey_ok (made : analysisKey tools manifest config = .ok key) :
    key = tools.keyDigest (keyPayload tools manifest config) ∧ ∀ file ∈ config.nidDatabases, file.data.isSome := by
  obtain ⟨identities, read, digest⟩ := bind_ok.mp made
  cases digest
  have pairs := mapM_ok.mp read
  have each : identities = (config.nidDatabases.filterMap fun database =>
      database.data.map fun data => (data.length, tools.sha256 data)) ∧ ∀ file ∈ config.nidDatabases, file.data.isSome := by
    clear made read
    generalize config.nidDatabases = files at pairs ⊢
    induction pairs with
    | nil => exact ⟨rfl, List.forall_mem_nil _⟩
    | @cons file identity files identities head _ ih =>
      split at head
      · cases head
      · rename_i data found
        cases head
        rw [List.filterMap_cons, found]
        exact ⟨congrArg _ ih.1, List.forall_mem_cons.mpr ⟨by rw [found]; rfl, ih.2⟩⟩
  refine ⟨?_, each.2⟩
  rw [each.1]
  rfl

theorem analysisKey_readable (readable : ∀ file ∈ config.nidDatabases, file.data.isSome) :
    analysisKey tools manifest config = .ok (tools.keyDigest (keyPayload tools manifest config)) := by
  cases made : analysisKey tools manifest config with
  | error raised =>
    rcases bind_error.mp made with unread | ⟨_, _, digest⟩
    · obtain ⟨file, member, failed⟩ := mapM_error unread
      obtain ⟨data, found⟩ := Option.isSome_iff_exists.mp (readable file member)
      rw [found] at failed
      cases failed
    · cases digest
  | ok key => rw [(analysisKey_ok made).1]

/-- Without collisions, equal keys come from the same contents at the same places. -/
theorem SameKey.contents (same : SameKey tools manifest config other) (free : NoCollision tools manifest config other) :
    config.nidDatabases.map (·.data) = other.nidDatabases.map (·.data) := by
  obtain ⟨key, made, again⟩ := same
  obtain ⟨digest, readable⟩ := analysisKey_ok made
  obtain ⟨otherDigest, otherReadable⟩ := analysisKey_ok again
  have identities := congrArg KeyPayload.nidDatabases (free.keys (digest.symm.trans otherDigest))
  have contents := free.contents
  dsimp only [keyPayload] at identities
  generalize config.nidDatabases = files at *
  generalize other.nidDatabases = others at *
  clear free made again
  induction files generalizing others with
  | nil =>
    cases others with
    | nil => rfl
    | cons file others =>
      obtain ⟨data, found⟩ := Option.isSome_iff_exists.mp (otherReadable file List.mem_cons_self)
      rw [List.filterMap_cons, found] at identities
      cases identities
  | cons file files ih =>
    obtain ⟨⟨data, found⟩, rest⟩ := (List.forall_mem_cons.mp readable).imp Option.isSome_iff_exists.mp id
    rw [List.filterMap_cons, found] at identities
    cases others with
    | nil => cases identities
    | cons otherFile others =>
      obtain ⟨⟨otherData, otherFound⟩, otherRest⟩ := (List.forall_mem_cons.mp otherReadable).imp Option.isSome_iff_exists.mp id
      rw [List.filterMap_cons, otherFound] at identities
      obtain ⟨first, later⟩ := List.cons.inj identities
      have sameData := contents (file, otherFile) List.mem_cons_self data found otherData otherFound (Prod.mk.inj first).2
      have sameRest := ih rest others otherRest later fun pair member => contents pair (List.mem_cons_of_mem _ member)
      rw [List.map_cons, List.map_cons, found, otherFound, sameData, sameRest]

end Keys

section Loads
variable {texts : NidTexts} {file other : NidFile} {files others : List NidFile} {path otherPath : String}

/-- The path of a file is only in the messages of its readers. -/
theorem jsonRecords_toOption (index : Nat) (items : List Json) :
    (jsonRecords texts path index items).toOption = (jsonRecords texts otherPath index items).toOption := by
  induction items generalizing index with
  | nil => rfl
  | cons item items ih =>
    cases item with
    | obj fields =>
      exact toOption_bind_congr rfl fun record _ => toOption_bind_congr (ih (index + 1)) fun records _ => rfl
    | _ => rfl

theorem csvRecord_toOption (index : Nat) (row : List String) :
    (csvRecord texts path index row).toOption = (csvRecord texts otherPath index row).toOption := by
  unfold csvRecord
  split <;> rfl

theorem csvRecords_toOption (index : Nat) (rows : List (Except String (List String))) :
    (csvRecords texts path index rows).toOption = (csvRecords texts otherPath index rows).toOption := by
  induction rows generalizing index with
  | nil => rfl
  | cons row rows ih =>
    refine toOption_bind_congr rfl fun cells _ => ?_
    by_cases skipped : skipsRow texts index cells = true
    · rw [if_pos skipped, if_pos skipped]
      exact ih (index + 1)
    · rw [if_neg skipped, if_neg skipped]
      exact toOption_bind_congr (csvRecord_toOption index cells) fun record _ =>
        toOption_bind_congr (ih (index + 1)) fun records _ => rfl

theorem loadRecords_toOption (format : NidFormat) (data : Bytes) :
    (loadRecords texts path format data).toOption = (loadRecords texts otherPath format data).toOption := by
  cases format with
  | json =>
    refine toOption_bind_congr rfl fun text _ => toOption_bind_congr rfl fun payload _ => ?_
    refine toOption_bind_congr ?_ fun items _ => jsonRecords_toOption 1 items
    cases symbolList payload <;> rfl
  | csv => exact toOption_bind_congr rfl fun text _ => csvRecords_toOption 1 (csvReader text)

theorem fileRecords_toOption (format : formatOf texts file.path = formatOf texts other.path) (data : file.data = other.data) :
    (fileRecords texts file).toOption = (fileRecords texts other).toOption := by
  unfold fileRecords
  rw [format, data]
  cases formatOf texts other.path with
  | none => rfl
  | some format =>
    cases other.data with
    | none => rfl
    | some data => exact loadRecords_toOption format data

/-- The symbol of a record depends on the file in its source only, and a database keeps that without its outer space. -/
theorem add_symbol {record : NidRecord} (alike : defaultSource path = defaultSource otherPath ∨ record.source.isSome)
    (database : NidDatabase) :
    database.add texts (record.symbol (pathName path)) = database.add texts (record.symbol (pathName otherPath)) := by
  have sources : strip (record.source.getD (pathName path)) = strip (record.source.getD (pathName otherPath)) := by
    cases given : record.source with
    | none =>
      rw [given] at alike
      exact alike.resolve_right (by simp)
    | some source => rfl
  unfold NidDatabase.add NidRecord.symbol
  dsimp only
  rw [sources]

theorem addFile_toOption (alike : FileAlike texts file other) (data : file.data = other.data) (database : NidDatabase) :
    (database.addFile texts file).toOption = (database.addFile texts other).toOption := by
  refine toOption_bind_congr (fileRecords_toOption alike.1 data) fun records read => ?_
  rw [List.foldlM_map, List.foldlM_map]
  have given : ∀ record ∈ records, defaultSource file.path = defaultSource other.path ∨ record.source.isSome := by
    intro record member
    exact alike.2.imp_right fun sources => sources records read record member
  refine foldlM_toOption_congr (R := fun record again => record = again ∧
    (defaultSource file.path = defaultSource other.path ∨ record.source.isSome)) ?_ ?_ database
  · rintro database record _ ⟨rfl, sources⟩
    rw [add_symbol sources]
  · exact List.forall₂_same.mpr fun record member => ⟨rfl, given record member⟩

theorem LoadsAgree.of_toOption
    (same : (loadNidDatabases texts files).toOption = (loadNidDatabases texts others).toOption) :
    LoadsAgree texts files others := by
  have equal : ∀ {database other}, loadNidDatabases texts files = .ok database →
      loadNidDatabases texts others = .ok other → database = other := by
    intro database other loaded otherLoaded
    rw [loaded, otherLoaded] at same
    exact Option.some.inj same
  refine ⟨?_, fun loaded otherLoaded => by rw [equal loaded otherLoaded],
    fun loaded otherLoaded library nid kind => by rw [equal loaded otherLoaded]⟩
  cases first : loadNidDatabases texts files with
  | error raised =>
    cases second : loadNidDatabases texts others with
    | error raised => rfl
    | ok database =>
      rw [first, second] at same
      cases same
  | ok database =>
    cases second : loadNidDatabases texts others with
    | error raised =>
      rw [first, second] at same
      cases same
    | ok database => rfl

/-- Files that are alike and hold the same make loads that agree. -/
theorem loadsAgree_of_alike (alike : List.Forall₂ (FileAlike texts) files others)
    (contents : files.map (·.data) = others.map (·.data)) : LoadsAgree texts files others := by
  refine LoadsAgree.of_toOption (foldlM_toOption_congr (R := fun file other => FileAlike texts file other ∧
    file.data = other.data) (fun database file other same => addFile_toOption same.1 same.2 database) ?_ ⟨[], []⟩)
  induction alike with
  | nil => exact .nil
  | cons head _ ih =>
    obtain ⟨first, rest⟩ := List.cons.inj contents
    exact .cons ⟨head, first⟩ (ih rest)

theorem load_unsupported (unsupported : Unsupported texts (files.map (·.path))) :
    (loadNidDatabases texts files).toOption = none := by
  obtain ⟨name, listed, unknown⟩ := unsupported
  obtain ⟨file, member, rfl⟩ := List.mem_map.mp listed
  unfold loadNidDatabases
  refine foldlM_toOption_none (fun database => ?_) member _
  unfold NidDatabase.addFile fileRecords
  rw [unknown]
  rfl

end Loads

def textBytes (text : String) : Bytes := text.toUTF8.data.toList

/-- A text without symbols in both formats: as CSV it is a header. -/
def noSymbolsText : String := "\x7b\"library\":0,\"symbols\":[]\x7d"

/-- One symbol without a source. -/
def oneSymbolText : NidFormat → String
  | .json => "[\x7b\"library\":\"L\",\"kind\":\"fun\",\"nid\":1,\"name\":\"n\"\x7d]"
  | .csv => "L,fun,1,n"

/-- What Python makes of some plain texts. -/
structure StandardTexts (texts : NidTexts) : Prop where
  lower : ∀ text, text.toList.all (·.toNat < 128) = true → texts.lower text = foldAscii text
  parseInt : texts.parseInt "1" = some 1
  emptyList : texts.jsonLoads "[]" = some (.arr [])
  noSymbols : texts.jsonLoads noSymbolsText = some (.obj [("library", .int 0), ("symbols", .arr [])])
  oneSymbol : texts.jsonLoads (oneSymbolText .json) =
    some (.arr [.obj [("library", .str "L"), ("kind", .str "fun"), ("nid", .int 1), ("name", .str "n")]])

/-- A file that adds no symbol, whatever its format. -/
def idleFile (name : String) : NidFile := ⟨name, some (textBytes noSymbolsText)⟩

def oneSymbolRecord : NidRecord := ⟨"L", 1, "n", .function, none⟩

section Probes
variable {texts : NidTexts} {name other path : String} {names others : List String}

theorem fileRecords_supported {format : NidFormat} {data : Bytes} (supported : formatOf texts name = some format) :
    fileRecords texts ⟨name, some data⟩ = loadRecords texts name format data := by
  unfold fileRecords
  rw [supported]

theorem loadJson_of {data : Bytes} {text : String} {payload : Json} {items : List Json} (read : readText data = some text)
    (parsed : texts.jsonLoads text = some payload) (listed : symbolList payload = some items) :
    loadRecords texts path .json data = jsonRecords texts path 1 items := by
  unfold loadRecords loadJsonFile
  dsimp only
  rw [read, Option.elim_some, ok_bind, parsed, Option.elim_some, ok_bind, listed, Option.elim_some, ok_bind]

theorem loadCsv_of {data : Bytes} {text : String} {rows : List (Except String (List String))}
    (read : readSignedText data = some text) (split : csvReader text = rows) :
    loadRecords texts path .csv data = csvRecords texts path 1 rows := by
  unfold loadRecords loadCsvFile
  dsimp only
  rw [read, Option.elim_some, ok_bind, split]

theorem noSymbols_records (standard : StandardTexts texts) (format : NidFormat) :
    loadRecords texts path format (textBytes noSymbolsText) = .ok [] := by
  cases format with
  | json =>
    have read : readText (textBytes noSymbolsText) = some noSymbolsText := by decide
    exact loadJson_of read standard.noSymbols rfl
  | csv =>
    have read : readSignedText (textBytes noSymbolsText) = some noSymbolsText := by decide
    have split : csvReader noSymbolsText = [.ok ["\x7b\"library\":0", "symbols:[]\x7d"]] := rfl
    have lowered : texts.lower (strip "\x7b\"library\":0") = "\x7b\"library\":0" :=
      (standard.lower _ (by decide +kernel)).trans (by decide +kernel)
    have header : looksLikeCsvHeader texts ["\x7b\"library\":0", "symbols:[]\x7d"] = true := by
      unfold looksLikeCsvHeader
      dsimp only
      rw [lowered, Bool.or_eq_true]
      exact Or.inl (by decide)
    rw [loadCsv_of read split]
    simp [csvRecords, skipsRow, header]

theorem normalizeKind_fun (standard : StandardTexts texts) : normalizeKind texts "fun" = .ok .function := by
  have lowered : texts.lower (strip "fun") = "fun" := (standard.lower _ (by decide)).trans (by decide)
  unfold normalizeKind
  rw [lowered]
  rfl

theorem parseNid_one (standard : StandardTexts texts) : parseNid texts (.str "1") = .ok 1 := by
  have stripped : strip "1" = "1" := by decide
  have lowered : texts.lower "1" = "1" := (standard.lower _ (by decide)).trans (by decide)
  have number : nidNumber texts "1" = .ok 1 := by
    unfold nidNumber
    rw [lowered, if_neg (by decide), standard.parseInt, Option.elim_some]
  unfold parseNid
  dsimp only [ValueTexts.toText]
  rw [stripped, if_neg (by decide), number]
  rfl

theorem oneSymbol_records (standard : StandardTexts texts) (format : NidFormat) :
    loadRecords texts path format (textBytes (oneSymbolText format)) = .ok [oneSymbolRecord] := by
  cases format with
  | json =>
    have read : readText (textBytes (oneSymbolText .json)) = some (oneSymbolText .json) := by decide +kernel
    rw [loadJson_of read standard.oneSymbol rfl]
    have kind := normalizeKind_fun standard
    simp [jsonRecords, symbolFromMapping, Fields.getOr, Dict.get?, ValueTexts.toText, kind, parseNid, raiseIf, oneSymbolRecord]
  | csv =>
    have read : readSignedText (textBytes (oneSymbolText .csv)) = some (oneSymbolText .csv) := by decide
    have split : csvReader (oneSymbolText .csv) = [.ok ["L", "fun", "1", "n"]] := rfl
    have header : skipsRow texts 1 ["L", "fun", "1", "n"] = false := by
      have first : texts.lower (strip "L") = "l" := (standard.lower _ (by decide)).trans (by decide)
      have third : texts.lower (strip "1") = "1" := (standard.lower _ (by decide)).trans (by decide)
      have headerless : looksLikeCsvHeader texts ["L", "fun", "1", "n"] = false := by
        simp only [looksLikeCsvHeader, List.getElem?_cons_succ, List.getElem?_cons_zero, Option.map_some, first, third]
        decide
      unfold skipsRow
      rw [headerless]
      decide
    have record : csvRecord texts path 1 ["L", "fun", "1", "n"] = .ok oneSymbolRecord := by
      unfold csvRecord
      dsimp only
      rw [normalizeKind_fun standard, ok_bind, parseNid_one standard]
      decide
    rw [loadCsv_of read split]
    unfold csvRecords
    rw [ok_bind, header, if_neg Bool.false_ne_true, record]
    rfl

theorem idleFile_addFile (standard : StandardTexts texts) (supported : formatOf texts name ≠ none) (database : NidDatabase) :
    database.addFile texts (idleFile name) = .ok database := by
  obtain ⟨format, known⟩ := Option.ne_none_iff_exists'.mp supported
  unfold NidDatabase.addFile idleFile
  rw [fileRecords_supported known, noSymbols_records standard]
  rfl

theorem idleFiles_add (standard : StandardTexts texts) (supported : ∀ name ∈ names, formatOf texts name ≠ none)
    (database : NidDatabase) : (names.map idleFile).foldlM (NidDatabase.addFile texts) database = .ok database := by
  induction names with
  | nil => rfl
  | cons name names ih =>
    obtain ⟨first, rest⟩ := List.forall_mem_cons.mp supported
    rw [List.map_cons, List.foldlM_cons, idleFile_addFile standard first]
    exact ih rest

/-- Among idle files, a file is loaded as it is alone. -/
theorem load_among (standard : StandardTexts texts) {front rest : List String} {content : Bytes}
    (supported : ∀ listed ∈ front ++ name :: rest, formatOf texts listed ≠ none) :
    loadNidDatabases texts (front.map idleFile ++ ⟨name, some content⟩ :: rest.map idleFile) =
      loadNidDatabases texts [⟨name, some content⟩] := by
  have before : ∀ listed ∈ front, formatOf texts listed ≠ none :=
    fun listed member => supported listed (List.mem_append_left _ member)
  have after : ∀ listed ∈ rest, formatOf texts listed ≠ none :=
    fun listed member => supported listed (List.mem_append_right _ (List.mem_cons_of_mem _ member))
  unfold loadNidDatabases
  rw [List.foldlM_append, idleFiles_add standard before, ok_bind, List.foldlM_cons, List.foldlM_cons]
  cases (NidDatabase.addFile texts ⟨[], []⟩ ⟨name, some content⟩) with
  | error raised => rfl
  | ok database => exact idleFiles_add standard after database

theorem load_single {format : NidFormat} {content : Bytes} (known : formatOf texts name = some format) :
    (loadNidDatabases texts [⟨name, some content⟩]) = (do
      let records ← loadRecords texts name format content
      (records.map (·.symbol (pathName name))).foldlM (NidDatabase.add texts) ⟨[], []⟩) := by
  unfold loadNidDatabases
  rw [List.foldlM_cons]
  simp only [List.foldlM_nil, bind_pure]
  unfold NidDatabase.addFile
  rw [fileRecords_supported known]

/-- A list of two brackets is an empty table as JSON, and no table as CSV. -/
theorem brackets_load (standard : StandardTexts texts) {format : NidFormat} (known : formatOf texts name = some format) :
    (loadNidDatabases texts [⟨name, some (textBytes "[]")⟩]).isOk = decide (format = .json) := by
  rw [load_single known]
  cases format with
  | json =>
    have read : readText (textBytes "[]") = some "[]" := by decide
    rw [loadJson_of read standard.emptyList rfl]
    rfl
  | csv =>
    have read : readSignedText (textBytes "[]") = some "[]" := by decide
    have split : csvReader "[]" = [.ok ["[]"]] := rfl
    have header : skipsRow texts 1 ["[]"] = false := by
      have lowered : texts.lower (strip "[]") = "[]" := (standard.lower _ (by decide)).trans (by decide)
      have headerless : looksLikeCsvHeader texts ["[]"] = false := by
        simp only [looksLikeCsvHeader, lowered, List.getElem?_nil, Option.map_none, Bool.or_eq_false_iff]
        exact ⟨by decide, decide_eq_false (by simp)⟩
      unfold skipsRow
      rw [headerless]
      decide
    rw [loadCsv_of read split]
    unfold csvRecords
    rw [ok_bind, header, if_neg Bool.false_ne_true]
    rfl

/-- The symbol of a file without sources has the name of the file for one. -/
theorem oneSymbol_load (standard : StandardTexts texts) {format : NidFormat} (known : formatOf texts name = some format) :
    ∃ database, loadNidDatabases texts [⟨name, some (textBytes (oneSymbolText format))⟩] = .ok database ∧
      database.lookup texts "L" (.int 1) "fun" = .ok (some ⟨"L", 1, "n", .function, defaultSource name⟩) := by
  rw [load_single known, oneSymbol_records standard]
  have library : strip "L" = "L" := by decide
  have symbol : strip "n" = "n" := by decide
  refine ⟨⟨[(("L", .function, 1), ⟨"L", 1, "n", .function, defaultSource name⟩)], []⟩, ?_, ?_⟩
  · simp [NidRecord.symbol, oneSymbolRecord, NidDatabase.add, library, symbol, raiseIf, Dict.get?, Dict.set, defaultSource]
  · unfold NidDatabase.lookup
    rw [normalizeKind_fun standard]
    simp [parseNid, raiseIf, NidDatabase.resolve, library, Dict.get?]

theorem LoadsAgree.congr {files again others otherAgain : List NidFile}
    (agree : LoadsAgree texts files others) (same : loadNidDatabases texts files = loadNidDatabases texts again)
    (otherSame : loadNidDatabases texts others = loadNidDatabases texts otherAgain) : LoadsAgree texts again otherAgain := by
  obtain ⟨succeed, warnings, symbols⟩ := agree
  rw [same, otherSame] at succeed warnings symbols
  exact ⟨succeed, warnings, symbols⟩

/-- Two names under which the same bytes always lead to the same symbols are alike. -/
theorem nameAlike_of_agree (standard : StandardTexts texts) (known : formatOf texts name ≠ none)
    (otherKnown : formatOf texts other ≠ none)
    (agree : ∀ content, LoadsAgree texts [⟨name, some content⟩] [⟨other, some content⟩]) : NameAlike texts name other := by
  obtain ⟨format, known⟩ := Option.ne_none_iff_exists'.mp known
  obtain ⟨otherFormat, otherKnown⟩ := Option.ne_none_iff_exists'.mp otherKnown
  have formats : format = otherFormat := by
    have succeed := (agree (textBytes "[]")).succeed
    rw [brackets_load standard known, brackets_load standard otherKnown] at succeed
    cases format <;> cases otherFormat <;> first | rfl | cases succeed
  subst formats
  obtain ⟨database, loaded, found⟩ := oneSymbol_load standard known
  obtain ⟨otherDatabase, otherLoaded, otherFound⟩ := oneSymbol_load standard otherKnown
  have same := (agree (textBytes (oneSymbolText format))).symbols loaded otherLoaded "L" (.int 1) "fun"
  rw [found, otherFound] at same
  have symbols := Option.some.inj (Except.ok.inj same)
  have sources : defaultSource name = defaultSource other := (NidSymbol.mk.inj symbols).2.2.2.2
  exact ⟨known.trans otherKnown.symm, sources⟩

end Probes

section Covering
variable {tools : AnalysisTools} {texts : NidTexts} {names others : List String}

/-- What is put in the place of two files with the names of a pair. -/
abbrev Probe := (String × String) × Bytes

def leftFile (probe : Probe) : NidFile := ⟨probe.1.1, some probe.2⟩

def rightFile (probe : Probe) : NidFile := ⟨probe.1.2, some probe.2⟩

def idleProbe (pair : String × String) : Probe := (pair, textBytes noSymbolsText)

/-- Files with equal contents have equal keys. -/
theorem KeyCovers.probes {probes : List Probe} (covers : KeyCovers tools texts names others)
    (left : probes.map (·.1.1) = names) (right : probes.map (·.1.2) = others) :
    LoadsAgree texts (probes.map leftFile) (probes.map rightFile) := by
  have payloads : keyPayload tools (gamePreparation "a" "1").manifest ⟨probes.map leftFile, [], 0⟩ =
      keyPayload tools (gamePreparation "a" "1").manifest ⟨probes.map rightFile, [], 0⟩ := by
    unfold keyPayload
    dsimp only
    rw [List.filterMap_map, List.filterMap_map]
    rfl
  have leftReadable : ∀ file ∈ probes.map leftFile, file.data.isSome := by
    intro file member
    obtain ⟨probe, _, rfl⟩ := List.mem_map.mp member
    rfl
  have rightReadable : ∀ file ∈ probes.map rightFile, file.data.isSome := by
    intro file member
    obtain ⟨probe, _, rfl⟩ := List.mem_map.mp member
    rfl
  refine covers (gamePreparation "a" "1").manifest [] 0 _ _ ?_ ?_ ⟨fun _ => payloads, ?_⟩
    ⟨_, analysisKey_readable leftReadable, ?_⟩
  · rw [List.map_map, ← left]
    rfl
  · rw [List.map_map, ← right]
    rfl
  · intro pair member data found otherData otherFound _
    rw [List.zip_map'] at member
    obtain ⟨probe, _, rfl⟩ := List.mem_map.mp member
    exact Option.some.inj (found.symm.trans otherFound)
  · rw [payloads]
    exact analysisKey_readable rightReadable

/-- Two names at the same place are covered on their own. -/
theorem KeyCovers.single (standard : StandardTexts texts) (covers : KeyCovers tools texts names others)
    (sameLength : names.length = others.length) (supported : ¬Unsupported texts names)
    (otherSupported : ¬Unsupported texts others) {pair : String × String} (member : pair ∈ names.zip others)
    (content : Bytes) : LoadsAgree texts [⟨pair.1, some content⟩] [⟨pair.2, some content⟩] := by
  obtain ⟨front, rest, split⟩ := List.append_of_mem member
  have left : names = front.map Prod.fst ++ pair.1 :: rest.map Prod.fst := by
    rw [← List.map_cons, ← List.map_append, ← split, List.map_fst_zip sameLength.le]
  have right : others = front.map Prod.snd ++ pair.2 :: rest.map Prod.snd := by
    rw [← List.map_cons, ← List.map_append, ← split, List.map_snd_zip sameLength.ge]
  have agree := @KeyCovers.probes _ _ _ _ (front.map idleProbe ++ (pair, content) :: rest.map idleProbe) covers
    (by rw [left, List.map_append, List.map_cons, List.map_map, List.map_map]; rfl)
    (by rw [right, List.map_append, List.map_cons, List.map_map, List.map_map]; rfl)
  simp only [Unsupported, not_exists, not_and] at supported otherSupported
  have leftFiles : (front.map idleProbe ++ (pair, content) :: rest.map idleProbe).map leftFile =
      (front.map Prod.fst).map idleFile ++ ⟨pair.1, some content⟩ :: (rest.map Prod.fst).map idleFile := by
    simp only [List.map_append, List.map_cons, List.map_map]
    rfl
  have rightFiles : (front.map idleProbe ++ (pair, content) :: rest.map idleProbe).map rightFile =
      (front.map Prod.snd).map idleFile ++ ⟨pair.2, some content⟩ :: (rest.map Prod.snd).map idleFile := by
    simp only [List.map_append, List.map_cons, List.map_map]
    rfl
  rw [leftFiles, rightFiles] at agree
  exact agree.congr (load_among standard (left ▸ supported)) (load_among standard (right ▸ otherSupported))

/-- A list of names that can all be loaded does not agree with one that has a name that cannot. -/
theorem idle_disagree (standard : StandardTexts texts) (supported : ¬Unsupported texts names)
    (unsupported : Unsupported texts others) :
    (loadNidDatabases texts (names.map idleFile)).isOk ≠ (loadNidDatabases texts (others.map idleFile)).isOk := by
  simp only [Unsupported, not_exists, not_and] at supported
  have loaded : loadNidDatabases texts (names.map idleFile) = .ok ⟨[], []⟩ := idleFiles_add standard supported ⟨[], []⟩
  have failed : (loadNidDatabases texts (others.map idleFile)).toOption = none := by
    apply load_unsupported
    rw [List.map_map]
    exact (List.map_id others).symm ▸ unsupported
  rw [loaded]
  cases other : loadNidDatabases texts (others.map idleFile) with
  | error raised => exact Bool.noConfusion
  | ok database =>
    rw [other] at failed
    cases failed

theorem KeyCovers.unsupported (standard : StandardTexts texts) (covers : KeyCovers tools texts names others)
    (sameLength : names.length = others.length) : Unsupported texts names ↔ Unsupported texts others := by
  have agree := @KeyCovers.probes _ _ _ _ ((names.zip others).map idleProbe) covers
    (by rw [List.map_map]; exact List.map_fst_zip sameLength.le)
    (by rw [List.map_map]; exact List.map_snd_zip sameLength.ge)
  have leftFiles : ((names.zip others).map idleProbe).map leftFile = names.map idleFile := by
    conv_rhs => rw [← List.map_fst_zip sameLength.le]
    simp only [List.map_map]
    rfl
  have rightFiles : ((names.zip others).map idleProbe).map rightFile = others.map idleFile := by
    conv_rhs => rw [← List.map_snd_zip sameLength.ge]
    simp only [List.map_map]
    rfl
  rw [leftFiles, rightFiles] at agree
  constructor
  · intro unsupported
    by_contra supported
    exact idle_disagree standard supported unsupported agree.succeed.symm
  · intro unsupported
    by_contra supported
    exact idle_disagree standard supported unsupported agree.succeed

/-- The key of an analysis covers the effect of all databases under two lists of names exactly where the names are
alike. Under other names it covers files that give all the sources that the names would. -/
theorem keyCovers_iff (standard : StandardTexts texts) :
    (KeyCovers tools texts names others ↔ NamesAlike texts names others) ∧
      ∀ (manifest : GameWorkspaceManifest) (config other : AnalysisConfig), NoCollision tools manifest config other →
        SameKey tools manifest config other → List.Forall₂ (FileAlike texts) config.nidDatabases other.nidDatabases →
          LoadsAgree texts config.nidDatabases other.nidDatabases := by
  refine ⟨⟨?_, ?_⟩, fun manifest config other free same alike => loadsAgree_of_alike alike (same.contents free)⟩
  · intro covers sameLength
    by_cases unsupported : Unsupported texts names
    · exact Or.inl ⟨unsupported, (covers.unsupported standard sameLength).mp unsupported⟩
    · have otherSupported := fun unknown => unsupported ((covers.unsupported standard sameLength).mpr unknown)
      refine Or.inr (List.forall₂_iff_zip.mpr ⟨sameLength, fun {name other} member => ?_⟩)
      have known : formatOf texts name ≠ none := fun unknown => unsupported ⟨name, (List.of_mem_zip member).1, unknown⟩
      have otherKnown : formatOf texts other ≠ none :=
        fun unknown => otherSupported ⟨other, (List.of_mem_zip member).2, unknown⟩
      exact nameAlike_of_agree standard known otherKnown
        (covers.single standard sameLength unsupported otherSupported member)
  · rintro alike manifest backends bound files otherFiles rfl rfl free same
    have contents := same.contents free
    have sameLength := congrArg List.length contents
    rw [List.length_map, List.length_map] at sameLength
    rcases alike (by rw [List.length_map, List.length_map]; exact sameLength) with ⟨unsupported, other⟩ | names
    · exact LoadsAgree.of_toOption ((load_unsupported unsupported).trans (load_unsupported other).symm)
    · rw [List.forall₂_map_left_iff, List.forall₂_map_right_iff] at names
      exact loadsAgree_of_alike (names.imp fun _ _ pair => ⟨pair.1, Or.inl pair.2⟩) contents

end Covering

/-- Texts in ASCII, with the JSON of the texts above. -/
def asciiTexts : NidTexts where
  strOf
    | .int value => toString value
    | _ => ""
  parseInt text :=
    if text ≠ "" ∧ text.toList.all Char.isDigit then
      some (text.toList.foldl (fun value c => value * 10 + (c.toNat - 48 : Nat)) 0)
    else none
  reprText text := "'" ++ text ++ "'"
  lower := foldAscii
  casefold := foldAscii
  parseHex _ := none
  jsonLoads text :=
    if text = "[]" then some (.arr [])
    else if text = noSymbolsText then some (.obj [("library", .int 0), ("symbols", .arr [])])
    else if text = oneSymbolText .json then
      some (.arr [.obj [("library", .str "L"), ("kind", .str "fun"), ("nid", .int 1), ("name", .str "n")]])
    else none

theorem asciiTexts_standard : StandardTexts asciiTexts where
  lower _ _ := rfl
  parseInt := by decide
  emptyList := rfl
  noSymbols := rfl
  oneSymbol := rfl

def sourcedFile (name : String) : NidFile := ⟨name, some (textBytes "L,fun,1,n,pspsdk")⟩

/-- Databases that have moved to other directories, and a renamed one with sources of its own. -/
theorem movedDatabases_covered :
    KeyCovers plainAnalysisTools asciiTexts ["old/a.json", "b.csv"] ["new/a.json", "old/b.csv"] ∧
      LoadsAgree asciiTexts [sourcedFile "a.csv"] [sourcedFile "b.txt"] := by
  constructor
  · refine (keyCovers_iff asciiTexts_standard).1.mpr fun _ => Or.inr ?_
    exact .cons ⟨by decide +kernel, by decide +kernel⟩ (.cons ⟨by decide +kernel, by decide +kernel⟩ .nil)
  · have free : NoCollision plainAnalysisTools (gamePreparation "a" "1").manifest ⟨[sourcedFile "a.csv"], [], 0⟩
        ⟨[sourcedFile "b.txt"], [], 0⟩ := by
      refine ⟨fun _ => rfl, fun pair member data found otherData otherFound _ => ?_⟩
      cases List.mem_singleton.mp member
      exact Option.some.inj (found.symm.trans otherFound)
    have same : SameKey plainAnalysisTools (gamePreparation "a" "1").manifest ⟨[sourcedFile "a.csv"], [], 0⟩
        ⟨[sourcedFile "b.txt"], [], 0⟩ := ⟨_, rfl, rfl⟩
    have given : SourcesGiven asciiTexts (sourcedFile "a.csv") := by
      have read : fileRecords asciiTexts (sourcedFile "a.csv") = .ok [⟨"L", 1, "n", .function, some "pspsdk"⟩] := by
        decide +kernel
      intro records found record member
      rw [read] at found
      cases found
      cases List.mem_singleton.mp member
      rfl
    exact (@keyCovers_iff plainAnalysisTools _ [] [] asciiTexts_standard).2 _ _ _ free same
      (.cons ⟨by decide, Or.inr given⟩ .nil)

/-- A database with one symbol, under another name. -/
theorem renamedDatabase_differs : ¬∀ (tools : AnalysisTools) (texts : NidTexts) (names others : List String),
    StandardTexts texts → KeyCovers tools texts names others := by
  intro claimed
  have covers := claimed plainAnalysisTools asciiTexts ["a.json"] ["b.json"] asciiTexts_standard
  have agree := @KeyCovers.probes _ _ _ _ [(("a.json", "b.json"), textBytes (oneSymbolText .json))] covers rfl rfl
  have symbol : ∀ name ∈ ["a.json", "b.json"],
      loadNidDatabases asciiTexts [⟨name, some (textBytes (oneSymbolText .json))⟩] =
        .ok ⟨[(("L", .function, 1), ⟨"L", 1, "n", .function, name⟩)], []⟩ := by decide +kernel
  have same := agree.symbols (symbol "a.json" (by decide)) (symbol "b.json" (by decide)) "L" (.int 1) "fun"
  exact absurd same (by decide +kernel)

end PspDisasm.Linker
