import PspDisasm.Linker.Propagation

namespace PspDisasm.Linker
open Foundations

/-- The names of an address in a disassembly: for a function those of its functions, then those of its symbols. Names that
the disassembler made up, and labels, are no names. -/
def namesAt (unit : ModuleAnalysisInput) (kind : NidKind) (address : Int) : List String :=
  match unit.disassembly with
  | none => []
  | some disassembly =>
    let functions := disassembly.functions.filter fun function =>
      function.address = address && !isAutogeneratedName function.name
    let symbols := disassembly.symbols.filter fun symbol =>
      symbol.address = address && symbol.kind ∉ ["label", "branchlabel"] && !isAutogeneratedName symbol.name
    (if kind = .function then functions.map (·.name) else []) ++ symbols.map (·.name)

/-- The name and source of a link that the database has no name for. -/
def undatabasedName (exporter : Exporter) (listed : LibraryEntry) : String × String :=
  match (namesAt exporter.owner.unit listed.kind exporter.listed.entry.address).head? with
  | some name => (name, s!"module:{exporter.owner.label}")
  | none => (fallbackName listed.library listed.entry.nid, "unresolved")

/-- The entry that the linker looks at for a given one: the last with its library, nid and address, of either kind. -/
def lastLike (owner : LabelledUnit) (direction : Direction) (listed : LibraryEntry) : LibraryEntry :=
  ((iterEntries owner.unit.model direction).filter fun other =>
    other.library = listed.library ∧ other.entry.nid = listed.entry.nid ∧
      other.entry.address = listed.entry.address).getLast?.getD listed

section Names
variable (casefold reprText : String → String) (database : NidDatabase)

/-- The name and source of a symbol of the database that is more than a placeholder. -/
def databaseName (listed : LibraryEntry) : Option (String × String) :=
  ((database.resolve listed.library listed.entry.nid listed.kind).filter fun symbol =>
    !isPlaceholderName casefold listed.library listed.entry.nid symbol.name).map fun symbol => (symbol.name, symbol.source)

/-- A source called `unresolved` is taken for the lack of a symbol. -/
def sourcedName (listed : LibraryEntry) : Option (String × String) :=
  (databaseName casefold database listed).filter fun name => name.2 ≠ "unresolved"

/-- The database's name for the entries that the linker looks at, on the importing side or else on the exporting one. -/
def seenName (importing : LabelledUnit) (listed : LibraryEntry) (exporter : Exporter) : Option (String × String) :=
  (sourcedName casefold database (lastLike importing .import listed)).or
    (sourcedName casefold database (lastLike exporter.owner .export exporter.listed))

variable (units : List ModuleAnalysisInput)

/-- An import of a module that exactly one other module exports. -/
structure Linked (importing : LabelledUnit) (listed : LibraryEntry) (exporter : Exporter) : Prop where
  member : importing ∈ labelled units
  imported : listed ∈ iterEntries importing.unit.model .import
  exporters : exportersOf (labelled units) importing listed = [exporter]

/-- Every link has the database's name for its import, or else the exporter's, or else the fallback name. -/
def NamesFollow : Prop :=
  ∀ link ∈ (linkModules casefold reprText database units).links, ∀ importing listed exporter,
    Linked units importing listed exporter → linkImport casefold database (labelled units) importing listed = .linked link →
      (link.name, link.nameSource) = (databaseName casefold database listed).getD (undatabasedName exporter listed)

/-- Where the linker looks, the database has the name that it has for the import, or the difference does not show: a link
without a name from the database comes to be called the same. -/
def NamesSeen : Prop :=
  ∀ importing listed exporter, Linked units importing listed exporter →
    seenName casefold database importing listed exporter = databaseName casefold database listed ∨
    seenName casefold database importing listed exporter = none ∧
      databaseName casefold database listed = some (undatabasedName exporter listed) ∨
    databaseName casefold database listed = none ∧
      seenName casefold database importing listed exporter = some (undatabasedName exporter listed)

end Names

section Links
variable {casefold reprText : String → String} {database : NidDatabase} {units : List ModuleAnalysisInput}
variable {importing : LabelledUnit} {listed : LibraryEntry} {exporter : Exporter} {link : ModuleLink}

theorem localName_eq (unit : ModuleAnalysisInput) (kind : NidKind) (address : Int) :
    localName unit kind address = (namesAt unit kind address).head? := by
  rw [localName, namesAt]
  cases unit.disassembly with
  | none => rfl
  | some disassembly =>
    dsimp only
    rw [List.head?_append, List.head?_map, List.head?_filter]
    cases kind with
    | function =>
      rw [if_pos rfl, List.head?_map, List.head?_filter]
      rfl
    | «variable» => rfl

theorem resolution_name (module : String) (direction : Direction) :
    strongName casefold (some (resolution database module direction listed)) = sourcedName casefold database listed := by
  rw [strongName, sourcedName, databaseName, resolution]
  cases database.resolve listed.library listed.entry.nid listed.kind with
  | none => rfl
  | some symbol =>
    by_cases placeholder : isPlaceholderName casefold listed.library listed.entry.nid symbol.name = true
    · simp [isStrongResolution, Option.filter, placeholder]
    · by_cases unresolved : symbol.source = "unresolved"
      · simp [isStrongResolution, Option.filter, placeholder, unresolved]
      · simp [isStrongResolution, Option.filter, placeholder, unresolved]

/-- The resolution that the linker has kept for an entry is that of the last entry like it. -/
theorem keptResolution_name {owner : LabelledUnit} {direction : Direction}
    (member : listed ∈ iterEntries owner.unit.model direction) :
    strongName casefold (keptResolution database owner direction listed) =
      sourcedName casefold database (lastLike owner direction listed) := by
  have like : listed ∈ (iterEntries owner.unit.model direction).filter fun other =>
      other.library = listed.library ∧ other.entry.nid = listed.entry.nid ∧ other.entry.address = listed.entry.address :=
    List.mem_filter.mpr ⟨member, decide_eq_true ⟨rfl, rfl, rfl⟩⟩
  rw [keptResolution, lastLike]
  cases last : ((iterEntries owner.unit.model direction).filter fun other =>
      other.library = listed.library ∧ other.entry.nid = listed.entry.nid ∧
        other.entry.address = listed.entry.address).getLast? with
  | none =>
    rw [List.getLast?_eq_none_iff.mp last] at like
    cases like
  | some entry => exact resolution_name owner.label direction

theorem mem_exportersOf {owners : List LabelledUnit} : exporter ∈ exportersOf owners importing listed ↔
    exporter.owner ∈ owners ∧ exporter.listed ∈ iterEntries exporter.owner.unit.model .export ∧
      exporter.listed.library = listed.library ∧ exporter.listed.kind = listed.kind ∧
      exporter.listed.entry.nid = listed.entry.nid ∧ exporter.owner.index ≠ importing.index := by
  rw [exportersOf, List.mem_filter, decide_eq_true_iff, List.mem_flatMap]
  constructor
  · rintro ⟨⟨owner, inOwners, made⟩, fields⟩
    obtain ⟨entry, inEntries, rfl⟩ := List.mem_map.mp made
    exact ⟨inOwners, inEntries, fields⟩
  · rintro ⟨inOwners, inEntries, fields⟩
    exact ⟨⟨exporter.owner, inOwners, List.mem_map.mpr ⟨exporter.listed, inEntries, rfl⟩⟩, fields⟩

/-- What the linker calls a link: the name that it sees in the database, or the name of a link without one. -/
theorem linkImport_name (linked : Linked units importing listed exporter)
    (made : linkImport casefold database (labelled units) importing listed = .linked link) :
    (link.name, link.nameSource) =
      (seenName casefold database importing listed exporter).getD (undatabasedName exporter listed) := by
  have exported := (mem_exportersOf.mp (linked.exporters ▸ List.mem_singleton_self exporter)).2.1
  rw [linkImport, linked.exporters] at made
  dsimp only at made
  rw [keptResolution_name linked.imported, keptResolution_name exported, ← seenName, localName_eq] at made
  cases made
  rfl

theorem linkImport_linked (linked : Linked units importing listed exporter) :
    ∃ link, linkImport casefold database (labelled units) importing listed = .linked link := by
  rw [linkImport, linked.exporters]
  exact ⟨_, rfl⟩

theorem mem_links : link ∈ (linkModules casefold reprText database units).links ↔
    ∃ importing ∈ labelled units, ∃ listed ∈ iterEntries importing.unit.model .import,
      linkImport casefold database (labelled units) importing listed = .linked link := by
  show link ∈ (((labelled units).flatMap (unitOutcomes casefold database (labelled units))).filterMap
    ImportOutcome.link?).insertionSort _ ↔ _
  rw [List.mem_insertionSort, List.mem_filterMap]
  constructor
  · rintro ⟨outcome, inOutcomes, found⟩
    obtain ⟨importing, inUnits, made⟩ := List.mem_flatMap.mp inOutcomes
    obtain ⟨listed, inImports, rfl⟩ := List.mem_map.mp made
    refine ⟨importing, inUnits, listed, inImports, ?_⟩
    cases outcome : linkImport casefold database (labelled units) importing listed with
    | linked other =>
      rw [outcome] at found
      cases found
      rfl
    | unlinked =>
      rw [outcome] at found
      cases found
    | ambiguous warning =>
      rw [outcome] at found
      cases found
  · rintro ⟨importing, inUnits, listed, inImports, made⟩
    exact ⟨.linked link, List.mem_flatMap.mpr ⟨importing, inUnits, List.mem_map.mpr ⟨listed, inImports, made⟩⟩, rfl⟩

/-- Two optional names come to the same with a default, just when they are the same or one is the default itself. -/
theorem getD_eq_getD {α : Type} {first second : Option α} {default : α} : first.getD default = second.getD default ↔
    first = second ∨ first = none ∧ second = some default ∨ second = none ∧ first = some default := by
  cases first with
  | none =>
    cases second with
    | none => simp
    | some other => simp [eq_comm]
  | some name =>
    cases second with
    | none => simp
    | some other => simp

/-- The links have the database's names just when the linker sees these names where it looks. -/
theorem linkModules_names_iff (casefold reprText : String → String) (database : NidDatabase)
    (units : List ModuleAnalysisInput) :
    NamesFollow casefold reprText database units ↔ NamesSeen casefold database units := by
  constructor
  · intro follow importing listed exporter linked
    obtain ⟨link, made⟩ := @linkImport_linked casefold database _ _ _ _ linked
    have inLinks : link ∈ (linkModules casefold reprText database units).links :=
      mem_links.mpr ⟨importing, linked.member, listed, linked.imported, made⟩
    have named := follow link inLinks importing listed exporter linked made
    rw [linkImport_name linked made] at named
    exact getD_eq_getD.mp named
  · intro seen link _ importing listed exporter linked made
    rw [linkImport_name linked made]
    exact getD_eq_getD.mpr (seen importing listed exporter linked)

theorem databaseName_congr {other : LibraryEntry} (library : other.library = listed.library)
    (nid : other.entry.nid = listed.entry.nid) (kind : other.kind = listed.kind) :
    databaseName casefold database other = databaseName casefold database listed := by
  rw [databaseName, databaseName, library, nid, kind]

theorem lastLike_like (owner : LabelledUnit) (direction : Direction) (listed : LibraryEntry) :
    (lastLike owner direction listed).library = listed.library ∧
      (lastLike owner direction listed).entry.nid = listed.entry.nid := by
  rw [lastLike]
  cases last : ((iterEntries owner.unit.model direction).filter fun other =>
      other.library = listed.library ∧ other.entry.nid = listed.entry.nid ∧
        other.entry.address = listed.entry.address).getLast? with
  | none => exact ⟨rfl, rfl⟩
  | some entry =>
    have like := (List.mem_filter.mp (List.mem_of_getLast? last)).2
    rw [decide_eq_true_iff] at like
    exact ⟨like.1, like.2.1⟩

/-- Where no entry has the library, nid and address of one of the other kind, and no symbol's source is called
`unresolved`, the linker sees what it looks for. -/
theorem NamesSeen.of_unshadowed
    (unshadowed : ∀ owner ∈ labelled units, ∀ direction, ∀ listed ∈ iterEntries owner.unit.model direction,
      (lastLike owner direction listed).kind = listed.kind)
    (sourced : ∀ listed name, databaseName casefold database listed = some name → name.2 ≠ "unresolved") :
    NamesSeen casefold database units := by
  have seen {owner : LabelledUnit} (direction : Direction) {listed : LibraryEntry} (inUnits : owner ∈ labelled units)
      (member : listed ∈ iterEntries owner.unit.model direction) :
      sourcedName casefold database (lastLike owner direction listed) = databaseName casefold database listed := by
    obtain ⟨library, nid⟩ := lastLike_like owner direction listed
    rw [sourcedName, databaseName_congr library nid (unshadowed owner inUnits direction listed member)]
    cases found : databaseName casefold database listed with
    | none => rfl
    | some name => exact Option.filter_some_pos (decide_eq_true (sourced listed name found))
  intro importing listed exporter linked
  obtain ⟨inUnits, exported, library, kind, nid, _⟩ := mem_exportersOf.mp (linked.exporters ▸ List.mem_singleton_self exporter)
  refine .inl ?_
  rw [seenName, seen .import linked.member linked.imported, seen .export inUnits exported, databaseName_congr library nid kind,
    Option.or_self]

end Links

section Samples

/-- A module that lists a function and a variable with one nid at one address. -/
def shadowingImports : List LibraryImport :=
  [⟨"sceSample", 0, 5, 1, 1, 0x8801000, [⟨0x11, 0x8802000, .function, 0x8801100⟩], [⟨0x11, 0x8802000, .variable, 0x8801104⟩]⟩]

def shadowedExports : List LibraryExport :=
  [⟨"sceSample", 0, 4, 1, 0, 0x8901000, [⟨0x11, 0x8902000, .function, 0x8901100⟩], []⟩]

def shadowedModules : List ModuleAnalysisInput :=
  [⟨{ importingModel "Game" "game.prx" "sceSample" with imports := shadowingImports }, none⟩,
    ⟨{ importingModel "Kernel" "kernel.prx" "sceSample" with imports := [], exports := shadowedExports }, none⟩]

def shadowingDatabase : NidDatabase where
  symbols := [(("sceSample", .function, 0x11), ⟨"sceSample", 0x11, "sceSampleCall", .function, "nids.csv"⟩),
    (("sceSample", .variable, 0x11), ⟨"sceSample", 0x11, "sceSampleData", .variable, "nids.csv"⟩)]
  warnings := []

def shadowedImport : LibraryEntry := ⟨"sceSample", .function, ⟨0x11, 0x8802000, .function, 0x8801100⟩⟩

theorem shadowedModules_labelled : 0 < (labelled shadowedModules).length := by decide

def shadowedImporter : LabelledUnit := (labelled shadowedModules).get ⟨0, shadowedModules_labelled⟩

/-- The link of the function has the name that the database has for the variable. -/
theorem shadowedModules_misnamed : ¬NamesFollow id id shadowingDatabase shadowedModules := by
  intro follow
  obtain ⟨exporter, exporters⟩ :
      ∃ exporter, exportersOf (labelled shadowedModules) shadowedImporter shadowedImport = [exporter] :=
    List.length_eq_one_iff.mp (by decide)
  have linked : Linked shadowedModules shadowedImporter shadowedImport exporter :=
    ⟨List.get_mem _ _, by decide, exporters⟩
  obtain ⟨link, made⟩ := @linkImport_linked id shadowingDatabase _ _ _ _ linked
  have called := follow link (mem_links.mpr ⟨_, linked.member, _, linked.imported, made⟩) shadowedImporter shadowedImport exporter linked made
  have seen : sourcedName id shadowingDatabase (lastLike shadowedImporter .import shadowedImport) =
      some ("sceSampleData", "nids.csv") := by decide
  have known : databaseName id shadowingDatabase shadowedImport = some ("sceSampleCall", "nids.csv") := by decide
  rw [linkImport_name linked made, seenName, seen, known, Option.some_or, Option.getD_some, Option.getD_some] at called
  exact absurd called (by decide)

end Samples

end PspDisasm.Linker
