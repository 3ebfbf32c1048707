import PspDisasm.Resources.ExtractionLedger

namespace PspDisasm
open Foundations

/-- The file of a resource is not where the extraction writes. -/
def DiscResourceRecord.Apart (resource : DiscResourceRecord) : Prop :=
  ¬embeddedRoot <+: posixParts resource.outputPath ∧ ¬containersRoot <+: posixParts resource.outputPath

/-- What a ledger of a resource says is true of the file of the resource. -/
structure Vouched (files : OutputFiles) (resource : DiscResourceRecord) (ledger : List Extraction) : Prop where
  each : ∀ item ∈ ledger,
    (∃ data found, files.get? (posixParts resource.outputPath) = some data ∧ CutOut resource data found item) ∨
      item.embedded = none ∧ containersRoot <+: item.path ∧
        ∀ record ∈ item.entry, Entered files resource (posixParts resource.outputPath) item record
  within : ((ledger.filterMap (·.entry)).map (·.size)).sum ≤ resource.size

section Turns
variable {tools : ResourceTools} {parsers : List ResourceContainerParser} {files : OutputFiles} {resource : DiscResourceRecord}
  {run next : ResourceRun} {ledger : List Extraction}

theorem Vouched.roots (vouched : Vouched files resource ledger) :
    ∀ item ∈ ledger, embeddedRoot <+: item.path ∨ containersRoot <+: item.path := by
  intro item member
  rcases vouched.each item member with ⟨data, found, _, cut⟩ | ⟨_, below, _⟩
  · rw [cut.path, List.append_assoc]
    exact Or.inl (List.prefix_append _ _)
  · exact Or.inr below

theorem Entered.congr {other : OutputFiles} {source : WorkspacePath} {item : Extraction} {record : ContainerEntryRecord}
    (same : other.get? source = files.get? source) (entered : Entered other resource source item record) :
    Entered files resource source item record :=
  ⟨entered.parent, entered.place, entered.path, entered.range, same ▸ entered.contents, entered.detected⟩

/-- A ledger is true of other files that hold the same resource. -/
theorem Vouched.congr {other : OutputFiles} (same : other.get? (posixParts resource.outputPath) = files.get? (posixParts resource.outputPath))
    (vouched : Vouched other resource ledger) : Vouched files resource ledger := by
  refine ⟨fun item member => ?_, vouched.within⟩
  rcases vouched.each item member with ⟨data, found, held, cut⟩ | ⟨none, below, entered⟩
  · exact Or.inl ⟨data, found, same ▸ held, cut⟩
  · exact Or.inr ⟨none, below, fun record kept => (entered record kept).congr same⟩

theorem filterMap_none {α β : Type} {f : α → Option β} {items : List α} (none : ∀ item ∈ items, f item = none) :
    items.filterMap f = [] := List.filterMap_eq_nil_iff.mpr none

/-- A turn writes what its ledger says, and keeps the records of it. -/
theorem analyzeResource_ledger (apart : resource.Apart)
    (turn : analyzeResource tools parsers run (resource, posixParts resource.outputPath) = .ok next) :
    ∃ ledger more, Vouched run.files resource ledger ∧ next.files = (writesOf ledger).applyTo run.files ∧
      next.entries = run.entries ++ ledger.filterMap (·.entry) ∧ next.embedded = run.embedded ++ more ∧
      (extractedOnly more).Perm (ledger.filterMap (·.embedded)) := by
  obtain ⟨⟨final, report⟩, reported, turn⟩ := bind_ok.mp turn
  obtain ⟨embedded, extracted, reported⟩ := bind_ok.mp reported
  obtain ⟨⟨profile, container⟩, examined, reported⟩ := bind_ok.mp reported
  cases reported
  cases turn
  obtain ⟨data, cuts, cutLedger, present⟩ := extractEmbedded_ledger rfl extracted
  obtain ⟨entries, entryLedger⟩ := examineCandidate_ledger apart.2 examined
  have unread := cutLedger.unread apart.1
  have noEntry : cuts.filterMap (·.entry) = [] := filterMap_none fun item member =>
    let ⟨_, cut⟩ := cutLedger.cutOut item member
    cut.entry
  have noEmbedded : entries.filterMap (·.embedded) = [] := filterMap_none entryLedger.other
  refine ⟨cuts ++ entries, embedded.records, ⟨?_, ?_⟩, ?_, ?_, rfl, ?_⟩
  · refine List.forall_mem_append.mpr ⟨fun item member => ?_, fun item member => ?_⟩
    · obtain ⟨found, cut⟩ := cutLedger.cutOut item member
      exact Or.inl ⟨data, found, present (List.ne_nil_of_mem member), cut⟩
    · refine Or.inr ⟨entryLedger.other item member, entryLedger.below item member, fun record kept => ?_⟩
      exact (entryLedger.entered item member record kept).congr unread
  · rw [List.filterMap_append, noEntry, List.nil_append, ← entryLedger.recorded]
    exact entryLedger.within
  · rw [writesOf_append, WriteLog.applyTo_append, ← cutLedger.written]
    exact entryLedger.written
  · rw [List.filterMap_append, noEntry, List.nil_append, ← entryLedger.recorded]
    rfl
  · rw [List.filterMap_append, noEmbedded, List.append_nil]
    exact cutLedger.recorded

/-- An account of a run: the resources that it has gone through, each with its ledger. -/
structure RunAccount (files : OutputFiles) (resources : List DiscResourceRecord) (run : ResourceRun)
    (account : List (DiscResourceRecord × List Extraction)) : Prop where
  covers : account.map Prod.fst = resources
  vouched : ∀ entry ∈ account, Vouched files entry.1 entry.2
  written : run.files = (writesOf (account.flatMap Prod.snd)).applyTo files
  entries : run.entries = (account.flatMap Prod.snd).filterMap (·.entry)
  embedded : (extractedOnly run.embedded).Perm ((account.flatMap Prod.snd).filterMap (·.embedded))

section Run
variable {done rest resources : List DiscResourceRecord} {account : List (DiscResourceRecord × List Extraction)} {path : WorkspacePath}

theorem account_roots (vouched : ∀ entry ∈ account, Vouched files entry.1 entry.2) :
    ∀ item ∈ account.flatMap Prod.snd, embeddedRoot <+: item.path ∨ containersRoot <+: item.path := by
  intro item member
  obtain ⟨entry, listed, inside⟩ := List.mem_flatMap.mp member
  exact (vouched entry listed).roots item inside

/-- Files outside of the two trees are left as they are. -/
theorem RunAccount.elsewhere (kept : RunAccount files resources run account) (embedded : ¬embeddedRoot <+: path)
    (containers : ¬containersRoot <+: path) : run.files.get? path = files.get? path := by
  rw [kept.written]
  refine WriteLog.get?_elsewhere ?_
  rintro write member rfl
  obtain ⟨item, listed, rfl⟩ := List.mem_map.mp member
  exact (account_roots kept.vouched item listed).elim embedded containers

theorem RunAccount.turn (kept : RunAccount files done run account) (apart : resource.Apart)
    (turn : analyzeResource tools parsers run (resource, posixParts resource.outputPath) = .ok next) :
    ∃ ledger, RunAccount files (done ++ [resource]) next (account ++ [(resource, ledger)]) := by
  obtain ⟨ledger, more, vouched, written, entries, embedded, recorded⟩ := analyzeResource_ledger apart turn
  have unread := kept.elsewhere apart.1 apart.2
  have flat : (account ++ [(resource, ledger)]).flatMap Prod.snd = account.flatMap Prod.snd ++ ledger := by
    rw [List.flatMap_append, List.flatMap_singleton]
  refine ⟨ledger, ?_, ?_, ?_, ?_, ?_⟩
  · rw [List.map_append, kept.covers]
    rfl
  · exact List.forall_mem_append.mpr ⟨kept.vouched, List.forall_mem_singleton.mpr (vouched.congr unread)⟩
  · rw [flat, writesOf_append, WriteLog.applyTo_append, ← kept.written, written]
  · rw [flat, List.filterMap_append, ← kept.entries, entries]
  · rw [flat, List.filterMap_append, embedded, extractedOnly, List.filter_append]
    exact kept.embedded.append recorded

theorem RunAccount.whole (kept : RunAccount files done run account) (apart : ∀ resource ∈ rest, resource.Apart)
    (ran : (rest.map fun resource => (resource, posixParts resource.outputPath)).foldlM (analyzeResource tools parsers) run = .ok next) :
    ∃ account, RunAccount files (done ++ rest) next account := by
  induction rest generalizing done run account with
  | nil =>
    cases ran
    rw [List.append_nil]
    exact ⟨account, kept⟩
  | cons resource rest ih =>
    obtain ⟨first, later⟩ := List.forall_mem_cons.mp apart
    rw [List.map_cons, List.foldlM_cons] at ran
    obtain ⟨middle, turn, ran⟩ := bind_ok.mp ran
    obtain ⟨ledger, kept⟩ := kept.turn first turn
    rw [List.append_cons]
    exact ih kept later ran

end Run

end Turns

section Results
variable {tools : ResourceTools} {parsers : List ResourceContainerParser} {sourceName : String} {files final : OutputFiles}
  {resources : List DiscResourceRecord} {analysis : GameResourceAnalysis} {account : List (DiscResourceRecord × List Extraction)}

/-- An account of an analysis, from which its records and its files can be read off. -/
structure AnalysisAccount (files : OutputFiles) (resources : List DiscResourceRecord) (analysis : GameResourceAnalysis)
    (final : OutputFiles) (account : List (DiscResourceRecord × List Extraction)) : Prop where
  covers : (account.map Prod.fst).Perm resources
  vouched : ∀ entry ∈ account, Vouched files entry.1 entry.2
  written : final = (writesOf (account.flatMap Prod.snd)).applyTo files
  entries : analysis.containerEntries.Perm ((account.flatMap Prod.snd).filterMap (·.entry))
  embedded : (extractedOnly analysis.embeddedResources).Perm ((account.flatMap Prod.snd).filterMap (·.embedded))

theorem analyzeGameResources_account (apart : ∀ resource ∈ resources, resource.Apart)
    (ran : analyzeGameResources tools parsers sourceName files resources = .ok (analysis, final)) :
    ∃ account, AnalysisAccount files resources analysis final account := by
  unfold analyzeGameResources at ran
  dsimp only at ran
  obtain ⟨resolved, targets, ran⟩ := bind_ok.mp ran
  obtain ⟨run, walked, made⟩ := bind_ok.mp ran
  cases made
  have ordered := List.perm_insertionSort
    (fun item other : DiscResourceRecord => tools.casefold item.path ≤ tools.casefold other.path) resources
  have placed : resolved = (resources.insertionSort fun item other => tools.casefold item.path ≤ tools.casefold other.path).map
      fun resource => (resource, posixParts resource.outputPath) := by
    refine mapM_eq_map (fun found => ?_) targets
    obtain ⟨path, safe, made⟩ := bind_ok.mp found
    cases made
    rw [safeResourceTarget_ok safe, List.nil_append]
  rw [placed] at walked
  have start : RunAccount files [] (.start files) [] := ⟨rfl, by simp, rfl, rfl, .nil⟩
  obtain ⟨account, kept⟩ := start.whole (fun resource member => apart resource (ordered.mem_iff.mp member)) walked
  refine ⟨account, ?_, kept.vouched, kept.written, ?_, ?_⟩
  · rw [kept.covers]
    exact ordered
  · exact (List.perm_insertionSort _ _).trans (List.Perm.of_eq kept.entries)
  · exact ((List.perm_insertionSort _ _).filter _).trans kept.embedded

/-- A record of an entry names a file of an account. -/
theorem AnalysisAccount.entry (kept : AnalysisAccount files resources analysis final account) {record : ContainerEntryRecord}
    (listed : record ∈ analysis.containerEntries) : ∃ resource ∈ resources, ∃ before item after,
      account.flatMap Prod.snd = before ++ item :: after ∧ Entered files resource (posixParts resource.outputPath) item record := by
  obtain ⟨item, inside, recorded⟩ := List.mem_filterMap.mp (kept.entries.mem_iff.mp listed)
  obtain ⟨⟨resource, ledger⟩, member, here⟩ := List.mem_flatMap.mp inside
  obtain ⟨before, after, split⟩ := List.append_of_mem inside
  refine ⟨resource, kept.covers.mem_iff.mp (List.mem_map_of_mem member), before, item, after, split, ?_⟩
  rcases (kept.vouched _ member).each item here with ⟨_, _, _, cut⟩ | ⟨_, _, entered⟩
  · rw [cut.entry] at recorded
    cases recorded
  · exact entered record recorded

/-- An account shows each embedded file with the match that it was cut out for. -/
theorem AnalysisAccount.cutOut (kept : AnalysisAccount files resources analysis final account) {item : Extraction}
    (inside : item ∈ account.flatMap Prod.snd) (embedded : embeddedRoot <+: item.path) : ∃ resource ∈ resources, ∃ data found,
      files.get? (posixParts resource.outputPath) = some data ∧ CutOut resource data found item := by
  obtain ⟨⟨resource, ledger⟩, member, here⟩ := List.mem_flatMap.mp inside
  refine ⟨resource, kept.covers.mem_iff.mp (List.mem_map_of_mem member), ?_⟩
  rcases (kept.vouched _ member).each item here with cut | ⟨_, below, _⟩
  · exact cut
  · exact (roots_apart embedded below).elim

/-- Matches of one scan that start at one place are the same. -/
theorem scanned_unique {data : Bytes} {found other : ResourceFormatMatch} (listed : found ∈ scanResourceBytes data (9 / 10))
    (otherListed : other ∈ scanResourceBytes data (9 / 10)) (same : found.offset = other.offset) : found = other := by
  have covers := scanResourceBytes_iff.mpr (rfl : scanResourceBytes data (9 / 10) = _)
  have first := (covers.detected found listed).1
  have second := (covers.detected other otherListed).1
  rw [same, second] at first
  exact (Option.some.inj first).symm

/-- Two embedded files of one name are one file. -/
theorem AnalysisAccount.cutOut_unique (kept : AnalysisAccount files resources analysis final account)
    (distinct : (resources.map fun resource => posixParts resource.path).Nodup) {item other : Extraction}
    (inside : item ∈ account.flatMap Prod.snd) (otherInside : other ∈ account.flatMap Prod.snd)
    (embedded : embeddedRoot <+: item.path) (same : other.path = item.path) : other.contents = item.contents := by
  obtain ⟨resource, member, data, found, held, cut⟩ := kept.cutOut inside embedded
  obtain ⟨rival, rivalMember, rivalData, rivalFound, rivalHeld, rivalCut⟩ := kept.cutOut otherInside (same ▸ embedded)
  rw [cut.path, rivalCut.path, List.append_assoc, List.append_assoc, List.append_cancel_left_eq] at same
  obtain ⟨parents, names⟩ := List.append_inj' same (by rw [List.length_singleton, List.length_singleton])
  have here : rival = resource := List.inj_on_of_nodup_map distinct rivalMember member parents
  subst here
  have data_ : rivalData = data := Option.some.inj (rivalHeld.symm.trans held)
  subst data_
  have found_ : rivalFound = found := scanned_unique rivalCut.listed cut.listed (embeddedName_offset (List.singleton_inj.mp names))
  subst found_
  exact Option.some.inj (rivalCut.contents.symm.trans cut.contents)

/-- What the record of an embedded file says of its bytes. -/
def EmbeddedGameResourceRecord.fields (record : EmbeddedGameResourceRecord) : FileFields :=
  ⟨record.format, record.kind, record.confidence, record.evidence, record.suggestedExtension, record.metadata⟩

/-- Embedded files never take each other's place: whatever else is extracted, the file that a record names holds in the
end just the bytes of the match, and on its own it is known as what the match said. -/
theorem embeddedResources_exact (apart : ∀ resource ∈ resources, resource.Apart)
    (distinct : (resources.map fun resource => posixParts resource.path).Nodup)
    (ran : analyzeGameResources tools parsers sourceName files resources = .ok (analysis, final)) :
    ∀ record ∈ analysis.embeddedResources, ∀ place, record.extractedPath = some place →
      ∃ resource ∈ resources, record.parentPath = resource.path ∧ ∃ data size path,
        files.get? (posixParts resource.outputPath) = some data ∧ record.size = some size ∧ record.fileOffset + size ≤ data.length ∧
          place = relativeDisplay path ∧ final.get? path = some (slice data record.fileOffset size) ∧
            knownFileFields (detectResourceAt (slice data record.fileOffset size) 0) = record.fields := by
  intro record listed place extracted
  obtain ⟨account, kept⟩ := analyzeGameResources_account apart ran
  have written : record ∈ extractedOnly analysis.embeddedResources := List.mem_filter.mpr ⟨listed, by rw [extracted]; rfl⟩
  obtain ⟨item, inside, recorded⟩ := List.mem_filterMap.mp (kept.embedded.mem_iff.mp written)
  obtain ⟨⟨resource, ledger⟩, member, here⟩ := List.mem_flatMap.mp inside
  refine ⟨resource, kept.covers.mem_iff.mp (List.mem_map_of_mem member), ?_⟩
  rcases (kept.vouched _ member).each item here with ⟨data, found, held, cut⟩ | ⟨none, _⟩
  · obtain rfl := Option.some.inj (cut.record.symm.trans recorded)
    have covers := scanResourceBytes_iff.mpr (rfl : scanResourceBytes data (9 / 10) = _)
    have detected := detectedAt (covers.detected found cut.listed).1
    have extractable : found.extractable = true := by
      have contents := cut.contents
      unfold embeddedContents at contents
      split at contents
      · assumption
      · cases contents
    obtain ⟨size, sized, positive, within⟩ := detected.extent extractable
    have contents : item.contents = slice data found.offset size := by
      have contents := cut.contents
      rw [embeddedContents, extractable, sized] at contents
      simp only at contents
      rw [if_neg (by omega)] at contents
      exact (Option.some.inj contents).symm
    refine ⟨rfl, data, size, item.path, held, sized, within, (Option.some.inj extracted).symm, ?_, ?_⟩
    · have embedded : embeddedRoot <+: item.path := by
        rw [cut.path, List.append_assoc]
        exact List.prefix_append _ _
      change final.get? item.path = some (slice data found.offset size)
      rw [kept.written, ← contents]
      refine WriteLog.get?_agreed (List.mem_map.mpr ⟨item, inside, rfl⟩) fun other wrote => ?_
      obtain ⟨rival, rivalInside, same⟩ := List.mem_map.mp wrote
      obtain ⟨path, rfl⟩ := Prod.mk.inj same
      exact kept.cutOut_unique distinct inside rivalInside embedded path
    · exact (congrArg knownFileFields (detected.cut_alone extractable sized)).trans (knownFileFields_found detected.confidence)
  · rw [none] at recorded
    cases recorded

end Results

def plainResourceTools : ResourceTools := ⟨id, id, fun _ _ => .ok (), fun _ _ => .ok (), fun _ _ => .ok ()⟩

/-- A parser that finds two entries of one name in every file. -/
def pairParser : ResourceContainerParser where
  name := "pair"
  probe _ _ := .ok ⟨some 1, "1.0"⟩
  inspect _ _ := .ok ⟨"pair", [⟨"half", 0, 2, []⟩, ⟨"half", 2, 2, []⟩], []⟩

def pairResource : DiscResourceRecord := ⟨"DATA.BIN", 4, "resources/files/DATA.BIN"⟩

def pairFiles : OutputFiles := [(["resources", "files", "DATA.BIN"], [1, 2, 3, 4])]

def pairRun : Except GameFailure (GameResourceAnalysis × OutputFiles) :=
  analyzeGameResources plainResourceTools [pairParser] "game" pairFiles [pairResource]

theorem filesPath_apart (name : String) : ¬embeddedRoot <+: "resources" :: "files" :: posixParts name ∧
    ¬containersRoot <+: "resources" :: "files" :: posixParts name := by
  simp [embeddedRoot, containersRoot]

theorem pairResource_apart : ∀ resource ∈ [pairResource], resource.Apart := by
  rw [List.forall_mem_singleton]
  exact filesPath_apart "DATA.BIN"

/-- Both entries are recorded, and the second one has taken the place of the first. -/
theorem pairRun_ok : pairRun.toOption.map (fun run => (run.1.containerEntries.length,
    run.2.get? ["resources", "containers", "DATA.BIN", "half"])) = some (2, some [3, 4]) := by decide +kernel

def soundResource : DiscResourceRecord := ⟨"SOUND.BIN", 50, "resources/files/SOUND.BIN"⟩

/-- A sound behind a byte of something else. -/
def soundFiles : OutputFiles := [(["resources", "files", "SOUND.BIN"], 0 :: sampleVag)]

def soundRun : Except GameFailure (GameResourceAnalysis × OutputFiles) :=
  analyzeGameResources plainResourceTools [] "game" soundFiles [soundResource]

theorem soundResource_apart : ∀ resource ∈ [soundResource], resource.Apart := by
  rw [List.forall_mem_singleton]
  exact filesPath_apart "SOUND.BIN"

theorem soundRun_ok : soundRun.toOption.map (fun run => run.1.embeddedResources.map (·.extractedPath)) =
    some [some "resources/embedded/SOUND.BIN/00000001_vag.vag"] := by decide +kernel

theorem soundRun_exact : ∃ analysis final, soundRun = .ok (analysis, final) ∧
    ∀ record ∈ analysis.embeddedResources, ∀ place, record.extractedPath = some place →
      ∃ resource ∈ [soundResource], record.parentPath = resource.path ∧ ∃ data size path,
        soundFiles.get? (posixParts resource.outputPath) = some data ∧ record.size = some size ∧
          record.fileOffset + size ≤ data.length ∧ place = relativeDisplay path ∧
            final.get? path = some (slice data record.fileOffset size) ∧
              knownFileFields (detectResourceAt (slice data record.fileOffset size) 0) = record.fields := by
  obtain ⟨⟨analysis, final⟩, ran, _⟩ := toOption_map_ok soundRun_ok
  exact ⟨analysis, final, ran, embeddedResources_exact soundResource_apart (List.nodup_singleton _) ran⟩

end PspDisasm
