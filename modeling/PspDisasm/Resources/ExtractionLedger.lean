import PspDisasm.Foundations.WriteLog
import PspDisasm.Resources.ExtractionPaths

namespace PspDisasm
open Foundations

section Copy
variable {tools : ResourceTools} {files : OutputFiles} {source destination : WorkspacePath} {offset size : Nat}

theorem slice_chunk (data : Bytes) (position width rest : Nat) (within : width ≤ rest) :
    slice data position width ++
      slice data (position + (slice data position width).length) (rest - (slice data position width).length) =
        slice data position rest := by
  have length : (slice data position width).length = min width (data.drop position).length := List.length_take
  have cut : slice data position width = (data.drop position).take (slice data position width).length := by
    rw [length, slice, List.take_eq_take_iff]
    omega
  have whole : (slice data position width).length + (rest - (slice data position width).length) = rest := by omega
  have behind : slice data (position + (slice data position width).length) (rest - (slice data position width).length) =
      ((data.drop position).drop (slice data position width).length).take (rest - (slice data position width).length) := by
    rw [List.drop_drop, slice]
  calc slice data position width ++ _
      = (data.drop position).take (slice data position width).length ++
          ((data.drop position).drop (slice data position width).length).take (rest - (slice data position width).length) := by
        rw [behind, ← cut]
    _ = slice data position rest := by rw [← List.take_add, whole, slice]

/-- The loop copies what the source has of the range. -/
theorem copyChunks_eq (data : Bytes) (position remaining : Nat) (written : Bytes) :
    copyChunks data position remaining written =
      (written ++ slice data position remaining, decide (remaining = 0 ∨ position + remaining ≤ data.length)) := by
  induction position, remaining, written using copyChunks.induct data with
  | case1 position written =>
    rw [copyChunks, if_pos rfl, slice, List.take_zero, List.append_nil]
    simp
  | case2 position remaining written going chunk ended =>
    have exceeded : data.length ≤ position := by
      have nothing := List.length_eq_zero_iff.mpr ended
      simp only [chunk, slice, List.length_take, List.length_drop, copyChunkBytes] at nothing
      omega
    have none : slice data position remaining = [] := by rw [slice, List.drop_eq_nil_of_le exceeded, List.take_nil]
    rw [copyChunks, if_neg going, dif_pos ended, none, List.append_nil]
    simp only [going, false_or]
    rw [decide_eq_false (by omega)]
  | case3 position remaining written going chunk more ih =>
    have length : chunk.length = min (min remaining copyChunkBytes) (data.length - position) := by
      simp only [chunk, slice, List.length_take, List.length_drop]
    have positive := List.length_pos_iff.mpr more
    rw [copyChunks, if_neg going, dif_neg more, ih, List.append_assoc, slice_chunk _ _ _ _ (Nat.min_le_left _ _)]
    congr 1
    rw [decide_eq_decide]
    omega

theorem readOutput_ok {path : WorkspacePath} {data : Bytes} (read : readOutput tools files path = .ok data) :
    files.get? path = some data := by
  obtain ⟨_, _, found⟩ := bind_ok.mp read
  cases present : files.get? path with
  | none =>
    rw [present] at found
    cases found
  | some contents =>
    rw [present] at found
    cases found
    rfl

theorem writeOutput_cases (tools : ResourceTools) (files : OutputFiles) (path : WorkspacePath) (data : Bytes) :
    (∃ text, writeOutput tools files path data = (files, .error text)) ∨ writeOutput tools files path data = (files.set path data, .ok ()) := by
  unfold writeOutput
  split
  · exact Or.inl ⟨_, rfl⟩
  · exact Or.inr rfl

/-- A second value of a key takes the place of the first. -/
theorem set_set {first last : Bytes} : (files.set source first).set source last = files.set source last := by
  induction files with
  | nil => simp [Dict.set]
  | cons item items ih =>
    obtain ⟨key, old⟩ := item
    by_cases same : key = source
    · simp [Dict.set, same]
    · simp [Dict.set, same, ih]

/-- The ways in which a copy ends: it is not begun, it stops short, or it has the whole range of another file. -/
theorem copyEntryRange_cases (positive : 0 < size) :
    (∃ text, copyEntryRange tools files source destination offset size = (files, .error text)) ∨
    (∃ written text, copyEntryRange tools files source destination offset size = (files.set destination written, .error text)) ∨
    ∃ data, files.get? source = some data ∧ offset + size ≤ data.length ∧
      copyEntryRange tools files source destination offset size = (files.set destination (slice data offset size), .ok ()) := by
  unfold copyEntryRange
  cases opened : (do
      tools.parents files destination
      let _ ← readOutput tools files source
      tools.writable files destination : Except String Unit) with
  | error text => exact Or.inl ⟨text, rfl⟩
  | ok begun =>
    obtain ⟨_, _, opened⟩ := bind_ok.mp opened
    obtain ⟨data, read, _⟩ := bind_ok.mp opened
    have present := readOutput_ok read
    refine Or.inr ?_
    dsimp only
    rw [copyChunks_eq]
    generalize found : ((files.set destination []).get? source).getD [] = shown
    rw [Dict.get?_set] at found
    by_cases whole : offset + size ≤ shown.length
    · have same : shown = data := by
        by_cases emptied : destination = source
        · rw [if_pos emptied] at found
          rw [← found, Option.getD_some, List.length_nil] at whole
          omega
        · rw [if_neg emptied, present] at found
          exact found.symm
      rw [same] at whole ⊢
      exact Or.inr ⟨data, present, whole, Prod.ext set_set (if_pos (decide_eq_true (Or.inr whole)))⟩
    · have short : ¬(size = 0 ∨ offset + size ≤ shown.length) := by omega
      exact Or.inl ⟨_, _, Prod.ext set_set (if_neg (fun ended => short (of_decide_eq_true ended)))⟩

end Copy

/-- A file that the extraction writes, with the record that is kept of it. -/
structure Extraction where
  path : WorkspacePath
  contents : Bytes
  entry : Option ContainerEntryRecord
  embedded : Option EmbeddedGameResourceRecord

/-- The writes of some extractions. -/
def writesOf (ledger : List Extraction) : WriteLog WorkspacePath Bytes := ledger.map fun item => (item.path, item.contents)

theorem writesOf_append (ledger more : List Extraction) : writesOf (ledger ++ more) = writesOf ledger ++ writesOf more := List.map_append

section Entries
variable {tools : ResourceTools} {files : OutputFiles} {resource : DiscResourceRecord} {source : WorkspacePath} {parserName : String}
  {run next : EntryRun} {entry : ContainerEntry} {entries : List ContainerEntry} {final : OutputFiles} {destination : WorkspacePath}
  {records : List ContainerEntryRecord} {ledger : List Extraction}

/-- What the record of an entry says about its file, when it has been written. -/
structure Entered (files : OutputFiles) (resource : DiscResourceRecord) (source : WorkspacePath) (item : Extraction)
    (record : ContainerEntryRecord) : Prop where
  parent : record.parentPath = resource.path
  place : record.extractedPath = relativeDisplay item.path
  path : item.path = containersRoot ++ posixParts resource.path ++ posixParts record.innerPath
  range : 0 ≤ record.offset ∧ 0 < record.size ∧ record.offset + record.size ≤ resource.size
  contents : ∃ data, files.get? source = some data ∧ record.offset.toNat + record.size.toNat ≤ data.length ∧
    item.contents = slice data record.offset.toNat record.size.toNat
  detected : ∃ metadata, record.detected =
    let detected := classifyExtractedEntry item.contents record.size.toNat
    { detected with metadata := updated metadata detected.metadata }

/-- A ledger of the files that the extraction of a container has written. -/
structure EntryLedger (files : OutputFiles) (resource : DiscResourceRecord) (source : WorkspacePath) (final : OutputFiles)
    (records : List ContainerEntryRecord) (ledger : List Extraction) : Prop where
  written : final = (writesOf ledger).applyTo files
  recorded : records = ledger.filterMap (·.entry)
  other : ∀ item ∈ ledger, item.embedded = none
  below : ∀ item ∈ ledger, containersRoot <+: item.path
  entered : ∀ item ∈ ledger, ∀ record ∈ item.entry, Entered files resource source item record
  within : (records.map (·.size)).sum ≤ resource.size

namespace EntryLedger

theorem empty : EntryLedger files resource source files [] [] :=
  ⟨rfl, rfl, by simp, by simp, by simp, Int.natCast_nonneg _⟩

theorem unread (kept : EntryLedger files resource source final records ledger) (apart : ¬containersRoot <+: source) :
    final.get? source = files.get? source := by
  rw [kept.written]
  refine WriteLog.get?_elsewhere ?_
  rintro write member rfl
  obtain ⟨item, listed, rfl⟩ := List.mem_map.mp member
  exact apart (kept.below item listed)

/-- A file that no record is kept of. -/
theorem wasted (kept : EntryLedger files resource source final records ledger) (placed : containersRoot <+: destination)
    (contents : Bytes) :
    EntryLedger files resource source (final.set destination contents) records (ledger ++ [⟨destination, contents, none, none⟩]) where
  written := by
    rw [writesOf_append, WriteLog.applyTo_append, ← kept.written]
    rfl
  recorded := by
    rw [List.filterMap_append, ← kept.recorded]
    exact (List.append_nil _).symm
  other := List.forall_mem_append.mpr ⟨kept.other, List.forall_mem_singleton.mpr rfl⟩
  below := List.forall_mem_append.mpr ⟨kept.below, List.forall_mem_singleton.mpr placed⟩
  entered := List.forall_mem_append.mpr ⟨kept.entered, List.forall_mem_singleton.mpr fun _ none => absurd none (by simp)⟩
  within := kept.within

/-- A file with its record. -/
theorem add (kept : EntryLedger files resource source final records ledger) {record : ContainerEntryRecord} {contents : Bytes}
    (placed : containersRoot <+: destination)
    (entered : Entered files resource source ⟨destination, contents, some record, none⟩ record)
    (room : (records.map (·.size)).sum + record.size ≤ resource.size) :
    EntryLedger files resource source (final.set destination contents) (records ++ [record])
      (ledger ++ [⟨destination, contents, some record, none⟩]) where
  written := by
    rw [writesOf_append, WriteLog.applyTo_append, ← kept.written]
    rfl
  recorded := by
    rw [List.filterMap_append, ← kept.recorded]
    rfl
  other := List.forall_mem_append.mpr ⟨kept.other, List.forall_mem_singleton.mpr rfl⟩
  below := List.forall_mem_append.mpr ⟨kept.below, List.forall_mem_singleton.mpr placed⟩
  entered := by
    refine List.forall_mem_append.mpr ⟨kept.entered, List.forall_mem_singleton.mpr fun other same => ?_⟩
    cases Option.mem_some_iff.mp same
    exact entered
  within := by
    rw [List.map_append, List.sum_append, List.map_singleton, List.sum_singleton]
    exact room

end EntryLedger

/-- What has been spent is what the records say, and there is a ledger of it. -/
def Spent (files : OutputFiles) (resource : DiscResourceRecord) (source : WorkspacePath) (run : EntryRun) : Prop :=
  run.extractedBytes = (run.records.map (·.size)).sum ∧
    ∃ ledger, EntryLedger files resource source run.files run.records ledger

/-- A turn keeps the account. -/
theorem Spent.takeEntry (spent : Spent files resource source run) (apart : ¬containersRoot <+: source)
    (turn : takeEntry tools parserName resource source run entry = .ok next) : Spent files resource source next := by
  obtain ⟨total, ledger, kept⟩ := spent
  obtain ⟨destination, placed, turn⟩ := bind_ok.mp turn
  have path := containerDestination_ok placed
  have below : containersRoot <+: destination := by
    rw [path, List.append_assoc]
    exact List.prefix_append _ _
  split at turn
  · cases turn
    exact ⟨total, ledger, kept⟩
  · rename_i inside
    split at turn
    · cases turn
      exact ⟨total, ledger, kept⟩
    · rename_i room
      have range : 0 ≤ entry.offset ∧ 0 < entry.size ∧ entry.offset + entry.size ≤ resource.size := by omega
      have positive : 0 < entry.size.toNat := by omega
      rw [extractEntry] at turn
      rcases @copyEntryRange_cases tools run.files source destination entry.offset.toNat _ positive with
        ⟨text, copied⟩ | ⟨written, text, copied⟩ | ⟨data, present, within, copied⟩
      · rw [copied] at turn
        cases turn
        exact ⟨total, ledger, kept⟩
      · rw [copied] at turn
        cases turn
        exact ⟨total, _, kept.wasted below written⟩
      · rw [copied] at turn
        dsimp only [ok_bind] at turn
        cases read : readOutput tools (run.files.set destination (slice data entry.offset.toNat entry.size.toNat)) destination with
        | error text =>
          rw [read] at turn
          cases turn
          exact ⟨total, _, kept.wasted below _⟩
        | ok contents =>
          rw [read] at turn
          cases turn
          have shown := readOutput_ok read
          rw [Dict.get?_set, if_pos rfl] at shown
          rw [kept.unread apart] at present
          refine ⟨?_, _, kept.add below ⟨rfl, rfl, path, range, ⟨data, present, within, rfl⟩, entry.metadata, ?_⟩ ?_⟩
          · rw [List.map_append, List.sum_append, ← total, List.map_singleton, List.sum_singleton]
            rfl
          · rw [Option.some.inj shown]
            rfl
          · rw [← total]
            exact not_lt.mp room

/-- The ledger of a whole container. -/
theorem entries_ledger (apart : ¬containersRoot <+: source) (excess : List String)
    (ran : entries.foldlM (takeEntry tools parserName resource source) ⟨files, [], excess, 0⟩ = .ok run) :
    ∃ ledger, EntryLedger files resource source run.files run.records ledger :=
  (foldlM_keeps (Spent files resource source) ran ⟨rfl, [], .empty⟩ fun _ _ _ _ spent turn => spent.takeEntry apart turn).2

theorem inspectContainer_ledger {parser : ResourceContainerParser} {confidence : Rat} {container : ContainerRun}
    (apart : ¬containersRoot <+: source) (ran : inspectContainer tools files resource source parser confidence = .ok container) :
    ∃ ledger, EntryLedger files resource source container.files container.entries ledger := by
  unfold inspectContainer at ran
  split at ran
  · cases ran
    exact ⟨[], .empty⟩
  · obtain ⟨run, walked, made⟩ := bind_ok.mp ran
    cases made
    exact entries_ledger apart _ walked

theorem parseContainer_ledger {parsers : List ResourceContainerParser} {probePrefix : Bytes} {container : ContainerRun}
    (apart : ¬containersRoot <+: source) (ran : parseContainer tools parsers files resource source probePrefix = .ok container) :
    ∃ ledger, EntryLedger files resource source container.files container.entries ledger := by
  unfold parseContainer at ran
  split at ran
  · cases ran
    exact ⟨[], .empty⟩
  · split at ran
    · cases ran
      exact ⟨[], .empty⟩
    · obtain ⟨run, inspected, made⟩ := bind_ok.mp ran
      cases made
      obtain ⟨ledger, kept⟩ := inspectContainer_ledger apart inspected
      exact ⟨ledger, kept⟩

theorem examineCandidate_ledger {parsers : List ResourceContainerParser} {reading : ResourceReading}
    {embedded : List EmbeddedGameResourceRecord} {profile : Option ContainerCandidateProfile} {container : ContainerRun}
    (apart : ¬containersRoot <+: source)
    (ran : examineCandidate tools parsers files resource source reading embedded = .ok (profile, container)) :
    ∃ ledger, EntryLedger files resource source container.files container.entries ledger := by
  unfold examineCandidate at ran
  split at ran
  · cases ran
    exact ⟨[], .empty⟩
  · obtain ⟨run, parsed, made⟩ := bind_ok.mp ran
    cases made
    obtain ⟨ledger, kept⟩ := parseContainer_ledger apart parsed
    exact ⟨ledger, kept⟩

end Entries

section Embedded
variable {tools : ResourceTools} {files final : OutputFiles} {resource : DiscResourceRecord} {source : WorkspacePath} {data : Bytes}
  {loose : Option ResourceFormatMatch} {run next : EmbeddedRun} {found : ResourceFormatMatch}
  {records : List EmbeddedGameResourceRecord} {ledger : List Extraction}

/-- What the record of an embedded file says about the file, when it has been written. -/
structure CutOut (resource : DiscResourceRecord) (data : Bytes) (found : ResourceFormatMatch) (item : Extraction) : Prop where
  listed : found ∈ scanResourceBytes data (9 / 10)
  contents : embeddedContents data found = some item.contents
  path : item.path = embeddedRoot ++ posixParts resource.path ++ [embeddedName found]
  entry : item.entry = none
  record : item.embedded = some (embeddedRecord resource.path found (some (relativeDisplay item.path)))

/-- The records of what has been written. -/
def extractedOnly (records : List EmbeddedGameResourceRecord) : List EmbeddedGameResourceRecord :=
  records.filter fun record => record.extractedPath.isSome

/-- A ledger of the embedded files that have been written for a resource. -/
structure EmbeddedLedger (files : OutputFiles) (resource : DiscResourceRecord) (data : Bytes) (final : OutputFiles)
    (records : List EmbeddedGameResourceRecord) (ledger : List Extraction) : Prop where
  written : final = (writesOf ledger).applyTo files
  recorded : (extractedOnly records).Perm (ledger.filterMap (·.embedded))
  cutOut : ∀ item ∈ ledger, ∃ found, CutOut resource data found item

namespace EmbeddedLedger

theorem empty : EmbeddedLedger files resource data files [] [] := ⟨rfl, .nil, by simp⟩

theorem unread (kept : EmbeddedLedger files resource data final records ledger) (apart : ¬embeddedRoot <+: source) :
    final.get? source = files.get? source := by
  rw [kept.written]
  refine WriteLog.get?_elsewhere ?_
  rintro write member rfl
  obtain ⟨item, listed, rfl⟩ := List.mem_map.mp member
  obtain ⟨found, cut⟩ := kept.cutOut item listed
  dsimp only at apart
  rw [cut.path, List.append_assoc] at apart
  exact apart (List.prefix_append _ _)

/-- A match that no file is written for. -/
theorem skip (kept : EmbeddedLedger files resource data final records ledger) (parentPath : String) (found : ResourceFormatMatch) :
    EmbeddedLedger files resource data final (records ++ [embeddedRecord parentPath found none]) ledger where
  written := kept.written
  recorded := by
    rw [extractedOnly, List.filter_append]
    exact (List.append_nil _).symm ▸ kept.recorded
  cutOut := kept.cutOut

theorem add (kept : EmbeddedLedger files resource data final records ledger) {path : WorkspacePath} {contents : Bytes}
    (listed : found ∈ scanResourceBytes data (9 / 10)) (extracted : embeddedContents data found = some contents)
    (placed : path = embeddedRoot ++ posixParts resource.path ++ [embeddedName found]) :
    let record := embeddedRecord resource.path found (some (relativeDisplay path))
    EmbeddedLedger files resource data (final.set path contents) (records ++ [record]) (ledger ++ [⟨path, contents, none, some record⟩]) where
  written := by
    rw [writesOf_append, WriteLog.applyTo_append, ← kept.written]
    rfl
  recorded := by
    rw [extractedOnly, List.filter_append, List.filterMap_append]
    exact kept.recorded.append_right _
  cutOut := List.forall_mem_append.mpr
    ⟨kept.cutOut, List.forall_mem_singleton.mpr ⟨found, listed, extracted, placed, rfl, rfl⟩⟩

theorem takeMatch (kept : EmbeddedLedger files resource data run.files run.records ledger)
    (listed : found ∈ scanResourceBytes data (9 / 10)) (turn : takeMatch tools resource data loose run found = .ok next) :
    ∃ more, EmbeddedLedger files resource data next.files next.records (ledger ++ more) := by
  have covers := scanResourceBytes_iff.mpr (rfl : scanResourceBytes data (9 / 10) = _)
  unfold PspDisasm.takeMatch at turn
  split at turn
  · cases turn
    exact ⟨[], by rw [List.append_nil]; exact kept⟩
  · obtain ⟨⟨written, outcome⟩, wrote, turn⟩ := bind_ok.mp turn
    unfold writeEmbedded at wrote
    split at wrote
    · cases wrote
      cases turn
      exact ⟨[], by rw [List.append_nil]; exact kept.skip _ _⟩
    · rename_i contents extracted
      obtain ⟨destination, placed, made⟩ := bind_ok.mp wrote
      have path := embeddedDestination_ok (covers.detected found listed).1 placed
      rcases writeOutput_cases tools run.files destination contents with ⟨text, refused⟩ | done
      · rw [refused] at made
        cases made
        cases turn
        exact ⟨[], by rw [List.append_nil]; exact kept.skip _ _⟩
      · rw [done] at made
        cases made
        cases turn
        exact ⟨_, kept.add listed extracted path⟩

end EmbeddedLedger

/-- What a reading gives to the search for embedded files is what the file holds. -/
theorem readResource_data {reading : ResourceReading} (read : readResource tools files resource source = reading)
    (held : reading.data = some data) :
    files.get? source = some data ∧ ∀ found ∈ reading.matches_, found ∈ scanResourceBytes data (9 / 10) := by
  unfold readResource at read
  split at read
  · rw [← read] at held
    cases held
  · rename_i contents opened
    split at read
    · rw [← read] at held
      cases held
      refine ⟨readOutput_ok opened, fun found member => ?_⟩
      rw [← read] at member
      dsimp only at member
      split at member
      · cases member
      · exact member
    · rw [← read] at held
      cases held

theorem extractEmbedded_ledger {reading : ResourceReading} (read : readResource tools files resource source = reading)
    (ran : extractEmbedded tools files resource reading = .ok run) :
    ∃ data ledger, EmbeddedLedger files resource data run.files run.records ledger ∧
      (ledger ≠ [] → files.get? source = some data) := by
  unfold extractEmbedded at ran
  cases held : reading.data with
  | none =>
    rw [held] at ran
    cases ran
    exact ⟨[], [], .empty, fun nonempty => absurd rfl nonempty⟩
  | some data =>
    rw [held] at ran
    obtain ⟨walked, walk, made⟩ := bind_ok.mp ran
    cases made
    obtain ⟨present, listed⟩ := readResource_data read held
    have found := foldlM_keeps (fun run => ∃ ledger, EmbeddedLedger files resource data run.files run.records ledger)
      walk ⟨[], .empty⟩ fun found member _ _ ⟨ledger, kept⟩ turn =>
        let ⟨more, later⟩ := kept.takeMatch (listed found member) turn
        ⟨_, later⟩
    obtain ⟨ledger, kept⟩ := found
    have sorted := (List.perm_insertionSort (fun item other : EmbeddedGameResourceRecord => item.place ≤ other.place) walked.records)
    exact ⟨data, ledger, ⟨kept.written, (sorted.filter _).trans kept.recorded, kept.cutOut⟩, fun _ => present⟩

end Embedded

end PspDisasm
