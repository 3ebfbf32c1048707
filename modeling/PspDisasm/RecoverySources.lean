import PspDisasm.Foundations.Raising
import PspDisasm.RecoveryBackends
import PspDisasm.Resources.ContainerSelection

namespace PspDisasm
open Foundations

namespace Backends

section Manifest
variable (host : Host)

/-- A path of a manifest leads to a file at or below its directory, and not through a link of its own. -/
structure SafeTarget (root : WorkspacePath) (relative : String) (target : WorkspacePath) : Prop where
  named : relative ≠ ""
  relativeText : (slashed relative).toList.head? ≠ some '/'
  inside : ".." ∉ posixParts (slashed relative)
  noLink : host.isSymlink (host.resolve (absoluteText root) ++ posixParts (slashed relative)) = false
  resolved : target = host.resolve (absoluteText (host.resolve (absoluteText root) ++ posixParts (slashed relative)))
  contained : host.resolve (absoluteText root) <+: target

/-- An object of a manifest, and the entry that is made of it. -/
def ReadsAs (root : WorkspacePath) (item : Json) (entry : PrebuiltEntry) : Prop :=
  ∃ (fields : Fields) (original recovered relative : Json), item = .obj fields ∧
    fields.get? "original_sha256" = some original ∧ fields.get? "recovered_sha256" = some recovered ∧
    fields.get? "path" = some relative ∧
    entry.originalSha256 = host.lower (host.values.toText original) ∧
    entry.recoveredSha256 = host.lower (host.values.toText recovered) ∧
    SafeTarget host root (host.values.toText relative) entry.path

variable {host} {manifestPath : String} {root target : WorkspacePath} {relative : String}

theorem safeManifestTarget_ok : safeManifestTarget host root relative = .ok target ↔ SafeTarget host root relative target := by
  unfold safeManifestTarget
  simp only [bind_ok, raiseIf_ok, not_or, not_not, exists_const]
  constructor
  · rintro ⟨⟨named, relativeText, inside⟩, noLink, contained, returned⟩
    cases returned
    exact ⟨named, relativeText, inside, Bool.eq_false_iff.mpr noLink, rfl, contained⟩
  · intro safe
    refine ⟨⟨safe.named, safe.relativeText, safe.inside⟩, by rw [safe.noLink]; exact Bool.false_ne_true, ?_, ?_⟩
    · rw [← safe.resolved]
      exact safe.contained
    · rw [safe.resolved]
      rfl

theorem manifestText_ok {index : Nat} {fields : Fields} {key text : String} :
    manifestText host manifestPath index fields key = .ok text ↔ ∃ value, fields.get? key = some value ∧ text = host.values.toText value := by
  unfold manifestText
  cases fields.get? key with
  | none => simp
  | some value => simp [eq_comm]

/-- One round adds the entry of an object, if the hash of its input is new. -/
theorem addManifestEntry_ok {entries next : Dict String PrebuiltEntry} {item : Json} {index : Nat} :
    addManifestEntry host manifestPath root entries (item, index) = .ok next ↔
      ∃ entry, ReadsAs host root item entry ∧ entry.originalSha256 ∉ entries.keys ∧
        next = entries ++ [(entry.originalSha256, entry)] := by
  unfold addManifestEntry
  cases item with
  | obj fields =>
    simp only [bind_ok, raiseIf_ok, manifestText_ok, safeManifestTarget_ok, exists_const]
    constructor
    · rintro ⟨_, ⟨original, first, rfl⟩, _, ⟨recovered, second, rfl⟩, _, ⟨relative, third, rfl⟩, target, safe, new, returned⟩
      cases returned
      rw [Dict.set_of_new new]
      exact ⟨⟨host.lower (host.values.toText original), host.lower (host.values.toText recovered), target⟩,
        ⟨fields, original, recovered, relative, rfl, first, second, third, rfl, rfl, safe⟩, new, rfl⟩
    · rintro ⟨⟨_, _, _⟩, ⟨_, original, recovered, relative, same, first, second, third, rfl, rfl, safe⟩, new, rfl⟩
      cases same
      refine ⟨_, ⟨original, first, rfl⟩, _, ⟨recovered, second, rfl⟩, _, ⟨relative, third, rfl⟩, _, safe, new, ?_⟩
      rw [Dict.set_of_new new]
      rfl
  | _ =>
    refine iff_of_false (by simp) ?_
    rintro ⟨entry, ⟨fields, _, _, _, same, _⟩, _⟩
    cases same

def entriesOf (listed : List PrebuiltEntry) : Dict String PrebuiltEntry := listed.map fun entry => (entry.originalSha256, entry)

theorem foldlM_addManifestEntry {items : List Json} {index : Nat} {entries final : Dict String PrebuiltEntry}
    (distinct : entries.keys.Nodup) :
    (items.zipIdx index).foldlM (addManifestEntry host manifestPath root) entries = .ok final ↔
      ∃ listed, List.Forall₂ (ReadsAs host root) items listed ∧
        (entries.keys ++ listed.map (·.originalSha256)).Nodup ∧ final = entries ++ entriesOf listed := by
  induction items generalizing index entries with
  | nil =>
    simp only [List.zipIdx_nil, List.foldlM_nil, List.forall₂_nil_left_iff, exists_eq_left, List.map_nil, List.append_nil, distinct,
      true_and, entriesOf]
    exact ⟨fun same => (Except.ok.inj same).symm, fun same => congrArg Except.ok same.symm⟩
  | cons item items ih =>
    rw [List.zipIdx_cons, List.foldlM_cons]
    simp only [bind_ok, addManifestEntry_ok, List.forall₂_cons_left_iff]
    constructor
    · rintro ⟨_, ⟨entry, reads, new, rfl⟩, later⟩
      have keys : Dict.keys (entries ++ [(entry.originalSha256, entry)]) = entries.keys ++ [entry.originalSha256] := List.map_append
      have more : (Dict.keys (entries ++ [(entry.originalSha256, entry)])).Nodup := by
        rw [keys, ← List.concat_eq_append]
        exact distinct.concat new
      obtain ⟨listed, rest, apart, rfl⟩ := (ih more).mp later
      refine ⟨entry :: listed, ⟨entry, listed, reads, rest, rfl⟩, ?_, ?_⟩
      · rwa [keys, List.append_assoc] at apart
      · rw [List.append_assoc]
        rfl
    · rintro ⟨_, ⟨entry, listed, reads, rest, rfl⟩, apart, rfl⟩
      have new : entry.originalSha256 ∉ entries.keys := fun known =>
        (List.nodup_append.mp apart).2.2 _ known _ List.mem_cons_self rfl
      have keys : Dict.keys (entries ++ [(entry.originalSha256, entry)]) = entries.keys ++ [entry.originalSha256] := List.map_append
      have more : (Dict.keys (entries ++ [(entry.originalSha256, entry)])).Nodup := by
        rw [keys, ← List.concat_eq_append]
        exact distinct.concat new
      refine ⟨_, ⟨entry, reads, new, rfl⟩, (ih more).mpr ⟨listed, rest, ?_, ?_⟩⟩
      · rwa [keys, List.append_assoc]
      · rw [List.append_assoc]
        rfl

theorem manifestPayload_ok {raw : Bytes} {payload : Json} : manifestPayload host manifestPath raw = .ok payload ↔
    ∃ text, decodeUtf8Strict raw = some text ∧ host.loads text = .ok payload := by
  unfold manifestPayload
  cases decodeUtf8Strict raw with
  | none => simp
  | some text => simp [mapError_ok]

/-- The objects of a manifest, where it can be read as a list. -/
def ManifestItems (host : Host) (manifestPath : String) (items : List Json) : Prop :=
  ∃ raw text, host.readManifest manifestPath = .ok raw ∧ decodeUtf8Strict raw = some text ∧ host.loads text = .ok (.arr items)

/-- The entries of an accepted manifest are those of its objects, in their order. -/
theorem loadPrebuiltManifest_iff {entries : Dict String PrebuiltEntry} : loadPrebuiltManifest host manifestPath = .ok entries ↔
    ∃ items listed, ManifestItems host manifestPath items ∧
      List.Forall₂ (ReadsAs host (host.resolve manifestPath).dropLast) items listed ∧
      (listed.map (·.originalSha256)).Nodup ∧ entries = entriesOf listed := by
  have empty : (Dict.keys ([] : Dict String PrebuiltEntry)).Nodup := List.nodup_nil
  unfold loadPrebuiltManifest
  simp only [bind_ok, manifestBytes, mapError_ok, manifestPayload_ok]
  constructor
  · rintro ⟨raw, bytes, payload, ⟨text, decoded, loaded⟩, run⟩
    cases payload with
    | arr items =>
      obtain ⟨listed, reads, apart, rfl⟩ := (foldlM_addManifestEntry empty).mp run
      exact ⟨items, listed, ⟨raw, text, bytes, decoded, loaded⟩, reads, apart, rfl⟩
    | _ => cases run
  · rintro ⟨items, listed, ⟨raw, text, bytes, decoded, loaded⟩, reads, apart, rfl⟩
    exact ⟨raw, bytes, .arr items, ⟨text, decoded, loaded⟩, (foldlM_addManifestEntry empty).mpr ⟨listed, reads, apart, rfl⟩⟩

end Manifest

section Sources
variable (host : Host) (tools : RecoveryTools) (maxOutputBytes : Int) (data recovered : Bytes)

/-- The file of an entry for an input holds bytes that may be handed over. -/
structure Delivers (entry : PrebuiltEntry) : Prop where
  forInput : entry.originalSha256 = tools.sha256 data
  ofOutput : entry.recoveredSha256 = tools.sha256 recovered
  noLink : host.isSymlink entry.path = false
  isFile : host.isFile entry.path = true
  bounded : ∃ size, host.size entry.path = .ok size ∧ (size : Int) ≤ maxOutputBytes
  held : host.read entry.path = .ok recovered

/-- An entry of a manifest, by the object that it is read from. -/
def ListedIn (manifestPath : String) (entry : PrebuiltEntry) : Prop :=
  ∃ items item, ManifestItems host manifestPath items ∧ item ∈ items ∧ ReadsAs host (host.resolve manifestPath).dropLast item entry

/-- A tool has run to its end and has left the bytes behind. -/
def ExternalTool.Leaves (tool : ExternalTool) : Prop :=
  ∃ (stdout stderr : Bytes) (size : Nat), tool.run data = .completed 0 stdout stderr (some (.ok size, .ok recovered)) ∧
    (size : Int) ≤ maxOutputBytes

variable {host tools maxOutputBytes data recovered} {manifestPath outputPath : String} {entries : Dict String PrebuiltEntry}
  {payload : RecoveredPayload}

theorem readBoundedFile_ok {path : WorkspacePath} {label : String} {contents : Bytes} :
    readBoundedFile host path maxOutputBytes label = .ok contents ↔
      (∃ size, host.size path = .ok size ∧ (size : Int) ≤ maxOutputBytes) ∧ host.read path = .ok contents := by
  unfold readBoundedFile
  simp only [bind_ok, mapError_ok, raiseIf_ok, not_lt, exists_const]
  exact ⟨fun ⟨size, found, bounded, held⟩ => ⟨⟨size, found, bounded⟩, held⟩,
    fun ⟨⟨size, found, bounded⟩, held⟩ => ⟨size, found, bounded, held⟩⟩

theorem mem_entriesOf {listed : List PrebuiltEntry} {sha256 : String} {entry : PrebuiltEntry}
    (found : (entriesOf listed).get? sha256 = some entry) : entry ∈ listed ∧ entry.originalSha256 = sha256 := by
  obtain ⟨member, item, same⟩ := List.mem_map.mp (Dict.mem_of_get? found)
  cases same
  exact ⟨item, rfl⟩

theorem readsAs_unique {root : WorkspacePath} {item : Json} {entry other : PrebuiltEntry} (reads : ReadsAs host root item entry)
    (readsToo : ReadsAs host root item other) : entry = other := by
  obtain ⟨_, _, _, _, rfl, first, second, third, original, ofOutput, safe⟩ := reads
  obtain ⟨_, _, _, _, same, firstToo, secondToo, thirdToo, originalToo, ofOutputToo, safeToo⟩ := readsToo
  cases same
  cases first.symm.trans firstToo
  cases second.symm.trans secondToo
  cases third.symm.trans thirdToo
  cases entry
  cases other
  rw [PrebuiltEntry.mk.injEq]
  exact ⟨original.trans originalToo.symm, ofOutput.trans ofOutputToo.symm, safe.resolved.trans safeToo.resolved.symm⟩

/-- The entries of an accepted manifest are looked up by the hash of the input. -/
theorem get?_loaded (loaded : loadPrebuiltManifest host manifestPath = .ok entries) {sha256 : String} {entry : PrebuiltEntry} :
    entries.get? sha256 = some entry ↔ ListedIn host manifestPath entry ∧ entry.originalSha256 = sha256 := by
  obtain ⟨items, listed, read, reads, apart, rfl⟩ := loadPrebuiltManifest_iff.mp loaded
  constructor
  · intro found
    obtain ⟨member, named⟩ := mem_entriesOf found
    obtain ⟨item, inItems, itemReads⟩ := forall₂_mem reads member
    exact ⟨⟨items, item, read, inItems, itemReads⟩, named⟩
  · rintro ⟨⟨others, item, readToo, inItems, itemReads⟩, rfl⟩
    obtain ⟨raw, text, bytes, decoded, parsed⟩ := read
    obtain ⟨_, _, bytesToo, decodedToo, parsedToo⟩ := readToo
    cases bytes.symm.trans bytesToo
    cases decoded.symm.trans decodedToo
    cases parsed.symm.trans parsedToo
    obtain ⟨other, member, otherReads⟩ := forall₂_mem reads.flip inItems
    cases readsAs_unique itemReads otherReads
    have keys : (entriesOf listed).keys = listed.map (·.originalSha256) := List.map_map
    exact Dict.get?_of_mem (keys ▸ apart) (List.mem_map_of_mem member)

theorem handOver_ok : handOver host tools maxOutputBytes entries data = .ok payload ↔
    ∃ entry, entries.get? (tools.sha256 data) = some entry ∧ host.isSymlink entry.path = false ∧ host.isFile entry.path = true ∧
      (∃ size, host.size entry.path = .ok size ∧ (size : Int) ≤ maxOutputBytes) ∧ host.read entry.path = .ok payload.data ∧
      tools.sha256 payload.data = entry.recoveredSha256 ∧ payload = { data := payload.data } := by
  unfold handOver
  dsimp only
  cases entries.get? (tools.sha256 data) with
  | none => simp
  | some entry =>
    simp only [bind_ok, raiseIf_ok, exists_const, readBoundedFile_ok, Option.some.injEq, exists_eq_left', Bool.not_eq_true,
      Bool.not_eq_false, ne_eq, not_not]
    constructor
    · rintro ⟨noLink, isFile, contents, ⟨bounded, held⟩, pinned, returned⟩
      cases returned
      exact ⟨noLink, isFile, bounded, held, pinned, rfl⟩
    · rintro ⟨noLink, isFile, bounded, held, pinned, only⟩
      exact ⟨noLink, isFile, payload.data, ⟨bounded, held⟩, pinned, congrArg Except.ok only.symm⟩

/-- A backend that an accepted manifest has been made into. -/
structure MadeFrom (host : Host) (tools : RecoveryTools) (maxOutputBytes : Int) (manifestPath : String) (backend : RecoveryBackend)
    (entries : Dict String PrebuiltEntry) : Prop where
  loaded : loadPrebuiltManifest host manifestPath = .ok entries
  probe : ∀ header data, backend.probe header data = .ok (if tools.sha256 data ∈ entries.keys then ⟨some 1, "1.0"⟩ else ⟨some 0, "0.0"⟩)
  recover : backend.recover = handOver host tools maxOutputBytes entries

theorem prebuiltDumpBackend_ok {backend : RecoveryBackend} (made : prebuiltDumpBackend host manifestPath tools maxOutputBytes = .ok backend) :
    ∃ entries, MadeFrom host tools maxOutputBytes manifestPath backend entries := by
  obtain ⟨entries, loaded, named⟩ := bind_ok.mp made
  obtain ⟨raw, _, returned⟩ := bind_ok.mp named
  cases returned
  exact ⟨entries, loaded, fun _ _ => rfl, rfl⟩

/-- A backend of a manifest hands over the file of the object that is listed for the input. -/
theorem MadeFrom.recover_ok {backend : RecoveryBackend} (made : MadeFrom host tools maxOutputBytes manifestPath backend entries) :
    backend.recover data = .ok payload ↔
      ∃ entry, ListedIn host manifestPath entry ∧ Delivers host tools maxOutputBytes data payload.data entry ∧
        payload = { data := payload.data } := by
  rw [made.recover, handOver_ok]
  refine exists_congr fun entry => ?_
  rw [get?_loaded made.loaded]
  constructor
  · rintro ⟨⟨listed, named⟩, noLink, isFile, bounded, held, pinned, only⟩
    exact ⟨listed, ⟨named, pinned.symm, noLink, isFile, bounded, held⟩, only⟩
  · rintro ⟨listed, ⟨named, pinned, noLink, isFile, bounded, held⟩, only⟩
    exact ⟨⟨listed, named⟩, noLink, isFile, bounded, held, pinned.symm, only⟩

theorem MadeFrom.mem_keys {backend : RecoveryBackend} (made : MadeFrom host tools maxOutputBytes manifestPath backend entries) :
    tools.sha256 data ∈ entries.keys ↔ ∃ entry, ListedIn host manifestPath entry ∧ entry.originalSha256 = tools.sha256 data := by
  constructor
  · intro known
    obtain ⟨entry, found⟩ := Dict.get?_of_key known
    exact ⟨entry, (get?_loaded made.loaded).mp found⟩
  · rintro ⟨entry, listed⟩
    exact List.mem_map_of_mem (f := Prod.fst) (Dict.mem_of_get? ((get?_loaded made.loaded).mpr listed))

/-- Such a backend is sure of the inputs that its manifest lists, and of no other. -/
theorem MadeFrom.confidence {backend : RecoveryBackend} (made : MadeFrom host tools maxOutputBytes manifestPath backend entries)
    (header : PspContainerHeader) :
    probeConfidence header data backend = .ok (if tools.sha256 data ∈ entries.keys then 1 else 0) := by
  rw [probeConfidence, made.probe]
  by_cases known : tools.sha256 data ∈ entries.keys <;> simp [known]

/-- A backend is made of a manifest just when it is a JSON list of objects that have the three texts, whose paths stay inside
its directory, and of which no two are for one input. It is then sure of the inputs that are listed, and for an input it
hands over the bytes of the listed file: no link, within the bound, and with the hash that the object states. -/
theorem prebuiltDumpBackend_accepts :
    ((prebuiltDumpBackend host manifestPath tools maxOutputBytes).isOk = true ↔
      ∃ items listed, ManifestItems host manifestPath items ∧
        List.Forall₂ (ReadsAs host (host.resolve manifestPath).dropLast) items listed ∧ (listed.map (·.originalSha256)).Nodup) ∧
    ∀ backend, prebuiltDumpBackend host manifestPath tools maxOutputBytes = .ok backend → ∀ data,
      (∀ header, probeConfidence header data backend = .ok 1 ↔
        ∃ entry, ListedIn host manifestPath entry ∧ entry.originalSha256 = tools.sha256 data) ∧
      ∀ payload, backend.recover data = .ok payload ↔
        ∃ entry, ListedIn host manifestPath entry ∧ Delivers host tools maxOutputBytes data payload.data entry ∧
          payload = { data := payload.data } := by
  refine ⟨⟨fun succeeds => ?_, ?_⟩, fun backend made data => ?_⟩
  · obtain ⟨backend, made⟩ := exists_ok succeeds
    obtain ⟨entries, made⟩ := prebuiltDumpBackend_ok made
    obtain ⟨items, listed, read, reads, apart, _⟩ := loadPrebuiltManifest_iff.mp made.loaded
    exact ⟨items, listed, read, reads, apart⟩
  · rintro ⟨items, listed, read, reads, apart⟩
    have loaded := loadPrebuiltManifest_iff.mpr ⟨items, listed, read, reads, apart, rfl⟩
    obtain ⟨raw, _, bytes, _⟩ := read
    simp only [prebuiltDumpBackend, loaded, bytes, Except.mapError, ok_bind]
    rfl
  · obtain ⟨entries, made⟩ := prebuiltDumpBackend_ok made
    refine ⟨fun header => ?_, fun payload => made.recover_ok⟩
    rw [made.confidence, ← made.mem_keys]
    split <;> simp_all

theorem runTool_ok {tool : ExternalTool} (ran : runTool host tools maxOutputBytes tool outputPath data = .ok payload) :
    tool.Leaves maxOutputBytes data payload.data := by
  unfold runTool at ran
  cases finished : tool.run data with
  | notExecuted text => simp [finished] at ran
  | timedOut => simp [finished] at ran
  | completed returncode stdout stderr output =>
    simp only [finished] at ran
    split at ran
    · cases ran
    · rename_i succeeded
      cases output with
      | none => cases ran
      | some file =>
        obtain ⟨contents, readBack, returned⟩ := bind_ok.mp ran
        obtain ⟨⟨size, measured, bounded⟩, held⟩ := readBoundedFile_ok.mp readBack
        cases returned
        obtain ⟨first, second⟩ := file
        cases measured
        cases held
        cases not_not.mp succeeded
        exact ⟨stdout, stderr, size, finished, bounded⟩

theorem verifyPayload_data {backendName : String} {warnings : List String} {result : RecoveryResult}
    (returned : verifyPayload tools data maxOutputBytes backendName warnings payload = .ok result) : result.data = payload.data := by
  unfold verifyPayload at returned
  simp only [bind_ok] at returned
  obtain ⟨_, _, _, _, _, _, _, _, _, _, _, _, same⟩ := returned
  cases same
  rfl

variable {externals : List ExternalTool} {manifests : List String} {backends : List RecoveryBackend}

/-- The backends of a command line: one of every tool, then one of every manifest. -/
theorem buildRecoveryBackends_mem {backend : RecoveryBackend}
    (built : buildRecoveryBackends host tools maxOutputBytes outputPath externals manifests = .ok backends) (listed : backend ∈ backends) :
    (∃ tool ∈ externals, backend = externalDecryptorBackend host tools maxOutputBytes tool outputPath) ∨
      ∃ manifest ∈ manifests, ∃ entries, MadeFrom host tools maxOutputBytes manifest backend entries := by
  obtain ⟨prebuilt, made, returned⟩ := bind_ok.mp built
  cases returned
  rcases List.mem_append.mp listed with external | fromManifest
  · obtain ⟨tool, member, rfl⟩ := List.mem_map.mp external
    exact Or.inl ⟨tool, member, rfl⟩
  · obtain ⟨manifest, member, named⟩ := forall₂_mem (mapM_ok.mp made) fromManifest
    exact Or.inr ⟨manifest, member, prebuiltDumpBackend_ok named⟩

theorem buildRecoveryBackends_manifest
    (built : buildRecoveryBackends host tools maxOutputBytes outputPath externals manifests = .ok backends)
    {manifest : String} (listed : manifest ∈ manifests) :
    ∃ backend ∈ backends, ∃ entries, MadeFrom host tools maxOutputBytes manifest backend entries := by
  obtain ⟨prebuilt, made, returned⟩ := bind_ok.mp built
  cases returned
  obtain ⟨backend, member, named⟩ := forall₂_mem (mapM_ok.mp made).flip listed
  exact ⟨backend, List.mem_append_right _ member, prebuiltDumpBackend_ok named⟩

/-- What a recovery returns is what the selected backend has handed over. -/
theorem recoverBytes_ok {result : RecoveryResult} (recoveredFrom : recoverBytes tools data maxOutputBytes backends = .ok result) :
    ∃ backend ∈ backends, ∃ payload, backend.recover data = .ok payload ∧ result.data = payload.data := by
  obtain ⟨header, _, returned⟩ := bind_ok.mp recoveredFrom
  unfold recoverContainer at returned
  split at returned
  · cases returned
  · rename_i backend _ _ selected
    obtain ⟨payload, called, verdict⟩ := bind_ok.mp returned
    exact ⟨backend, selectRecoveryBackend_mem selected, payload, mapError_ok.mp called, verifyPayload_data verdict⟩

/-- Where every probe answers with a number that is allowed, the selection warns of nothing and takes the best. -/
theorem selectRecoveryBackend_quiet {header : PspContainerHeader} (answers : ∀ backend ∈ backends, ∃ score,
    probeConfidence header data backend = .ok score) (threshold : Rat) :
    selectRecoveryBackend tools header data threshold backends =
      ((ScoredChoice.byNames (fun backend => reaching threshold (probeConfidence header data backend))
        (fun backend => tools.casefold backend.name) (·.name)).best backends, []) := by
  refine Prod.ext (selectRecoveryBackend_eq_best backends) (List.filterMap_eq_nil_iff.mpr fun backend listed => ?_)
  obtain ⟨score, answered⟩ := answers backend listed
  rw [probeWarning, answered]

/-- The bytes that a recovery returns were left behind by an external tool, or they are those of the file that an object of
a manifest lists for this input, with the hash that the object states. Where there are only manifests and none lists the
input, the recovery says that no backend accepts it. Where some list it and all these lead to the same bytes, just the
checks of the bytes decide. -/
theorem recoverBytes_source
    (built : buildRecoveryBackends host tools maxOutputBytes outputPath externals manifests = .ok backends) :
    (∀ result, recoverBytes tools data maxOutputBytes backends = .ok result →
      (∃ tool ∈ externals, tool.Leaves maxOutputBytes data result.data) ∨
      ∃ manifest ∈ manifests, ∃ entry, ListedIn host manifest entry ∧ Delivers host tools maxOutputBytes data result.data entry) ∧
    ∀ header, externals = [] → parsePspContainerHeader data = .ok header →
      ((∀ manifest ∈ manifests, ∀ entry, ListedIn host manifest entry → entry.originalSha256 ≠ tools.sha256 data) →
        recoverBytes tools data maxOutputBytes backends = .error (.raised (RecoveryErrorClass.backendUnavailable.raised
          "no configured recovery backend accepted this PSP container"
          (some (bareProvenance .noBackendAccepted (tools.sha256 data) none []))))) ∧
      ∀ recovered, (∃ manifest ∈ manifests, ∃ entry, ListedIn host manifest entry ∧ entry.originalSha256 = tools.sha256 data) →
        (∀ manifest ∈ manifests, ∀ entry, ListedIn host manifest entry → entry.originalSha256 = tools.sha256 data →
          Delivers host tools maxOutputBytes data recovered entry) →
        ∃ backend ∈ backends, recoverBytes tools data maxOutputBytes backends =
          verifyPayload tools data maxOutputBytes backend.name [] { data := recovered } := by
  refine ⟨fun result returned => ?_, fun header only parsed => ?_⟩
  · obtain ⟨backend, listed, payload, handed, same⟩ := recoverBytes_ok returned
    rw [same]
    rcases buildRecoveryBackends_mem built listed with ⟨tool, member, rfl⟩ | ⟨manifest, member, entries, made⟩
    · exact Or.inl ⟨tool, member, runTool_ok handed⟩
    · obtain ⟨entry, inManifest, delivers, _⟩ := made.recover_ok.mp handed
      exact Or.inr ⟨manifest, member, entry, inManifest, delivers⟩
  · subst only
    have fromManifest : ∀ backend ∈ backends, ∃ manifest ∈ manifests, ∃ entries,
        MadeFrom host tools maxOutputBytes manifest backend entries := fun backend listed =>
      (buildRecoveryBackends_mem built listed).resolve_left (by simp)
    have answering : ∀ backend ∈ backends, ∃ score, probeConfidence header data backend = .ok score := by
      intro backend listed
      obtain ⟨_, _, _, made⟩ := fromManifest backend listed
      exact ⟨_, made.confidence header⟩
    have run : recoverBytes tools data maxOutputBytes backends = recoverContainer tools data maxOutputBytes header backends := by
      rw [recoverBytes, parsed, Except.mapError, ok_bind]
    rw [run, recoverContainer, selectRecoveryBackend_quiet answering]
    have settled : SettledChoice RecoveryBackend.name (probeConfidence header data) defaultRecoveryThreshold
        (fun backend => tools.casefold backend.name) _ := best_settled
    refine ⟨fun unlisted => ?_, fun recovered lists delivers => ?_⟩
    · have nothing := (settled.nothing backends).mpr fun backend listed score answered => by
        obtain ⟨manifest, member, entries, made⟩ := fromManifest backend listed
        rw [made.confidence, if_neg] at answered
        · cases answered
          norm_num [defaultRecoveryThreshold]
        · intro known
          obtain ⟨entry, inManifest, named⟩ := made.mem_keys.mp known
          exact unlisted manifest member entry inManifest named
      rw [nothing]
    · cases chosen : (ScoredChoice.byNames (fun backend => reaching defaultRecoveryThreshold (probeConfidence header data backend))
          (fun backend => tools.casefold backend.name) (·.name)).best backends with
      | none =>
        -- The backend of the manifest that lists the input would have been accepted.
        obtain ⟨manifest, member, listing⟩ := lists
        obtain ⟨backend, listed, entries, made⟩ := buildRecoveryBackends_manifest built member
        have sure : probeConfidence header data backend = .ok (if tools.sha256 data ∈ entries.keys then 1 else 0) :=
          made.confidence header
        rw [if_pos (made.mem_keys.mpr listing)] at sure
        have low := (settled.nothing backends).mp chosen backend listed 1 sure
        norm_num [defaultRecoveryThreshold] at low
      | some best =>
        obtain ⟨backend, score⟩ := best
        obtain ⟨listed, sure, reached, _⟩ := settled.greatest backends backend score chosen
        obtain ⟨manifest, member, entries, made⟩ := fromManifest backend listed
        have known : tools.sha256 data ∈ entries.keys := by
          by_contra unknown
          rw [made.confidence, if_neg unknown] at sure
          cases sure
          norm_num [defaultRecoveryThreshold] at reached
        obtain ⟨entry, inManifest, named⟩ := made.mem_keys.mp known
        have handed : backend.recover data = .ok { data := recovered } :=
          made.recover_ok.mpr ⟨entry, inManifest, delivers manifest member entry inManifest named, rfl⟩
        refine ⟨backend, listed, ?_⟩
        simp only [handed, Except.mapError, ok_bind]

/-- A host with one manifest beside the one file that it lists. -/
def dumpHost : Host where
  resolve := posixParts
  isSymlink := fun _ => false
  isFile := fun path => path == ["dumps", "module.elf"]
  size := fun _ => .ok sampleExecutable.length
  read := fun _ => .ok sampleExecutable
  readManifest := fun _ => .ok []
  loads := fun _ => .ok (.arr [.obj [("original_sha256", .str (sampleTools.sha256 sampleContainer)),
    ("recovered_sha256", .str (sampleTools.sha256 sampleExecutable)), ("path", .str "module.elf")]])
  lower := id
  strip := id
  values := { strOf := fun _ => "", parseInt := fun _ => none, reprText := id }

def dumpBackends : Except RaisedException (List RecoveryBackend) :=
  buildRecoveryBackends dumpHost sampleTools 64 "/tmp/output.elf" [] ["/dumps/manifest.json"]

theorem dumpHost_source : ∃ backends, dumpBackends = .ok backends ∧
    ∀ result, recoverBytes sampleTools sampleContainer 64 backends = .ok result →
      ∃ entry, ListedIn dumpHost "/dumps/manifest.json" entry ∧
        Delivers dumpHost sampleTools 64 sampleContainer result.data entry := by
  have built : dumpBackends.isOk = true := by decide
  obtain ⟨backends, made⟩ := exists_ok built
  refine ⟨backends, made, fun result returned => ?_⟩
  rcases (recoverBytes_source made).1 result returned with ⟨tool, member, _⟩ | ⟨manifest, member, found⟩
  · cases member
  · cases List.mem_singleton.mp member
    exact found

end Sources

end Backends

end PspDisasm
