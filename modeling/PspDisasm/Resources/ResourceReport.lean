import PspDisasm.Foundations.Grouping
import PspDisasm.Resources.ExtractionResults

namespace PspDisasm
open Foundations

/-- The record of a resource agrees with the lists beside it. -/
structure ResourceReport.Agrees (report : ResourceReport) (resource : DiscResourceRecord) : Prop where
  path : report.record.path = resource.path
  embedded : ∀ item ∈ report.embedded, item.parentPath = resource.path
  embeddedCount : report.record.embeddedCount = report.embedded.length
  candidate : ∀ item ∈ report.candidate, item.path = resource.path
  family : report.record.containerFamily = report.candidate.map (·.familyKey)
  inspection : ∀ item ∈ report.inspection, item.parentPath = resource.path ∧ item.entryCount = report.entries.length
  parser : report.record.containerParser = report.inspection.map (·.parserName)
  entries : ∀ item ∈ report.entries, item.parentPath = resource.path ∧
    report.inspection.map (·.parserName) = some item.parserName
  entryCount : report.record.containerEntryCount = report.entries.length
  known : report.record.detected.format ≠ "unknown" → report.candidate = none ∧ report.inspection = none
  warnings : report.record.warnings = sortedWarnings report.warnings

section Turns
variable {tools : ResourceTools} {parsers : List ResourceContainerParser} {files : OutputFiles} {resource : DiscResourceRecord}
  {source : WorkspacePath} {run next : ResourceRun} {container : ContainerRun}

theorem takeMatch_parent {data : Bytes} {loose : Option ResourceFormatMatch} {run next : EmbeddedRun} {found : ResourceFormatMatch}
    (all : ∀ item ∈ run.records, item.parentPath = resource.path) (turn : takeMatch tools resource data loose run found = .ok next) :
    ∀ item ∈ next.records, item.parentPath = resource.path := by
  unfold takeMatch at turn
  split at turn
  · cases turn
    exact all
  · obtain ⟨⟨written, outcome⟩, _, turn⟩ := bind_ok.mp turn
    dsimp only at turn
    split at turn
    · cases turn
      exact List.forall_mem_append.mpr ⟨all, List.forall_mem_singleton.mpr rfl⟩
    · cases turn
      exact List.forall_mem_append.mpr ⟨all, List.forall_mem_singleton.mpr rfl⟩

theorem extractEmbedded_parent {reading : ResourceReading} {run : EmbeddedRun}
    (ran : extractEmbedded tools files resource reading = .ok run) : ∀ item ∈ run.records, item.parentPath = resource.path := by
  unfold extractEmbedded at ran
  cases held : reading.data with
  | none =>
    rw [held] at ran
    cases ran
    simp
  | some data =>
    rw [held] at ran
    obtain ⟨walked, walk, made⟩ := bind_ok.mp ran
    cases made
    have all := foldlM_keeps (fun run : EmbeddedRun => ∀ item ∈ run.records, item.parentPath = resource.path) walk (by simp)
      fun _ _ _ _ all turn => takeMatch_parent all turn
    intro item member
    exact all item ((List.mem_insertionSort _).mp member)

theorem takeEntry_named {parserName : String} {run next : EntryRun} {entry : ContainerEntry}
    (all : ∀ item ∈ run.records, item.parentPath = resource.path ∧ item.parserName = parserName)
    (turn : takeEntry tools parserName resource source run entry = .ok next) :
    ∀ item ∈ next.records, item.parentPath = resource.path ∧ item.parserName = parserName := by
  obtain ⟨destination, _, turn⟩ := bind_ok.mp turn
  split at turn
  · cases turn
    exact all
  · split at turn
    · cases turn
      exact all
    · dsimp only at turn
      split at turn
      · cases turn
        exact all
      · cases turn
        exact List.forall_mem_append.mpr ⟨all, List.forall_mem_singleton.mpr ⟨rfl, rfl⟩⟩

/-- What the lists of a container's run say of each other. -/
structure ContainerRun.Agrees (container : ContainerRun) (resource : DiscResourceRecord) : Prop where
  inspection : ∀ item ∈ container.inspection, item.parentPath = resource.path ∧ item.entryCount = container.entries.length
  entries : ∀ item ∈ container.entries, item.parentPath = resource.path ∧
    container.inspection.map (·.parserName) = some item.parserName

theorem ContainerRun.Agrees.nothing (files : OutputFiles) (warnings : List String) :
    ContainerRun.Agrees ⟨files, none, [], warnings⟩ resource := ⟨by simp, by simp⟩

theorem inspectContainer_agrees {parser : ResourceContainerParser} {confidence : Rat}
    (ran : inspectContainer tools files resource source parser confidence = .ok container) : container.Agrees resource := by
  unfold inspectContainer at ran
  split at ran
  · cases ran
    exact .nothing _ _
  · obtain ⟨run, walked, made⟩ := bind_ok.mp ran
    cases made
    have named := foldlM_keeps
      (fun run : EntryRun => ∀ item ∈ run.records, item.parentPath = resource.path ∧ item.parserName = parser.name) walked (by simp)
      fun _ _ _ _ all turn => takeEntry_named all turn
    refine ⟨fun item same => ?_, fun item member => ⟨(named item member).1, congrArg some (named item member).2.symm⟩⟩
    cases Option.mem_some_iff.mp same
    exact ⟨rfl, rfl⟩

theorem examineCandidate_agrees {reading : ResourceReading} {embedded : List EmbeddedGameResourceRecord}
    {profile : Option ContainerCandidateProfile}
    (ran : examineCandidate tools parsers files resource source reading embedded = .ok (profile, container)) :
    container.Agrees resource ∧ (∀ item ∈ profile, item.path = resource.path) ∧
      ((knownFileFields reading.looseMatch).format ≠ "unknown" → profile = none ∧ container.inspection = none) := by
  unfold examineCandidate at ran
  split at ran
  · cases ran
    exact ⟨.nothing _ _, by simp, fun _ => ⟨rfl, rfl⟩⟩
  · rename_i unknown
    obtain ⟨run, parsed, made⟩ := bind_ok.mp ran
    cases made
    refine ⟨?_, ?_, fun known => absurd known unknown⟩
    · unfold parseContainer at parsed
      split at parsed
      · cases parsed
        exact .nothing _ _
      · split at parsed
        · cases parsed
          exact .nothing _ _
        · obtain ⟨inner, inspected, made⟩ := bind_ok.mp parsed
          cases made
          obtain ⟨inspection, entries⟩ := inspectContainer_agrees inspected
          exact ⟨inspection, entries⟩
    · cases read : readOutput tools files source with
      | error text => simp
      | ok data =>
        intro item same
        cases Option.mem_some_iff.mp same
        rfl

theorem reportResource_agrees {report : ResourceReport} {final : OutputFiles}
    (ran : reportResource tools parsers files resource source = .ok (final, report)) : report.Agrees resource := by
  obtain ⟨embedded, extracted, ran⟩ := bind_ok.mp ran
  obtain ⟨⟨profile, container⟩, examined, ran⟩ := bind_ok.mp ran
  cases ran
  obtain ⟨⟨inspection, entries⟩, candidate, known⟩ := examineCandidate_agrees examined
  exact ⟨rfl, extractEmbedded_parent extracted, rfl, candidate, rfl, inspection, rfl, entries, rfl, known, rfl⟩

/-- The reports of some turns, put together. -/
def reportsRun (files : OutputFiles) (reports : List ResourceReport) : ResourceRun where
  files := files
  resources := reports.map (·.record)
  embedded := reports.flatMap (·.embedded)
  candidates := reports.flatMap (·.candidate.toList)
  inspections := reports.flatMap (·.inspection.toList)
  entries := reports.flatMap (·.entries)
  warnings := reports.flatMap (·.warnings)

theorem reportsRun_add (files final : OutputFiles) (reports : List ResourceReport) (report : ResourceReport) :
    (reportsRun files reports).add final report = reportsRun final (reports ++ [report]) := by
  simp only [ResourceRun.add, reportsRun, List.map_append, List.flatMap_append, List.map_singleton, List.flatMap_singleton]

/-- The turns of an analysis give one report for each resource. -/
theorem reports_run {reports : List ResourceReport} {rest : List (DiscResourceRecord × WorkspacePath)}
    (ran : rest.foldlM (analyzeResource tools parsers) (reportsRun files reports) = .ok next) :
    ∃ more, List.Forall₂ (fun report item => report.Agrees item.1) more rest ∧ next = reportsRun next.files (reports ++ more) := by
  induction rest generalizing files reports with
  | nil =>
    cases ran
    exact ⟨[], .nil, by rw [List.append_nil]; rfl⟩
  | cons item rest ih =>
    rw [List.foldlM_cons] at ran
    obtain ⟨middle, turn, ran⟩ := bind_ok.mp ran
    obtain ⟨⟨final, report⟩, reported, turn⟩ := bind_ok.mp turn
    cases turn
    rw [reportsRun_add] at ran
    obtain ⟨more, all, same⟩ := ih ran
    exact ⟨report :: more, .cons (reportResource_agrees reported) all, by rw [List.append_cons]; exact same⟩

end Turns

/-- The lists of an analysis agree with each other. -/
structure GameResourceAnalysis.Consistent (analysis : GameResourceAnalysis) (resources : List DiscResourceRecord) : Prop where
  covers : (analysis.resources.map (·.path)).Perm (resources.map (·.path))
  embedded : ∀ record ∈ analysis.resources,
    (analysis.embeddedResources.filter fun item => item.parentPath = record.path).length = record.embeddedCount
  entries : ∀ record ∈ analysis.resources,
    (analysis.containerEntries.filter fun item => item.parentPath = record.path).length = record.containerEntryCount
  parsed : ∀ record ∈ analysis.resources, ∀ item ∈ analysis.containerEntries, item.parentPath = record.path →
    record.containerParser = some item.parserName
  inspections : ∀ record ∈ analysis.resources,
    ((analysis.containerInspections.filter fun item => item.parentPath = record.path).map fun item =>
      (item.parserName, item.entryCount)) = (record.containerParser.map fun name => (name, record.containerEntryCount)).toList
  candidates : ∀ record ∈ analysis.resources,
    ((analysis.containerCandidates.filter fun item => item.path = record.path).map (·.familyKey)) = record.containerFamily.toList
  known : ∀ record ∈ analysis.resources, record.detected.format ≠ "unknown" →
    record.containerFamily = none ∧ record.containerParser = none
  -- The families share the candidates out.
  families : (analysis.containerFamilies.map (·.familyKey)).Nodup
  members : (analysis.containerFamilies.flatMap (·.memberPaths)).Perm (analysis.containerCandidates.map (·.path))
  sized : (analysis.containerFamilies.map (·.totalSize)).sum = (analysis.containerCandidates.map (·.size)).sum
  counted : ∀ family ∈ analysis.containerFamilies, family.memberCount = family.memberPaths.length ∧ family.memberPaths ≠ []
  belongs : ∀ record ∈ analysis.resources, ∀ key, record.containerFamily = some key →
    ∃ family ∈ analysis.containerFamilies, family.familyKey = key ∧ record.path ∈ family.memberPaths
  warnings : ∀ text, text ∈ analysis.warnings ↔ ∃ record ∈ analysis.resources, text ∈ record.warnings

section Families
variable {tools : ResourceTools} {profiles : List ContainerCandidateProfile} {key : String}

/-- The members of a family, in the order in which it lists them. -/
def familyMembers (tools : ResourceTools) (profiles : List ContainerCandidateProfile) (key : String) : List ContainerCandidateProfile :=
  (profiles.filter fun profile => profile.familyKey = key).insertionSort fun item other =>
    tools.casefold item.path ≤ tools.casefold other.path

theorem familyMembers_perm : (familyMembers tools profiles key).Perm (profiles.filter fun profile => profile.familyKey = key) :=
  List.perm_insertionSort _ _

/-- The keys of the families, in their order. -/
def familyKeys (tools : ResourceTools) (profiles : List ContainerCandidateProfile) : List String :=
  (groupedProfiles profiles).keys.insertionSort fun key other => tools.casefold key ≤ tools.casefold other

theorem groupedProfiles_eq : groupedProfiles profiles = grouped (·.familyKey) profiles := rfl

theorem familyKeys_nodup : (familyKeys tools profiles).Nodup := by
  rw [familyKeys, groupedProfiles_eq]
  exact (List.perm_insertionSort _ _).nodup_iff.mpr keys_grouped_nodup

theorem mem_familyKeys : key ∈ familyKeys tools profiles ↔ key ∈ profiles.map (·.familyKey) := by
  rw [familyKeys, groupedProfiles_eq, List.mem_insertionSort]
  exact mem_keys_grouped

theorem groupContainerFamilies_eq : groupContainerFamilies tools profiles = (familyKeys tools profiles).map fun key =>
    containerFamily tools key (profiles.filter fun profile => profile.familyKey = key) := by
  refine List.map_congr_left fun key _ => ?_
  rw [groupedProfiles_eq, get?_grouped]

theorem containerFamily_members : (containerFamily tools key (profiles.filter fun profile => profile.familyKey = key)).memberPaths =
    (familyMembers tools profiles key).map (·.path) := rfl

/-- The members of all families together are the candidates. -/
theorem familyMembers_all : ((familyKeys tools profiles).flatMap (familyMembers tools profiles)).Perm profiles := by
  refine (List.Perm.flatMap_left _ fun key _ => familyMembers_perm).trans ?_
  exact keyGroups_perm familyKeys_nodup fun profile member => mem_familyKeys.mpr (List.mem_map_of_mem member)

theorem familyMembers_nonempty (listed : key ∈ familyKeys tools profiles) : familyMembers tools profiles key ≠ [] := by
  obtain ⟨profile, member, same⟩ := List.mem_map.mp (mem_familyKeys.mp listed)
  refine List.ne_nil_of_mem (a := profile) (familyMembers_perm.mem_iff.mpr (List.mem_filter.mpr ⟨member, decide_eq_true same⟩))

end Families

section Consistency
variable {tools : ResourceTools} {parsers : List ResourceContainerParser} {sourceName : String} {files final : OutputFiles}
  {resources : List DiscResourceRecord} {analysis : GameResourceAnalysis} {reports : List ResourceReport} {report : ResourceReport}

theorem mem_sortedWarnings {warnings : List String} {text : String} : text ∈ sortedWarnings warnings ↔ text ∈ warnings := by
  rw [sortedWarnings, List.mem_insertionSort, List.mem_dedup]

theorem eq_toList_of_perm {α : Type} {items : List α} {option : Option α} (same : items.Perm option.toList) : items = option.toList := by
  cases option with
  | none => exact same.eq_nil
  | some item => exact List.perm_singleton.mp same

/-- An analysis with the reports that it was put together from. -/
structure AnalysisReports (tools : ResourceTools) (resources : List DiscResourceRecord) (analysis : GameResourceAnalysis)
    (reports : List ResourceReport) : Prop where
  covers : (reports.map (·.record.path)).Perm (resources.map (·.path))
  agrees : ∀ report ∈ reports, ∃ resource ∈ resources, report.Agrees resource
  records : analysis.resources.Perm (reports.map (·.record))
  embedded : analysis.embeddedResources.Perm (reports.flatMap (·.embedded))
  candidates : analysis.containerCandidates.Perm (reports.flatMap (·.candidate.toList))
  inspections : analysis.containerInspections.Perm (reports.flatMap (·.inspection.toList))
  entries : analysis.containerEntries.Perm (reports.flatMap (·.entries))
  families : analysis.containerFamilies = groupContainerFamilies tools analysis.containerCandidates
  warnings : analysis.warnings = sortedWarnings (reports.flatMap (·.warnings))

theorem resolved_firsts {ordered : List DiscResourceRecord} {resolved : List (DiscResourceRecord × WorkspacePath)}
    (targets : List.Forall₂ (fun record item => (do
      let path ← safeResourceTarget [] record.outputPath
      return (record, path) : Except GameFailure (DiscResourceRecord × WorkspacePath)) = .ok item) ordered resolved) :
    resolved.map Prod.fst = ordered := by
  induction targets with
  | nil => rfl
  | cons head _ ih =>
    obtain ⟨path, _, made⟩ := bind_ok.mp head
    cases made
    rw [List.map_cons, ih]

theorem reported_paths {items : List (DiscResourceRecord × WorkspacePath)}
    (all : List.Forall₂ (fun report item => ResourceReport.Agrees report item.1) reports items) :
    reports.map (·.record.path) = (items.map Prod.fst).map (·.path) := by
  induction all with
  | nil => rfl
  | cons agrees _ ih => rw [List.map_cons, List.map_cons, List.map_cons, ih, agrees.path]

theorem analyzeGameResources_reports
    (ran : analyzeGameResources tools parsers sourceName files resources = .ok (analysis, final)) :
    ∃ reports, AnalysisReports tools resources analysis reports := by
  unfold analyzeGameResources at ran
  dsimp only at ran
  obtain ⟨resolved, targets, ran⟩ := bind_ok.mp ran
  obtain ⟨run, walked, made⟩ := bind_ok.mp ran
  cases made
  obtain ⟨reports, all, same⟩ := @reports_run _ _ _ _ [] _ walked
  rw [List.nil_append] at same
  have ordered := List.perm_insertionSort
    (fun item other : DiscResourceRecord => tools.casefold item.path ≤ tools.casefold other.path) resources
  have firsts := resolved_firsts (mapM_ok.mp targets)
  refine ⟨reports, ?_, fun report member => ?_, ?_, ?_, ?_, ?_, ?_, rfl, ?_⟩
  · rw [reported_paths all, firsts]
    exact ordered.map _
  · obtain ⟨item, listed, agrees⟩ := forall₂_mem all.flip member
    refine ⟨item.1, ordered.mem_iff.mp ?_, agrees⟩
    rw [← firsts]
    exact List.mem_map_of_mem listed
  all_goals rw [same]
  · exact List.perm_insertionSort _ _
  · exact List.perm_insertionSort _ _
  · exact List.perm_insertionSort _ _
  · exact List.perm_insertionSort _ _
  · exact List.perm_insertionSort _ _
  · rfl

namespace AnalysisReports
variable {record : GameResourceRecord}

theorem reported (kept : AnalysisReports tools resources analysis reports) (listed : record ∈ analysis.resources) :
    ∃ report ∈ reports, report.record = record := List.mem_map.mp (kept.records.mem_iff.mp listed)

/-- Of the items of all reports, those of a path are those of its report. -/
theorem select (kept : AnalysisReports tools resources analysis reports) (distinct : (resources.map (·.path)).Nodup)
    {α : Type} {parent : α → String} {content : ResourceReport → List α}
    (named : ∀ report resource, report.Agrees resource → ∀ item ∈ content report, parent item = resource.path)
    (member : report ∈ reports) :
    (reports.flatMap content).filter (fun item => parent item = report.record.path) = content report := by
  refine filter_flatMap_key (kept.covers.nodup_iff.mpr distinct) (fun report listed item inside => ?_) member
  obtain ⟨resource, _, agrees⟩ := kept.agrees report listed
  rw [named report resource agrees item inside, agrees.path]

theorem members (kept : AnalysisReports tools resources analysis reports) :
    (analysis.containerFamilies.flatMap (·.memberPaths)).Perm (analysis.containerCandidates.map (·.path)) := by
  rw [kept.families, groupContainerFamilies_eq, List.flatMap_map]
  simp only [containerFamily_members]
  rw [← List.map_flatMap]
  exact familyMembers_all.map _

theorem sized (kept : AnalysisReports tools resources analysis reports) :
    (analysis.containerFamilies.map (·.totalSize)).sum = (analysis.containerCandidates.map (·.size)).sum := by
  have members : ((familyKeys tools analysis.containerCandidates).flatMap
      (familyMembers tools analysis.containerCandidates)).Perm analysis.containerCandidates := familyMembers_all
  have all := members.map (·.size)
  rw [kept.families, groupContainerFamilies_eq, ← all.sum_nat, List.map_map, List.map_flatMap, List.flatMap_def, List.sum_flatten, List.map_map]
  rfl

theorem belongs (kept : AnalysisReports tools resources analysis reports) (listed : record ∈ analysis.resources) {key : String}
    (family : record.containerFamily = some key) :
    ∃ family ∈ analysis.containerFamilies, family.familyKey = key ∧ record.path ∈ family.memberPaths := by
  obtain ⟨report, member, rfl⟩ := kept.reported listed
  obtain ⟨resource, _, agrees⟩ := kept.agrees report member
  obtain ⟨profile, found, rfl⟩ := Option.map_eq_some_iff.mp (agrees.family.symm.trans family)
  have candidate : profile ∈ analysis.containerCandidates :=
    kept.candidates.mem_iff.mpr (List.mem_flatMap.mpr ⟨report, member, by rw [found]; exact List.mem_cons_self⟩)
  rw [kept.families, groupContainerFamilies_eq]
  refine ⟨_, List.mem_map_of_mem (mem_familyKeys.mpr (List.mem_map_of_mem candidate)), rfl, ?_⟩
  rw [containerFamily_members, agrees.path, ← agrees.candidate profile found]
  exact List.mem_map_of_mem (familyMembers_perm.mem_iff.mpr (List.mem_filter.mpr ⟨candidate, decide_eq_true rfl⟩))

end AnalysisReports

/-- The lists that an analysis reports agree: with its counts, with its names, and family by family. -/
theorem analyzeGameResources_consistent (distinct : (resources.map (·.path)).Nodup)
    (ran : analyzeGameResources tools parsers sourceName files resources = .ok (analysis, final)) : analysis.Consistent resources := by
  obtain ⟨reports, kept⟩ := analyzeGameResources_reports ran
  have agreed : ∀ record ∈ analysis.resources, ∃ report ∈ reports, report.record = record ∧
      ∃ resource, report.Agrees resource := by
    intro record listed
    obtain ⟨report, member, same⟩ := kept.reported listed
    obtain ⟨resource, _, agrees⟩ := kept.agrees report member
    exact ⟨report, member, same, resource, agrees⟩
  constructor
  · have paths := (kept.records.map (·.path)).trans (List.Perm.of_eq List.map_map)
    exact paths.trans kept.covers
  · intro record listed
    obtain ⟨report, member, rfl, resource, agrees⟩ := agreed record listed
    rw [(kept.embedded.filter _).length_eq, kept.select distinct (fun _ _ agrees => agrees.embedded) member, agrees.embeddedCount]
  · intro record listed
    obtain ⟨report, member, rfl, resource, agrees⟩ := agreed record listed
    rw [(kept.entries.filter _).length_eq,
      kept.select distinct (fun _ _ agrees item inside => (agrees.entries item inside).1) member, agrees.entryCount]
  · intro record listed item inside parent
    obtain ⟨report, member, rfl, resource, agrees⟩ := agreed record listed
    have selected := kept.select distinct (fun _ _ agrees item inside => (agrees.entries item inside).1) member
    have here : item ∈ report.entries := by
      rw [← selected]
      exact List.mem_filter.mpr ⟨kept.entries.mem_iff.mp inside, decide_eq_true parent⟩
    rw [agrees.parser, (agrees.entries item here).2]
  · intro record listed
    obtain ⟨report, member, rfl, resource, agrees⟩ := agreed record listed
    have chosen := kept.inspections.filter fun item => item.parentPath = report.record.path
    rw [kept.select distinct (fun _ _ agrees item inside => (agrees.inspection item (Option.mem_toList.mp inside)).1) member] at chosen
    rw [eq_toList_of_perm chosen, agrees.parser]
    cases found : report.inspection with
    | none => rfl
    | some item =>
      have count := (agrees.inspection item found).2
      rw [agrees.entryCount, ← count]
      rfl
  · intro record listed
    obtain ⟨report, member, rfl, resource, agrees⟩ := agreed record listed
    have chosen := kept.candidates.filter fun item => item.path = report.record.path
    rw [kept.select distinct (fun _ _ agrees item inside => agrees.candidate item (Option.mem_toList.mp inside)) member] at chosen
    rw [eq_toList_of_perm chosen, agrees.family]
    cases report.candidate <;> rfl
  · intro record listed known
    obtain ⟨report, member, rfl, resource, agrees⟩ := agreed record listed
    obtain ⟨candidate, inspection⟩ := agrees.known known
    rw [agrees.family, agrees.parser, candidate, inspection]
    exact ⟨rfl, rfl⟩
  · rw [kept.families, groupContainerFamilies_eq, List.map_map]
    exact (List.map_id _).symm ▸ familyKeys_nodup
  · exact kept.members
  · exact kept.sized
  · rw [kept.families, groupContainerFamilies_eq]
    refine List.forall_mem_map.mpr fun key listed => ⟨?_, ?_⟩
    · rw [containerFamily_members, List.length_map]
      rfl
    · rw [containerFamily_members]
      exact fun none => familyMembers_nonempty listed (List.map_eq_nil_iff.mp none)
  · intro record listed key family
    exact kept.belongs listed family
  · intro text
    rw [kept.warnings, mem_sortedWarnings, List.mem_flatMap]
    constructor
    · rintro ⟨report, member, inside⟩
      obtain ⟨resource, _, agrees⟩ := kept.agrees report member
      refine ⟨report.record, kept.records.mem_iff.mpr (List.mem_map_of_mem member), ?_⟩
      rw [agrees.warnings, mem_sortedWarnings]
      exact inside
    · rintro ⟨record, listed, inside⟩
      obtain ⟨report, member, rfl, resource, agrees⟩ := agreed record listed
      rw [agrees.warnings, mem_sortedWarnings] at inside
      exact ⟨report, member, inside⟩

end Consistency

theorem pairRun_consistent : ∃ analysis final, pairRun = .ok (analysis, final) ∧ analysis.Consistent [pairResource] := by
  obtain ⟨⟨analysis, final⟩, ran, _⟩ := toOption_map_ok pairRun_ok
  exact ⟨analysis, final, ran, analyzeGameResources_consistent (List.nodup_singleton _) ran⟩

end PspDisasm
