import PspDisasm.Resources.AssetDiscovery

namespace PspDisasm
open Foundations

namespace AssetDiscovery
open Spim

section Candidates
variable (assets : List AssetRecord) (disassembly : DisassemblyResult) (dataTyping : DataTypingResult)

/-- What a reference, a typed reference or a typed datum that leads to the start of an asset contributes. -/
inductive LeadsTo : AssetReferenceRecord → Prop
  | direct {reference : ReferenceRecord} {asset : AssetRecord} (listed : reference ∈ disassembly.references)
      (starts : assetAt assets reference.targetAddress = some asset) :
      LeadsTo ⟨reference.sourceAddress, asset.address, reference.sourceFunction, "direct", asset.format, asset.confidence,
        ["asset_exact_start", "reference_record"]⟩
  | typed {reference : TypedReferenceRecord} {asset : AssetRecord} (listed : reference ∈ dataTyping.typedReferences)
      (starts : assetAt assets reference.targetAddress = some asset) :
      LeadsTo ⟨reference.sourceAddress, asset.address, reference.sourceFunction, "typed", asset.format,
        min asset.confidence reference.confidence, evidenceUnion reference.evidence ["asset_exact_start", "typed_reference"]⟩
  | typedData {record : DataTyping.DataTypeRecord} {asset : AssetRecord} {target : Int} (listed : record ∈ dataTyping.dataTypes)
      (points : record.targetAddress = some target) (starts : assetAt assets target = some asset) :
      LeadsTo ⟨record.address, asset.address, none, "typed_data", asset.format,
        min asset.confidence record.confidence, evidenceUnion record.evidence ["asset_exact_start", "typed_data"]⟩

variable {assets disassembly dataTyping} {candidate : AssetReferenceRecord}

theorem mem_candidates :
    candidate ∈ directCandidates assets disassembly ++ typedCandidates assets dataTyping ++ dataCandidates assets dataTyping ↔
      LeadsTo assets disassembly dataTyping candidate := by
  simp only [directCandidates, typedCandidates, dataCandidates, List.mem_append, List.mem_filterMap, mem_sortedBy,
    Option.map_eq_some_iff, Option.bind_eq_some_iff]
  constructor
  · rintro ((⟨reference, listed, asset, starts, rfl⟩ | ⟨reference, listed, asset, starts, rfl⟩) |
      ⟨record, listed, target, points, asset, starts, rfl⟩)
    · exact .direct listed starts
    · exact .typed listed starts
    · exact .typedData listed points starts
  · intro leads
    cases leads with
    | direct listed starts => exact Or.inl (Or.inl ⟨_, listed, _, starts, rfl⟩)
    | typed listed starts => exact Or.inl (Or.inr ⟨_, listed, _, starts, rfl⟩)
    | typedData listed points starts => exact Or.inr ⟨_, listed, _, points, _, starts, rfl⟩

theorem LeadsTo.asset (leads : LeadsTo assets disassembly dataTyping candidate) :
    ∃ asset, assetAt assets candidate.assetAddress = some asset ∧ candidate.assetFormat = asset.format ∧
      candidate.confidence ≤ asset.confidence := by
  cases leads with
  | @direct _ asset _ starts => exact ⟨asset, (get?_byKey_some starts).1 ▸ starts, rfl, le_rfl⟩
  | @typed _ asset _ starts => exact ⟨asset, (get?_byKey_some starts).1 ▸ starts, rfl, min_le_left _ _⟩
  | @typedData _ asset _ _ _ starts => exact ⟨asset, (get?_byKey_some starts).1 ▸ starts, rfl, min_le_left _ _⟩

end Candidates

section Joining
variable {items : List AssetReferenceRecord} {record item : AssetReferenceRecord} {text : String}

theorem mem_evidenceUnion {first second : List String} : text ∈ evidenceUnion first second ↔ text ∈ first ∨ text ∈ second := by
  rw [evidenceUnion, mem_sortedBy, List.mem_dedup, List.mem_append]

def Unnamed (name : Option String) : Prop := name = none ∨ name = some ""

/-- A record has the greatest confidence of some items and all their evidence, and where one of them names a function, it
names a function of one of them. -/
structure Gathers (items : List AssetReferenceRecord) (record : AssetReferenceRecord) : Prop where
  identity : ∃ item ∈ items, item.key = record.key ∧ item.assetFormat = record.assetFormat
  upper : ∀ item ∈ items, item.confidence ≤ record.confidence
  attained : ∃ item ∈ items, item.confidence = record.confidence
  evidence : ∀ text, text ∈ record.evidence ↔ ∃ item ∈ items, text ∈ item.evidence
  caller : ∃ item ∈ items, item.sourceFunction = record.sourceFunction
  named : Unnamed record.sourceFunction → ∀ item ∈ items, Unnamed item.sourceFunction

theorem Gathers.first (item : AssetReferenceRecord) : Gathers [item] item where
  identity := ⟨item, List.mem_singleton_self _, rfl, rfl⟩
  upper := by simp
  attained := by simp
  evidence := by simp
  caller := by simp
  named := by simp

theorem nameOr_unnamed {first second : Option String} : Unnamed (nameOr first second) ↔ Unnamed first ∧ Unnamed second := by
  unfold nameOr
  split
  · rename_i unnamed
    exact (and_iff_right unnamed).symm
  · rename_i named
    exact iff_of_false named fun both => named both.1

theorem Gathers.further (gathers : Gathers items record) : Gathers (items ++ [item]) (record.join item) where
  identity := by
    obtain ⟨first, listed, same⟩ := gathers.identity
    exact ⟨first, List.mem_append_left _ listed, same⟩
  upper := by
    rw [List.forall_mem_append, List.forall_mem_singleton]
    exact ⟨fun other listed => (gathers.upper other listed).trans (le_max_left _ _), le_max_right _ _⟩
  attained := by
    obtain ⟨best, listed, same⟩ := gathers.attained
    rcases le_total record.confidence item.confidence with below | above
    · exact ⟨item, by simp, (max_eq_right below).symm⟩
    · exact ⟨best, List.mem_append_left _ listed, same.trans (max_eq_left above).symm⟩
  evidence text := by
    have joined : text ∈ (record.join item).evidence ↔ text ∈ record.evidence ∨ text ∈ item.evidence := mem_evidenceUnion
    rw [joined, gathers.evidence]
    simp only [List.mem_append, List.mem_singleton, or_and_right, exists_or, exists_eq_left]
  caller := by
    have joined : (record.join item).sourceFunction = nameOr record.sourceFunction item.sourceFunction := rfl
    rw [joined, nameOr]
    split
    · exact ⟨item, by simp, rfl⟩
    · obtain ⟨other, listed, same⟩ := gathers.caller
      exact ⟨other, List.mem_append_left _ listed, same⟩
  named := by
    intro unnamed
    obtain ⟨current, last⟩ := nameOr_unnamed.mp unnamed
    rw [List.forall_mem_append, List.forall_mem_singleton]
    exact ⟨gathers.named current, last⟩

theorem join_key (current candidate : AssetReferenceRecord) : (current.join candidate).key = current.key := rfl

theorem joined_gathers {k : AssetReferenceKey} (found : (joined AssetReferenceRecord.key AssetReferenceRecord.join items).get? k = some record) :
    record.key = k ∧ Gathers (items.filter fun item => item.key = k) record :=
  ⟨get?_joined_key join_key found, get?_joined_induct Gathers.first (fun _ _ _ => Gathers.further) found⟩

end Joining

section Results
variable (assets : List AssetRecord) (disassembly : DisassemblyResult) (dataTyping : DataTypingResult)

/-- A record of the links: all that leads from its place to its asset in its way, gathered. -/
structure Linked (record : AssetReferenceRecord) : Prop where
  asset : ∃ asset, assetAt assets record.assetAddress = some asset ∧ record.assetFormat = asset.format ∧
    record.confidence ≤ asset.confidence
  upper : ∀ item, LeadsTo assets disassembly dataTyping item → item.key = record.key → item.confidence ≤ record.confidence
  attained : ∃ item, LeadsTo assets disassembly dataTyping item ∧ item.key = record.key ∧ item.confidence = record.confidence
  evidence : ∀ text, text ∈ record.evidence ↔
    ∃ item, LeadsTo assets disassembly dataTyping item ∧ item.key = record.key ∧ text ∈ item.evidence
  caller : ∃ item, LeadsTo assets disassembly dataTyping item ∧ item.key = record.key ∧ item.sourceFunction = record.sourceFunction
  named : Unnamed record.sourceFunction → ∀ item, LeadsTo assets disassembly dataTyping item → item.key = record.key →
    Unnamed item.sourceFunction

variable {assets disassembly dataTyping} {record : AssetReferenceRecord}

theorem mem_linkReferences : record ∈ linkReferences assets disassembly dataTyping ↔
    (joined AssetReferenceRecord.key AssetReferenceRecord.join
      (directCandidates assets disassembly ++ typedCandidates assets dataTyping ++ dataCandidates assets dataTyping)).get? record.key =
      some record := by
  rw [linkReferences, mem_sortedBy, Dict.mem_values keys_joined_nodup]
  constructor
  · rintro ⟨k, found⟩
    rwa [(joined_gathers found).1]
  · exact fun found => ⟨_, found⟩

theorem linkReferences_linked (listed : record ∈ linkReferences assets disassembly dataTyping) :
    Linked assets disassembly dataTyping record := by
  obtain ⟨_, gathers⟩ := joined_gathers (mem_linkReferences.mp listed)
  have members : ∀ item, item ∈ (directCandidates assets disassembly ++ typedCandidates assets dataTyping ++
      dataCandidates assets dataTyping).filter (fun item => item.key = record.key) ↔
      LeadsTo assets disassembly dataTyping item ∧ item.key = record.key := by
    intro item
    rw [List.mem_filter, mem_candidates, decide_eq_true_eq]
  refine ⟨?_, ?_, ?_, ?_, ?_, ?_⟩
  · obtain ⟨item, inside, key, format⟩ := gathers.identity
    obtain ⟨best, bestInside, attained⟩ := gathers.attained
    obtain ⟨asset, starts, sameFormat, _⟩ := ((members item).mp inside).1.asset
    obtain ⟨other, otherStarts, _, bound⟩ := ((members best).mp bestInside).1.asset
    have place : item.assetAddress = record.assetAddress := congrArg (fun key => key.2.1) key
    have bestPlace : best.assetAddress = record.assetAddress := congrArg (fun key => key.2.1) ((members best).mp bestInside).2
    rw [place] at starts
    rw [bestPlace] at otherStarts
    obtain rfl := Option.some.inj (starts.symm.trans otherStarts)
    exact ⟨asset, starts, format ▸ sameFormat, attained ▸ bound⟩
  · exact fun item leads key => gathers.upper item ((members item).mpr ⟨leads, key⟩)
  · obtain ⟨item, inside, same⟩ := gathers.attained
    exact ⟨item, ((members item).mp inside).1, ((members item).mp inside).2, same⟩
  · intro text
    rw [gathers.evidence]
    simp only [members, and_assoc]
  · obtain ⟨item, inside, same⟩ := gathers.caller
    exact ⟨item, ((members item).mp inside).1, ((members item).mp inside).2, same⟩
  · exact fun unnamed item leads key => gathers.named unnamed item ((members item).mpr ⟨leads, key⟩)

/-- Whatever leads to an asset is in one record. -/
theorem linkReferences_complete {item : AssetReferenceRecord} (leads : LeadsTo assets disassembly dataTyping item) :
    ∃ record ∈ linkReferences assets disassembly dataTyping, record.key = item.key := by
  let candidates := directCandidates assets disassembly ++ typedCandidates assets dataTyping ++ dataCandidates assets dataTyping
  cases found : (joined AssetReferenceRecord.key AssetReferenceRecord.join candidates).get? item.key with
  | none => exact absurd rfl (get?_joined_none.mp found item (mem_candidates.mpr leads))
  | some record =>
    have key := (joined_gathers found).1
    exact ⟨record, mem_linkReferences.mpr (key ▸ found), key⟩

theorem linkReferences_keys : ((linkReferences assets disassembly dataTyping).map (·.key)).Nodup := by
  rw [linkReferences, (sortedBy_perm.map _).nodup_iff, map_key_joined join_key]
  exact keys_joined_nodup

theorem linkReferences_strict :
    (linkReferences assets disassembly dataTyping).Pairwise fun record other => record.order < other.order := by
  have distinct : ((linkReferences assets disassembly dataTyping).map (·.key)).Nodup := linkReferences_keys
  refine (sortedBy_pairwise.and (List.pairwise_map.mp distinct)).imp ?_
  rintro record other ⟨below, different⟩
  refine lt_of_le_of_ne below fun same => different ?_
  have assetAddresses := congrArg (fun order => (ofLex order).1) same
  have sources := congrArg (fun order => (ofLex (ofLex order).2).1) same
  have kinds := congrArg (fun order => (ofLex (ofLex (ofLex order).2).2).1) same
  exact Prod.ext sources (Prod.ext assetAddresses kinds)

theorem mem_analyzeAssets {model : ExecutableModel} {elf : ElfImage} {asset : AssetRecord} :
    asset ∈ (analyzeAssets model disassembly dataTyping elf).assets ↔ ∃ sec ∈ elf.sections, eligible sec = true ∧
      sec.offset + sec.size ≤ elf.rawData.length ∧
      ∃ found ∈ scanResourceBytes (slice elf.rawData sec.offset sec.size) (9 / 10), asset = sectionAsset sec found := by
  simp only [analyzeAssets, mem_sortedBy, List.flatMap_map, List.mem_flatMap, eligibleSections, List.mem_filter, and_assoc]
  refine exists_congr fun sec => and_congr_right fun _ => and_congr_right fun _ => ?_
  unfold scanSection
  split
  · rename_i outside
    exact iff_of_false (by simp) fun inside => absurd inside.1 (Nat.not_le.mpr outside)
  · rename_i inside
    rw [and_iff_right (Nat.not_lt.mp inside), List.mem_map]
    exact exists_congr fun found => and_congr_right fun _ => eq_comm

/-- Whatever the disassembly and the typing are, the links of the discovered assets lose nothing and invent nothing: what
leads to the start of an asset is in the one record of its place, its asset and its way, and a record has only what leads
so. No record is more confident than its asset. -/
theorem analyzeAssets_linked (model : ExecutableModel) (disassembly : DisassemblyResult) (dataTyping : DataTypingResult) (elf : ElfImage) :
    let result := analyzeAssets model disassembly dataTyping elf
    (∀ record ∈ result.references, Linked result.assets disassembly dataTyping record) ∧
      (∀ item, LeadsTo result.assets disassembly dataTyping item → ∃ record ∈ result.references, record.key = item.key) ∧
      (result.references.map (·.key)).Nodup ∧
      result.references.Pairwise (fun record other => record.order < other.order) ∧
      ∀ asset, asset ∈ result.assets ↔ ∃ sec ∈ elf.sections, eligible sec = true ∧ sec.offset + sec.size ≤ elf.rawData.length ∧
        ∃ found ∈ scanResourceBytes (slice elf.rawData sec.offset sec.size) (9 / 10), asset = sectionAsset sec found :=
  ⟨fun _ => linkReferences_linked, fun _ => linkReferences_complete, linkReferences_keys, linkReferences_strict,
    fun _ => mem_analyzeAssets⟩

end Results

end AssetDiscovery

end PspDisasm
