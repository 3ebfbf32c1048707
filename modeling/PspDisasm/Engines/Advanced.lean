import Mathlib.Algebra.Order.Ring.Rat
import PspDisasm.Engines.SpimStrings

namespace PspDisasm
open Foundations

namespace Spim

structure CallGraphEdge where
  sourceFunction : String
  targetFunction : String
  sourceAddress : Int
  targetAddress : Int
  kind : String
deriving DecidableEq

structure FunctionConfidence where
  name : String
  address : Int
  score : Rat
  evidence : List String
deriving DecidableEq

structure AdvancedAnalysisResult where
  sourceName : String
  callEdges : List CallGraphEdge
  functionConfidence : List FunctionConfidence
  jumpTables : List JumpTableRecord

section Edges
variable (disassembly : DisassemblyResult)

/-- `functions_by_address`. -/
def functionsByAddress : Dict Int FunctionRecord := byKey FunctionRecord.address disassembly.functions

def callEdge (reference : ReferenceRecord) : Option CallGraphEdge :=
  if reference.kind ∉ ["call", "indirect_call"] then none
  else
    match reference.sourceFunction, (functionsByAddress disassembly).get? reference.targetAddress with
    | some sourceFunction, some target => some {
        sourceFunction, targetFunction := target.name, sourceAddress := reference.sourceAddress
        targetAddress := reference.targetAddress, kind := if reference.kind = "indirect_call" then "indirect" else "direct" }
    | _, _ => none

abbrev CallEdgeKey := String × String × Int × Int × String

def CallGraphEdge.key (edge : CallGraphEdge) : CallEdgeKey :=
  (edge.sourceFunction, edge.targetFunction, edge.sourceAddress, edge.targetAddress, edge.kind)

def CallGraphEdge.order (edge : CallGraphEdge) : Int ×ₗ Int ×ₗ String ×ₗ String ×ₗ String :=
  toLex (edge.sourceAddress, toLex (edge.targetAddress, toLex (edge.sourceFunction, toLex (edge.targetFunction, edge.kind))))

def buildCallEdges : List CallGraphEdge :=
  sortedBy CallGraphEdge.order (latest CallGraphEdge.key (disassembly.references.filterMap (callEdge disassembly)))

end Edges

section Scores
variable (model : ExecutableModel) (disassembly : DisassemblyResult) (callEdges : List CallGraphEdge)

def seededFunctionAddresses : List Int :=
  (model.imports ++ model.exports).flatMap fun library => library.functions.map (·.address)

/-- What is looked for in a function: whether it is there, what it counts, and the text of the evidence. -/
def scoreRules (function : FunctionRecord) : List (Bool × Rat × String) :=
  let instructions := function.instructions
  [(model.elfHeader.any fun header => header.entry = function.address, 1 / 4, "ELF entry point"),
    (function.address ∈ seededFunctionAddresses model, 1 / 5, "PSP import/export seed"),
    (function.address ∈ callEdges.map (·.targetAddress), 1 / 10, "incoming call"),
    (2 ≤ instructions.length ∧ instructions.all (·.valid), 1 / 20, "valid multi-instruction body"),
    (instructions ≠ [] ∧ instructions.all (·.implemented), 1 / 20, "all instructions implemented"),
    (instructions.any fun instruction => !instruction.valid, -1 / 5, "invalid instruction"),
    (instructions.any fun instruction => !instruction.implemented, -1 / 10, "unimplemented instruction")]

/-- The sums are multiples of 0.05, so `round(…, 2)` only removes the noise of the floating-point additions. -/
def scoreFunction (function : FunctionRecord) : FunctionConfidence :=
  let (score, evidence) := (scoreRules model callEdges function).foldl
    (fun (state : Rat × List String) rule => if rule.1 then (state.1 + rule.2.1, state.2 ++ [rule.2.2]) else state) (1 / 2, [])
  { name := function.name, address := function.address, score := max 0 (min 1 score), evidence }

def scoreFunctions : List FunctionConfidence :=
  sortedBy (fun record : FunctionConfidence => (toLex (record.address, record.name) : Int ×ₗ String))
    (disassembly.functions.map (scoreFunction model callEdges))

def analyzeAdvanced : AdvancedAnalysisResult :=
  let callEdges := buildCallEdges disassembly
  { sourceName := disassembly.sourceName, callEdges
    functionConfidence := scoreFunctions model disassembly callEdges, jumpTables := disassembly.jumpTables }

end Scores

section EdgeResults
variable {disassembly other : DisassemblyResult} {edge : CallGraphEdge} {reference : ReferenceRecord}

/-- The function that stands for its address: of several at one address the one of the greatest name. -/
def StandsFor (functions : List FunctionRecord) (address : Int) (function : FunctionRecord) : Prop :=
  function ∈ functions ∧ function.address = address ∧ ∀ rival ∈ functions, rival.address = address → rival.name ≤ function.name

/-- An edge of the call graph: a call in a known function whose target is the address of a function. -/
structure IsCall (functions : List FunctionRecord) (references : List ReferenceRecord) (edge : CallGraphEdge) : Prop where
  call : ∃ reference ∈ references, reference.sourceFunction = some edge.sourceFunction ∧
    reference.sourceAddress = edge.sourceAddress ∧ reference.targetAddress = edge.targetAddress ∧
    (reference.kind = "call" ∧ edge.kind = "direct" ∨ reference.kind = "indirect_call" ∧ edge.kind = "indirect")
  target : ∃ function, StandsFor functions edge.targetAddress function ∧ edge.targetFunction = function.name

def FunctionRecord.order (record : FunctionRecord) : Int ×ₗ String := toLex (record.address, record.name)

theorem functionsByAddress_standsFor {function : FunctionRecord} {address : Int}
    (sorted : disassembly.functions.Pairwise fun record other => record.order ≤ other.order)
    (found : (functionsByAddress disassembly).get? address = some function) :
    StandsFor disassembly.functions address function := by
  rw [functionsByAddress, get?_byKey] at found
  have here : function.address = address := by simpa using List.find?_some found
  refine ⟨List.mem_reverse.mp (List.mem_of_find?_eq_some found), here, fun rival listed same => ?_⟩
  obtain ⟨before, after, split, nothing⟩ := (List.find?_eq_some_iff_append.mp found).2
  have reversed := List.pairwise_reverse.mpr sorted
  rw [split] at reversed
  rcases List.mem_append.mp (split ▸ List.mem_reverse.mpr listed) with early | late
  · exact absurd same (by simpa using nothing rival early)
  · rcases List.mem_cons.mp late with rfl | later
    · exact le_rfl
    · have ordered := (List.pairwise_cons.mp (List.pairwise_append.mp reversed).2.1).1 rival later
      rcases Prod.Lex.toLex_le_toLex.mp ordered with below | ⟨_, named⟩
      · exact absurd below (by rw [same, here]; exact lt_irrefl address)
      · exact named

/-- Two functions that stand for one address have one name. -/
theorem StandsFor.name_eq {functions : List FunctionRecord} {address : Int} {function rival : FunctionRecord}
    (stands : StandsFor functions address function) (rivals : StandsFor functions address rival) : function.name = rival.name :=
  le_antisymm (rivals.2.2 function stands.1 stands.2.1) (stands.2.2 rival rivals.1 rivals.2.1)

theorem callEdge_some : callEdge disassembly reference = some edge ↔
    (reference.sourceFunction = some edge.sourceFunction ∧ reference.sourceAddress = edge.sourceAddress ∧
      reference.targetAddress = edge.targetAddress ∧
      (reference.kind = "call" ∧ edge.kind = "direct" ∨ reference.kind = "indirect_call" ∧ edge.kind = "indirect")) ∧
    ∃ function, (functionsByAddress disassembly).get? edge.targetAddress = some function ∧ edge.targetFunction = function.name := by
  unfold callEdge
  constructor
  · intro made
    split at made
    · cases made
    rename_i call
    split at made
    · rename_i sourceFunction target source found
      cases made
      refine ⟨⟨source, rfl, rfl, ?_⟩, target, found, rfl⟩
      by_cases indirect : reference.kind = "indirect_call"
      · exact Or.inr ⟨indirect, if_pos indirect⟩
      · have direct : reference.kind = "call" := by simpa [indirect] using call
        exact Or.inl ⟨direct, if_neg indirect⟩
    · cases made
  · rintro ⟨⟨source, site, target, kinds⟩, function, found, named⟩
    have call : ¬reference.kind ∉ ["call", "indirect_call"] := by
      rcases kinds with ⟨direct, _⟩ | ⟨indirect, _⟩ <;> simp [*]
    have kind : (if reference.kind = "indirect_call" then "indirect" else "direct") = edge.kind := by
      rcases kinds with ⟨direct, same⟩ | ⟨indirect, same⟩
      · rw [same, if_neg (by rw [direct]; decide)]
      · rw [same, if_pos indirect]
    rw [if_neg call, source, target, found]
    simp only [site, kind, ← named]

/-- The call graph has an edge for each call of a known function, and no other edge. -/
theorem mem_buildCallEdges (sorted : disassembly.functions.Pairwise fun record other => record.order ≤ other.order) :
    edge ∈ buildCallEdges disassembly ↔ IsCall disassembly.functions disassembly.references edge := by
  have whole : TellsApart CallGraphEdge.key (disassembly.references.filterMap (callEdge disassembly)) := by
    intro edge _ other _ same
    cases edge
    cases other
    cases same
    rfl
  rw [buildCallEdges, mem_sortedBy, mem_latest_of_tellsApart whole, List.mem_filterMap]
  simp only [callEdge_some]
  constructor
  · rintro ⟨reference, listed, call, function, found, named⟩
    exact ⟨⟨reference, listed, call⟩, function, functionsByAddress_standsFor sorted found, named⟩
  · rintro ⟨⟨reference, listed, call⟩, function, stands, named⟩
    obtain ⟨found, known⟩ := get?_byKey_of_mem stands.1 stands.2.1
    exact ⟨reference, listed, call, found, known, named.trans (stands.name_eq (functionsByAddress_standsFor sorted known))⟩

theorem buildCallEdges_strict : (buildCallEdges disassembly).Pairwise fun edge other => edge.order < other.order := by
  refine sortedBy_strict latest_nodup fun edge _ other _ same => ?_
  have fields := congrArg (fun order => (ofLex order, ofLex (ofLex order).2, ofLex (ofLex (ofLex order).2).2,
    ofLex (ofLex (ofLex (ofLex order).2).2).2)) same
  cases edge
  cases other
  simp only [CallGraphEdge.order, ofLex_toLex, Prod.mk.injEq] at fields
  obtain ⟨⟨rfl, _⟩, ⟨rfl, _⟩, ⟨rfl, _⟩, rfl, rfl⟩ := fields
  rfl

end EdgeResults

section ScoreResults
variable {model : ExecutableModel} {callEdges : List CallGraphEdge} {function : FunctionRecord}

/-- What a piece of evidence counts. -/
def evidenceWeights : Dict String Rat := [
  ("ELF entry point", 1 / 4), ("PSP import/export seed", 1 / 5), ("incoming call", 1 / 10), ("valid multi-instruction body", 1 / 20),
  ("all instructions implemented", 1 / 20), ("invalid instruction", -1 / 5), ("unimplemented instruction", -1 / 10)]

def evidenceWeight (evidence : String) : Rat := (evidenceWeights.get? evidence).getD 0

theorem foldl_rules (rules : List (Bool × Rat × String)) (state : Rat × List String) :
    rules.foldl (fun state rule => if rule.1 then (state.1 + rule.2.1, state.2 ++ [rule.2.2]) else state) state =
      (state.1 + ((rules.filter (·.1)).map (·.2.1)).sum, state.2 ++ (rules.filter (·.1)).map (·.2.2)) := by
  induction rules generalizing state with
  | nil => simp
  | cons rule rules ih =>
    obtain ⟨holds, weight, text⟩ := rule
    rw [List.foldl_cons, ih]
    cases holds with
    | false => rfl
    | true => simp [add_assoc]

theorem scoreRules_weight : ∀ rule ∈ scoreRules model callEdges function, evidenceWeight rule.2.2 = rule.2.1 := by
  intro rule listed
  have weighed : (rule.2.2, rule.2.1) ∈ evidenceWeights :=
    List.mem_map_of_mem (f := fun rule : Bool × Rat × String => (rule.2.2, rule.2.1)) listed
  have distinct : evidenceWeights.keys.Nodup := by decide
  rw [evidenceWeight, Dict.get?_of_mem distinct weighed, Option.getD_some]

/-- A score is borne out by its evidence: the texts of the rules that hold, and nothing counts but these. -/
structure Explained (model : ExecutableModel) (callEdges : List CallGraphEdge) (function : FunctionRecord)
    (record : FunctionConfidence) : Prop where
  name : record.name = function.name
  address : record.address = function.address
  evidence : record.evidence = ((scoreRules model callEdges function).filter (·.1)).map (·.2.2)
  score : record.score = max 0 (min 1 (1 / 2 + (record.evidence.map evidenceWeight).sum))
  bounds : 0 ≤ record.score ∧ record.score ≤ 1

theorem scoreFunction_explained : Explained model callEdges function (scoreFunction model callEdges function) := by
  let rules := (scoreRules model callEdges function).filter (·.1)
  have weights : rules.map (·.2.1) = (rules.map (·.2.2)).map evidenceWeight := by
    rw [List.map_map]
    exact List.map_congr_left fun rule listed => (scoreRules_weight rule (List.mem_of_mem_filter listed)).symm
  have evidence : (scoreFunction model callEdges function).evidence = rules.map (·.2.2) := by
    rw [scoreFunction, foldl_rules]
    exact List.nil_append _
  have score : (scoreFunction model callEdges function).score = max 0 (min 1 (1 / 2 + (rules.map (·.2.1)).sum)) := by
    rw [scoreFunction, foldl_rules]
  refine ⟨rfl, rfl, evidence, by rw [score, evidence, weights], ?_⟩
  rw [score]
  exact ⟨le_max_left _ _, max_le zero_le_one (min_le_left _ _)⟩

end ScoreResults

section Results
variable {σ : Type} {engines : EngineModules σ} {elf : ElfImage} {model : ExecutableModel} {isPrintable : Char → Bool}
  {result : DisassemblyResult} {texts : List (Section × EngineText)}

theorem FromTexts.functions_sorted (taken : FromTexts elf isPrintable texts result) :
    result.functions.Pairwise fun record other => record.order ≤ other.order := by
  rw [taken.functions]
  exact sortedBy_pairwise

/-- A reference is made in a function of the disassembly. -/
theorem FromTexts.caller (taken : FromTexts elf isPrintable texts result) {reference : ReferenceRecord}
    (listed : reference ∈ result.references) : ∃ caller ∈ result.functions, reference.sourceFunction = some caller.name := by
  obtain ⟨item, member, function, known, _, _, _, _, _, source, _⟩ := taken.mem_references.mp listed
  have record : ∃ caller ∈ normalizeFunctions item.2 item.1, caller.name = function.name :=
    ⟨_, List.mem_map.mpr ⟨function, known, rfl⟩, rfl⟩
  obtain ⟨caller, made, named⟩ := record
  refine ⟨caller, ?_, by rw [source, named]⟩
  rw [taken.functions, mem_sortedBy]
  exact List.mem_flatMap.mpr ⟨item, member, made⟩

/-- Whatever the engine answers, the call graph over its disassembly is exact, both ends of every edge are functions of
the disassembly, and each function has one confidence between 0 and 1 that its evidence adds up to. -/
theorem analyzeAdvanced_grounded (analyzed : analyze engines isPrintable elf model = .ok result) :
    let advanced := analyzeAdvanced model result
    (∀ edge, edge ∈ advanced.callEdges ↔ IsCall result.functions result.references edge) ∧
      (∀ edge ∈ advanced.callEdges, ∃ caller ∈ result.functions, caller.name = edge.sourceFunction) ∧
      advanced.callEdges.Pairwise (fun edge other => edge.order < other.order) ∧
      (advanced.functionConfidence.map fun record => (record.address, record.name)).Perm
        (result.functions.map fun function => (function.address, function.name)) ∧
      ∀ record ∈ advanced.functionConfidence, ∃ function ∈ result.functions, Explained model advanced.callEdges function record := by
  obtain ⟨texts, _, taken⟩ := analyze_fromTexts analyzed
  have calls : ∀ edge, edge ∈ buildCallEdges result ↔ IsCall result.functions result.references edge :=
    fun edge => mem_buildCallEdges taken.functions_sorted
  have scored : (scoreFunctions model result (buildCallEdges result)).Perm
      (result.functions.map (scoreFunction model (buildCallEdges result))) := sortedBy_perm
  refine ⟨calls, fun edge listed => ?_, buildCallEdges_strict, ?_, fun record listed => ?_⟩
  · obtain ⟨reference, made, source, _⟩ := ((calls edge).mp listed).call
    obtain ⟨caller, known, named⟩ := taken.caller made
    exact ⟨caller, known, Option.some.inj (named.symm.trans source)⟩
  · have named := scored.map fun record : FunctionConfidence => (record.address, record.name)
    rwa [List.map_map] at named
  · obtain ⟨function, known, rfl⟩ := List.mem_map.mp (scored.mem_iff.mp listed)
    exact ⟨function, known, scoreFunction_explained⟩

theorem switchImage_grounded : ∃ result, analyze switchEngine (fun _ => true) switchImage switchModel = .ok result ∧
    ∀ edge ∈ (analyzeAdvanced switchModel result).callEdges, ∃ caller ∈ result.functions, caller.name = edge.sourceFunction := by
  obtain ⟨result, analyzed⟩ := exists_ok switchImage_analyzed
  exact ⟨result, analyzed, (analyzeAdvanced_grounded analyzed).2.1⟩

end Results

end Spim

end PspDisasm
