import PspDisasm.Decompile.Orchestrator
import PspDisasm.PythonText

namespace PspDisasm
open Foundations

/-- The standard library around the readers of `metadata/functions.json`: `repr` of a text and of a JSON value,
`int(text, base)`, which may raise, `text.isdecimal()`, and the text of `Path(path).resolve()`. -/
structure ReaderTools where
  reprText : String → String
  reprJson : Json → String
  int : String → Nat → Option Int
  isDecimal : String → Bool
  resolve : String → String

structure MatchInstruction where
  address : Int
  word : Int
  text : String
  valid : Bool
  implemented : Bool

structure MatchFunction where
  name : String
  address : Int
  size : Int
  sectionName : String
  instructionCount : Int
  instructions : List MatchInstruction

structure ProjectFunction where
  name : String
  address : Int
  size : Int
  sectionName : String
  assembly : String
  instructionCount : Int

/-- What a project's list of functions holds: nothing, the text of an error, or a JSON value. -/
abbrev FunctionsFile := Option (Except String Json)

section Entries

/-- `item[key]`, where a missing key becomes an error that names it. -/
def readMember (owner : String) (fields : Fields) (key : String) : Except String Json :=
  match fields.get? key with
  | some value => .ok value
  | none => .error s!"{owner} is missing '{key}'."

/-- Integers, but no booleans. -/
def requireInt (label : String) : Json → Except String Int
  | .int n => .ok n
  | _ => .error s!"{label} must be an integer."

def readInstruction (name : String) (index : Nat) (raw : Json) : Except String MatchInstruction :=
  let owner := s!"Instruction {index} for {name}"
  match raw with
  | .obj fields => do
    let address ← readMember owner fields "address" >>= requireInt s!"Instruction {index} address"
    let word ← readMember owner fields "word" >>= requireInt s!"Instruction {index} word"
    let text ← readMember owner fields "text"
    let valid ← readMember owner fields "valid"
    let implemented ← readMember owner fields "implemented"
    match text, valid, implemented with
    | .str text, .bool valid, .bool implemented =>
      raiseIf (¬(0 ≤ word ∧ word ≤ 0xFFFFFFFF)) s!"{owner} has a word outside uint32 range."
      return ⟨address, word, text, valid, implemented⟩
    | _, _, _ => .error s!"{owner} has invalid fields."
  | _ => .error s!"{owner} must be a JSON object."

/-- An entry as the matcher reads it. -/
def readMatchFunction (path : String) (index : Nat) (item : Json) : Except String MatchFunction :=
  let owner := s!"Function entry {index} in {path}"
  match item with
  | .obj fields => do
    let name ← readMember owner fields "name"
    let address ← readMember owner fields "address" >>= requireInt s!"Function entry {index} address"
    let size ← readMember owner fields "size" >>= requireInt s!"Function entry {index} size"
    let sectionName ← readMember owner fields "section"
    let instructionCount ← readMember owner fields "instruction_count" >>=
      requireInt s!"Function entry {index} instruction_count"
    let rawInstructions ← readMember owner fields "instructions"
    match name, sectionName, rawInstructions with
    | .str name, .str sectionName, .arr raw =>
      let instructions ← raw.zipIdx.mapM fun item => readInstruction name item.2 item.1
      let count := instructions.length
      raiseIf (instructionCount ≠ count)
        s!"Function {name} declares {instructionCount} instructions but metadata contains {count}."
      return ⟨name, address, size, sectionName, instructionCount, instructions⟩
    | .str _, .str _, _ => .error s!"{owner} must contain an instruction list."
    | _, _, _ => .error s!"{owner} has invalid text fields."
  | _ => .error s!"{owner} must be a JSON object."

/-- An entry as the decompiler reads it. -/
def readProjectFunction (path : String) (index : Nat) (item : Json) : Except String ProjectFunction :=
  let owner := s!"Function entry {index} in {path}"
  match item with
  | .obj fields => do
    let name ← readMember owner fields "name"
    let address ← readMember owner fields "address"
    let size ← readMember owner fields "size"
    let sectionName ← readMember owner fields "section"
    let assembly ← readMember owner fields "assembly"
    let instructionCount ← readMember owner fields "instruction_count"
    match name, sectionName, assembly with
    | .str name, .str sectionName, .str assembly =>
      match address, size, instructionCount with
      | .int address, .int size, .int instructionCount =>
        return ⟨name, address, size, sectionName, assembly, instructionCount⟩
      | _, _, _ => .error s!"{owner} has invalid numeric fields."
    | _, _, _ => .error s!"{owner} has invalid text fields."
  | _ => .error s!"{owner} must be a JSON object."

end Entries

section Readers
variable {α : Type} (tools : ReaderTools) (path : String) (file : FunctionsFile) (selector : String)

/-- A list of functions whose entries are read one by one. The first bad entry spoils the list. -/
def readFunctions (read : Nat → Json → Except String α) : Except String (List α) :=
  match file with
  | none => .error s!"Phase 3 project metadata is missing: {path}"
  | some (.error reason) => .error s!"Unable to read valid project function metadata from {path}: {reason}"
  | some (.ok (.arr items)) => items.zipIdx.mapM fun item => read item.2 item.1
  | some (.ok _) => .error s!"Project metadata {path} must contain a JSON list of functions."

/-- `int(selector, 0)`, and `int(selector, 10)` for decimal digits that this refuses. -/
def selectorAddress : Option Int :=
  (tools.int selector 0).or (if tools.isDecimal selector then tools.int selector 10 else none)

/-- The only function with the name, or else the only one at the address that the selector is. -/
def resolveFunction (name : α → String) (address : α → Int) (functions : List α) : Except String α :=
  let notFound := s!"Function {tools.reprText selector} was not found in {path}."
  match functions.filter fun function => name function = selector with
  | [function] => .ok function
  | _ :: _ :: _ => .error s!"Function selector {tools.reprText selector} is ambiguous in {path}."
  | [] =>
    match selectorAddress tools selector with
    | none => .error notFound
    | some value =>
      match functions.filter fun function => address function = value with
      | [function] => .ok function
      | _ :: _ :: _ => .error s!"Function address 0x{addressDigits value} is ambiguous in {path}."
      | [] => .error notFound

/-- `_load_functions` of the matcher. -/
def loadFunctions : Except String (List MatchFunction) := readFunctions path file (readMatchFunction path)

/-- `_load_project_functions` of the decompiler. -/
def loadProjectFunctions : Except String (List ProjectFunction) := readFunctions path file (readProjectFunction path)

def resolveMatchFunction : Except String MatchFunction := do
  let functions ← loadFunctions path file
  resolveFunction tools path selector MatchFunction.name MatchFunction.address functions

def resolveProjectFunction : Except String ProjectFunction := do
  let functions ← loadProjectFunctions path file
  resolveFunction tools path selector ProjectFunction.name ProjectFunction.address functions

/-- `str(entry.get("assembly", ""))`. -/
def entryAssembly (fields : Fields) : String :=
  match fields.get? "assembly" with
  | none => ""
  | some (.str text) => text
  | some value => tools.reprJson value

/-- `_assembly_text_for`: the text of the first entry with the name. Iterating over what is no list raises, unless it
is a text or an object, none of whose items is an object. -/
def assemblyTextFor : Except DecompileFailure String :=
  match file with
  | none => .error (.os s!"[Errno 2] No such file or directory: '{path}'")
  | some (.error reason) => .error (.other reason)
  | some (.ok (.arr items)) => .ok ((items.findSome? fun
    | .obj fields => if (Json.getField fields "name").equalsStr selector then some (entryAssembly tools fields) else none
    | _ => none).getD "")
  | some (.ok (.obj _)) => .ok ""
  | some (.ok (.str _)) => .ok ""
  | some (.ok _) => .error .malformed

end Readers

/-- The text of the path of a project's list of functions. -/
def functionsPath (project : String) : String := s!"{project}/metadata/functions.json"

/-- The answer of a tool that first looks for the function: an error of the reader is a documented failure of the tool. -/
def onceFound {α β : Type} (found : Except String β) (answer : Except ToolFailure α) : Except ToolFailure α :=
  match found with
  | .error message => .error (.failed message)
  | .ok _ => answer

/-- What `run_function` meets for a queued function of a project: the list of functions as its three readers see it,
and the answers of the tools once they have found the function in it. -/
def projectInputs (tools : ReaderTools) (store : StoreTools) (projects : String → FunctionsFile) (options : RunInputs)
    (queued : QueuedFunction) : RunInputs :=
  let project := s!"{store.workspaceDir}/analysis/game_project/{queued.projectDir}"
  let file := projects queued.projectDir
  { options with
    instructionCount :=
      ((resolveMatchFunction tools (functionsPath project) file queued.function).map (·.instructions.length)).mapError .other
    assemblyText := fun _ => assemblyTextFor tools (functionsPath project) file queued.function
    decompile := fun variant =>
      onceFound (resolveProjectFunction tools (functionsPath (tools.resolve project)) file queued.function)
        (options.decompile variant)
    matching := fun variant =>
      onceFound (resolveMatchFunction tools (functionsPath (tools.resolve project)) file queued.function)
        (options.matching variant) }

section Sources
variable {tools : ReaderTools} {path other selector : String} {file : FunctionsFile}

theorem readMember_ok {owner : String} {fields : Fields} {key : String} {value : Json}
    (read : readMember owner fields key = .ok value) : Dict.get? fields key = some value := by
  unfold readMember at read
  split at read
  · cases read
    assumption
  · cases read

theorem readProjectFunction_fields {index : Nat} {item : Json} {function : ProjectFunction}
    (read : readProjectFunction path index item = .ok function) : ∃ fields : Fields, item = .obj fields ∧
      Dict.get? fields "name" = some (.str function.name) ∧ Dict.get? fields "assembly" = some (.str function.assembly) := by
  unfold readProjectFunction at read
  split at read
  · rename_i fields
    obtain ⟨name, named, read⟩ := bind_ok.mp read
    obtain ⟨_, _, read⟩ := bind_ok.mp read
    obtain ⟨_, _, read⟩ := bind_ok.mp read
    obtain ⟨_, _, read⟩ := bind_ok.mp read
    obtain ⟨assembly, texts, read⟩ := bind_ok.mp read
    obtain ⟨_, _, read⟩ := bind_ok.mp read
    split at read
    · split at read
      · cases read
        exact ⟨fields, rfl, readMember_ok named, readMember_ok texts⟩
      · cases read
    · cases read
  · cases read

theorem assemblyTextFor_cons {fields : Fields} {items : List Json} :
    assemblyTextFor tools path (some (.ok (.arr (.obj fields :: items)))) selector =
      if (Json.getField fields "name").equalsStr selector then .ok (entryAssembly tools fields)
      else assemblyTextFor tools path (some (.ok (.arr items))) selector := by
  unfold assemblyTextFor
  dsimp only
  rw [List.findSome?_cons]
  by_cases named : (Json.getField fields "name").equalsStr selector
  · simp only [named, if_true]
    rfl
  · simp only [named]
    rfl

/-- The first entry with a name is that of the first function with it. -/
theorem assemblyTextFor_first {items : List Json} {start : Nat} {functions : List ProjectFunction} {function : ProjectFunction}
    (read : List.Forall₂ (fun item function => readProjectFunction path item.2 item.1 = .ok function) (items.zipIdx start) functions)
    (first : (functions.filter fun function => function.name = selector).head? = some function) :
    assemblyTextFor tools other (some (.ok (.arr items))) selector = .ok function.assembly := by
  induction items generalizing start functions with
  | nil =>
    cases read
    cases first
  | cons item items ih =>
    rw [List.zipIdx_cons] at read
    cases read with
    | @cons _ head _ functions reads tail =>
      obtain ⟨fields, rfl, named, text⟩ := readProjectFunction_fields reads
      rw [assemblyTextFor_cons, Json.getField, named, Option.getD_some, Json.equalsStr]
      rw [List.filter_cons] at first
      by_cases same : head.name = selector
      · rw [if_pos (decide_eq_true same)] at first
        cases first
        rw [if_pos (decide_eq_true same), entryAssembly, text]
      · rw [if_neg (by rw [decide_eq_true_iff]; exact same)] at first
        rw [if_neg (by rw [decide_eq_true_iff]; exact same)]
        exact ih tail first

/-- A function that m2c is given by its name has the text that the identity is made of. -/
theorem assemblyTextFor_resolved_name {function : ProjectFunction} (found : resolveProjectFunction tools path file selector = .ok function)
    (named : function.name = selector) : assemblyTextFor tools other file selector = .ok function.assembly := by
  obtain ⟨functions, loaded, resolved⟩ := bind_ok.mp found
  unfold loadProjectFunctions readFunctions at loaded
  split at loaded
  · cases loaded
  · cases loaded
  · apply assemblyTextFor_first (mapM_ok.mp loaded)
    unfold resolveFunction at resolved
    dsimp only at resolved
    split at resolved
    · rename_i single
      cases resolved
      rw [single]
      rfl
    · cases resolved
    · rename_i none
      split at resolved
      · cases resolved
      · rename_i value _
        have listed : function ∈ functions := by
          split at resolved
          · rename_i single
            cases resolved
            exact List.mem_of_mem_filter (single ▸ List.mem_singleton_self _)
          · cases resolved
          · cases resolved
        have member : function ∈ functions.filter fun function => function.name = selector :=
          List.mem_filter.mpr ⟨listed, decide_eq_true named⟩
        rw [none] at member
        cases member
  · cases loaded

end Sources

end PspDisasm
