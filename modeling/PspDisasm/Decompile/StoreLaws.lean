import PspDisasm.Decompile.Queue

namespace PspDisasm
open Foundations

/-- The name under which the store keeps a function. -/
structure FunctionKey where
  module : String
  function : String
deriving DecidableEq

def FunctionDecompilationState.key (state : FunctionDecompilationState) : FunctionKey := ⟨state.module, state.function⟩

def QueuedFunction.key (item : QueuedFunction) : FunctionKey := ⟨item.module, item.function⟩

section Store
variable (tools : StoreTools)

def FunctionKey.load (key : FunctionKey) (disk : StoreDisk) : Except DecompileFailure (Option FunctionDecompilationState) :=
  loadFunctionState tools disk key.module key.function

def FunctionKey.dir (key : FunctionKey) : Except DecompileFailure WorkspacePath := functionDir tools key.module key.function

/-- What is loaded after a save is what was saved. -/
def RoundTrips (key : FunctionKey) : Prop :=
  ∀ disk state path final, state.key = key → saveFunctionState tools state disk = .ok path final →
    key.load tools final = .ok (some state)

/-- No save for the one function, however it ends, changes what is loaded for the other. -/
def LeavesAlone (key other : FunctionKey) : Prop :=
  ∀ disk state, state.key = key → other.load tools (finalState (saveFunctionState tools state disk)) = other.load tools disk

/-- What the store holds for a function has its name. -/
def OwnHistory (disk : StoreDisk) (key : FunctionKey) : Prop :=
  ∀ state, key.load tools disk = .ok (some state) → state.key = key

/-- After a save for the one of two functions, each of them that is queued has its own state. -/
def AttachesOwn (key other : FunctionKey) : Prop :=
  ∀ projects disk state queued, OwnHistory tools disk key → OwnHistory tools disk other → state.key = key →
    discoverFunctions tools projects (finalState (saveFunctionState tools state disk)) = .ok queued →
    ∀ item ∈ queued, item.key = key ∨ item.key = other → item.state.key = item.key

/-- The laws of the store for two functions. -/
structure StoreLaws (p q : FunctionKey) : Prop where
  first : RoundTrips tools p
  second : RoundTrips tools q
  firstAlone : LeavesAlone tools p q
  secondAlone : LeavesAlone tools q p
  firstAttaches : AttachesOwn tools p q
  secondAttaches : AttachesOwn tools q p

end Store

section Effects
variable {tools : StoreTools} {s t : StoreDisk}

theorem concat_ne {dir other : WorkspacePath} {name last : String} (different : name ≠ last) :
    dir ++ [name] ≠ other ++ [last] := fun same => different (List.append_singleton_inj.mp same).2

theorem validateSchemaIfPresent_congr (same : fileAt t (schemaPath tools) = fileAt s (schemaPath tools)) :
    validateSchemaIfPresent tools t = validateSchemaIfPresent tools s := by
  rw [validateSchemaIfPresent, validateSchemaIfPresent, same]

theorem schema_apart : tempName (schemaPath tools) ≠ schemaPath tools := by
  rw [schemaPath, tempName_concat]
  exact concat_ne (by decide)

theorem state_apart {dir : WorkspacePath} : tempName (dir ++ ["state.json"]) ≠ dir ++ ["state.json"] := by
  rw [tempName_concat]
  exact concat_ne (by decide)

/-- A write of the schema file touches no function's file. -/
theorem state_unwritten (dir : WorkspacePath) : dir ++ ["state.json"] ∉ [tempName (schemaPath tools), schemaPath tools] := by
  rw [List.mem_cons, List.mem_singleton, not_or, schemaPath, tempName_concat]
  exact ⟨concat_ne (by decide), concat_ne (by decide)⟩

/-- A write of a function's file does not touch the schema file. -/
theorem schema_unwritten (dir : WorkspacePath) :
    schemaPath tools ∉ [tempName (dir ++ ["state.json"]), dir ++ ["state.json"]] := by
  rw [List.mem_cons, List.mem_singleton, not_or, schemaPath, tempName_concat]
  exact ⟨concat_ne (by decide), concat_ne (by decide)⟩

theorem ensureSchema_run (s : StoreDisk) : ensureSchema tools s =
    if (fileAt s (schemaPath tools)).isSome then lifted (validateSchemaIfPresent tools s) s
    else atomicWriteJson (schemaPath tools) (.obj [("schema_version", .int decompilationSchemaVersion)]) s := by
  change (if (fileAt s (schemaPath tools)).isSome then lifted (validateSchemaIfPresent tools s)
    else atomicWriteJson (schemaPath tools) (.obj [("schema_version", .int decompilationSchemaVersion)]) : StoreM Unit) s = _
  split <;> rfl

/-- The schema file is all that the schema check may write, and what it writes is valid. -/
theorem ensureSchema_effect (s : StoreDisk) :
    (∀ dir, fileAt (finalState (ensureSchema tools s)) (dir ++ ["state.json"]) = fileAt s (dir ++ ["state.json"])) ∧
      validateSchemaIfPresent tools (finalState (ensureSchema tools s)) = validateSchemaIfPresent tools s ∧
      (ensureSchema tools s = .ok () (finalState (ensureSchema tools s)) → validateSchemaIfPresent tools s = .ok ()) := by
  rw [ensureSchema_run]
  cases present : fileAt s (schemaPath tools) with
  | some contents =>
    rw [Option.isSome_some, if_pos rfl]
    cases checked : validateSchemaIfPresent tools s with
    | ok done => exact ⟨fun _ => rfl, checked, fun _ => rfl⟩
    | error raised => exact ⟨fun _ => rfl, checked, fun ok => by cases ok⟩
  | none =>
    have valid : validateSchemaIfPresent tools s = .ok () := by rw [validateSchemaIfPresent, present]
    rw [Option.isSome_none, if_neg Bool.false_ne_true]
    obtain ⟨frame, ended⟩ := atomicWriteJson_cases (.obj [("schema_version", .int decompilationSchemaVersion)]) s
      (@schema_apart tools)
    refine ⟨fun dir => frame _ (state_unwritten dir), ?_, fun _ => valid⟩
    rcases ended with ⟨t, ran, written⟩ | ⟨raised, t, ran, same⟩
    · rw [ran, finalState, valid, validateSchemaIfPresent, written]
      rfl
    · rw [ran]
      exact validateSchemaIfPresent_congr same

/-- A save leaves every other function's file and the state of the schema as they are. It puts the whole state
in place, or it raises and the function's file is what it was. -/
structure SaveEffect (tools : StoreTools) (state : FunctionDecompilationState) (target : WorkspacePath) (s : StoreDisk) :
    Prop where
  others : ∀ dir, dir ≠ target →
    fileAt (finalState (saveFunctionState tools state s)) (dir ++ ["state.json"]) = fileAt s (dir ++ ["state.json"])
  schema : validateSchemaIfPresent tools (finalState (saveFunctionState tools state s)) = validateSchemaIfPresent tools s
  ended : (validateSchemaIfPresent tools s = .ok () ∧ (∃ path t, saveFunctionState tools state s = .ok path t) ∧
      fileAt (finalState (saveFunctionState tools state s)) (target ++ ["state.json"]) =
        some (.ok (.obj (stateToDict state)))) ∨
    (∀ path t, saveFunctionState tools state s ≠ .ok path t) ∧
      fileAt (finalState (saveFunctionState tools state s)) (target ++ ["state.json"]) = fileAt s (target ++ ["state.json"])

theorem saveFunctionState_effect {state : FunctionDecompilationState} {target : WorkspacePath}
    (located : functionDir tools state.module state.function = .ok target) (s : StoreDisk) :
    SaveEffect tools state target s := by
  obtain ⟨others, valid, checked⟩ := @ensureSchema_effect tools s
  cases ensured : ensureSchema tools s with
  | error raised t =>
    have ended : saveFunctionState tools state s = .error raised t := bind_raised ensured
    rw [ensured] at others valid
    refine ⟨fun dir _ => ?_, ?_, Or.inr ⟨fun path t ok => ?_, ?_⟩⟩
    · rw [ended]
      exact others dir
    · rw [ended]
      exact valid
    · rw [ended] at ok
      cases ok
    · rw [ended]
      exact others target
  | ok done t =>
    have rest : saveFunctionState tools state s =
        (atomicWriteJson (target ++ ["state.json"]) (.obj (stateToDict state)) >>= fun _ => pure (target ++ ["state.json"])) t := by
      refine (bind_after ensured).trans (bind_after ?_)
      rw [located, lifted]
    rw [ensured] at others valid checked
    obtain ⟨frame, ended⟩ := atomicWriteJson_cases (.obj (stateToDict state)) t (@state_apart target)
    refine ⟨fun dir notTarget => ?_, ?_, ?_⟩
    · rw [rest, finalState_discard, ← others dir]
      apply frame
      rw [List.mem_cons, List.mem_singleton, not_or, tempName_concat]
      exact ⟨concat_ne (by decide), fun same => notTarget (List.append_singleton_inj.mp same).1⟩
    · rw [rest, finalState_discard]
      exact (validateSchemaIfPresent_congr (frame _ (schema_unwritten target))).trans valid
    · rcases ended with ⟨final, ran, written⟩ | ⟨raised, final, ran, same⟩
      · refine Or.inl ⟨checked rfl, ⟨_, final, rest.trans (bind_after ran)⟩, ?_⟩
        rw [rest, finalState_discard, ran]
        exact written
      · refine Or.inr ⟨fun path other ok => ?_, ?_⟩
        · rw [rest, bind_raised ran] at ok
          cases ok
        · rw [rest, finalState_discard, ran]
          exact same.trans (others target)

theorem FunctionKey.load_eq {key : FunctionKey} {target : WorkspacePath} (located : key.dir tools = .ok target) (disk : StoreDisk) :
    key.load tools disk = (do
      validateSchemaIfPresent tools disk
      match fileAt disk (target ++ ["state.json"]) with
      | none => return none
      | some contents => do
        let payload ← loadJsonFile contents s!"functions/{key.module}/{key.function}/state.json"
        let state ← stateFromDict payload
        return some state) := by
  have found : functionDir tools key.module key.function = .ok target := located
  rw [FunctionKey.load, loadFunctionState, found]
  rfl

/-- What is loaded for a function depends on the schema file and on its own file only. -/
theorem FunctionKey.load_congr {key : FunctionKey} {target : WorkspacePath} (located : key.dir tools = .ok target)
    (schema : validateSchemaIfPresent tools t = validateSchemaIfPresent tools s)
    (same : fileAt t (target ++ ["state.json"]) = fileAt s (target ++ ["state.json"])) : key.load tools t = key.load tools s := by
  rw [key.load_eq located, key.load_eq located, schema, same]

theorem FunctionKey.load_stored {key : FunctionKey} {target : WorkspacePath} {state : FunctionDecompilationState}
    (located : key.dir tools = .ok target) (valid : validateSchemaIfPresent tools s = .ok ())
    (stored : fileAt s (target ++ ["state.json"]) = some (.ok (.obj (stateToDict state)))) :
    key.load tools s = .ok (some state) := by
  rw [key.load_eq located, valid, stored, ok_bind]
  change (stateFromDict (.obj (stateToDict state)) >>= fun state => pure (some state)) = _
  rw [stateFromDict_toDict]
  rfl

theorem roundTrips {key : FunctionKey} {target : WorkspacePath} (located : key.dir tools = .ok target) : RoundTrips tools key := by
  intro disk state path final named saved
  subst named
  have effect := saveFunctionState_effect located disk
  rcases effect.ended with ⟨valid, _, stored⟩ | ⟨raised, _⟩
  · have schema := effect.schema
    rw [saved] at schema stored
    exact FunctionKey.load_stored located (schema.trans valid) stored
  · exact absurd saved (raised path final)

theorem leavesAlone {key other : FunctionKey} {target otherTarget : WorkspacePath} (located : key.dir tools = .ok target)
    (otherLocated : other.dir tools = .ok otherTarget) (apart : target ≠ otherTarget) : LeavesAlone tools key other := by
  intro disk state named
  subst named
  have effect := saveFunctionState_effect located disk
  exact FunctionKey.load_congr otherLocated effect.schema (effect.others otherTarget apart.symm)

/-- A save keeps the function's own history its own. -/
theorem ownHistory_save {key : FunctionKey} {target : WorkspacePath} {state : FunctionDecompilationState}
    (located : key.dir tools = .ok target) (named : state.key = key) (own : OwnHistory tools s key) :
    OwnHistory tools (finalState (saveFunctionState tools state s)) key := by
  subst named
  have effect := saveFunctionState_effect located s
  intro loaded found
  rcases effect.ended with ⟨valid, _, stored⟩ | ⟨_, same⟩
  · rw [FunctionKey.load_stored located (effect.schema.trans valid) stored] at found
    cases found
    rfl
  · rw [FunctionKey.load_congr located effect.schema same] at found
    exact own loaded found

theorem attachesOwn {key other : FunctionKey} {target otherTarget : WorkspacePath} (located : key.dir tools = .ok target)
    (otherLocated : other.dir tools = .ok otherTarget) (apart : target ≠ otherTarget) : AttachesOwn tools key other := by
  intro projects disk state queued own otherOwn named ran item member asked
  obtain ⟨known, loaded, attached⟩ := discoverFunctions_attached ran item member
  cases known with
  | none =>
    rw [attached]
    rfl
  | some found =>
    have loadedKey : item.key.load tools (finalState (saveFunctionState tools state disk)) = .ok (some found) := loaded
    rw [attached]
    rcases asked with same | same
    · rw [same] at loadedKey ⊢
      exact ownHistory_save located named own found loadedKey
    · rw [same] at loadedKey ⊢
      rw [leavesAlone located otherLocated apart disk state named] at loadedKey
      exact otherOwn found loadedKey

theorem functionDir_root {module function : String} {target : WorkspacePath}
    (located : functionDir tools module function = .ok target) : tools.resolve ["decompilation", "functions"] <+: target := by
  obtain ⟨_, _, rest⟩ := bind_ok.mp located
  obtain ⟨_, _, rest⟩ := bind_ok.mp rest
  obtain ⟨_, inside, rest⟩ := bind_ok.mp rest
  cases rest
  exact not_not.mp (raiseIf_ok.mp inside)

/-- The directory of a function neither contains the schema file nor lies below it. -/
theorem functionDir_apart {module function : String} {target : WorkspacePath}
    (located : functionDir tools module function = .ok target) :
    ¬schemaPath tools <+: target ∧ ¬target <+: schemaPath tools := by
  have root := functionDir_root located
  constructor
  · intro below
    rcases Nat.le_total (schemaPath tools).length (tools.resolve ["decompilation", "functions"]).length with shorter | longer
    · exact tools.schemaApart (List.prefix_of_prefix_length_le below root shorter)
    · exact tools.functionsApart (List.prefix_of_prefix_length_le root below longer)
  · intro above
    exact tools.functionsApart (root.trans above)

/-- A workspace in which nothing has been written. -/
def freshDisk : StoreDisk := fun _ => none

theorem freshDisk_ne {path : WorkspacePath} {node : Node} : freshDisk path ≠ some node := by
  intro found
  cases found

/-- A disk that holds a valid schema file and at most the file of one function, with their directories. -/
structure HoldsOnly (tools : StoreTools) (target : WorkspacePath) (s : StoreDisk) : Prop where
  valid : validateSchemaIfPresent tools s = .ok ()
  present : (fileAt s (schemaPath tools)).isSome
  files : ∀ path contents, s path = some (.file contents) → path = schemaPath tools ∨ path = target ++ ["state.json"]
  directories : ∀ path, s path = some .directory → path <+: target ∨ path <+: tools.resolve ["decompilation"]

theorem freshDisk_ensured {target : WorkspacePath} :
    ∃ s, ensureSchema tools freshDisk = .ok () s ∧ HoldsOnly tools target s := by
  obtain ⟨s, ensured, known⟩ := @atomicWriteJson_ok (tools.resolve ["decompilation"]) "schema_version.json"
    (.obj [("schema_version", .int decompilationSchemaVersion)]) freshDisk schema_apart (fun _ _ _ => freshDisk_ne)
    freshDisk_ne freshDisk_ne
  have origin : ∀ path node, path ≠ schemaPath tools → s path = some node →
      path <+: tools.resolve ["decompilation"] ∧ node = .directory :=
    fun path node notSchema found => (known path node notSchema found).resolve_left freshDisk_ne
  have first : ensureSchema tools freshDisk = .ok () s := by
    rw [ensureSchema_run]
    exact ensured
  have written : fileAt s (schemaPath tools) = some (.ok (.obj [("schema_version", .int decompilationSchemaVersion)])) := by
    obtain ⟨_, ⟨t, ran, written⟩ | ⟨_, _, ran, _⟩⟩ := atomicWriteJson_cases
      (.obj [("schema_version", .int decompilationSchemaVersion)]) freshDisk (@schema_apart tools)
    · cases ensured.symm.trans ran
      exact written
    · cases ensured.symm.trans ran
  refine ⟨s, first, ⟨?_, ?_, ?_, ?_⟩⟩
  · rw [validateSchemaIfPresent, written]
    rfl
  · rw [written]
    rfl
  · intro path contents found
    by_cases schema : path = schemaPath tools
    · exact Or.inl schema
    · cases (origin _ _ schema found).2
  · intro path found
    by_cases schema : path = schemaPath tools
    · rw [schema] at found
      rw [fileAt, found] at written
      cases written
    · exact Or.inr (origin _ _ schema found).1

theorem HoldsOnly.noDirectory {target : WorkspacePath} (only : HoldsOnly tools target s)
    (notAbove : ¬target <+: schemaPath tools) (name : String) : s (target ++ [name]) ≠ some .directory := by
  intro found
  rcases only.directories _ found with inside | above
  · have short := inside.length_le
    rw [List.length_append, List.length_singleton] at short
    omega
  · exact notAbove ((List.prefix_append target [name]).trans (above.trans (List.prefix_append _ _)))

theorem HoldsOnly.noFile {target parent : WorkspacePath} (only : HoldsOnly tools target s)
    (notBelow : ¬schemaPath tools <+: target) (above : parent <+: target) (contents : Except String Json) :
    s parent ≠ some (.file contents) := by
  intro found
  rcases only.files _ _ found with rfl | rfl
  · exact notBelow above
  · have short := above.length_le
    rw [List.length_append, List.length_singleton] at short
    omega

/-- In such a workspace the function's file can be written, again and again. -/
theorem HoldsOnly.write {target : WorkspacePath} (only : HoldsOnly tools target s) (notBelow : ¬schemaPath tools <+: target)
    (notAbove : ¬target <+: schemaPath tools) (value : Json) :
    ∃ t, atomicWriteJson (target ++ ["state.json"]) value s = .ok () t ∧ HoldsOnly tools target t := by
  obtain ⟨t, ran, known⟩ := atomicWriteJson_ok value state_apart (fun _ above => only.noFile notBelow above)
    (by rw [tempName_concat]; exact only.noDirectory notAbove _) (only.noDirectory notAbove _)
  obtain ⟨frame, ended⟩ := atomicWriteJson_cases value s (@state_apart target)
  rw [ran] at frame
  have schema : fileAt t (schemaPath tools) = fileAt s (schemaPath tools) := frame _ (schema_unwritten target)
  refine ⟨t, ran, ⟨(validateSchemaIfPresent_congr schema).trans only.valid, schema ▸ only.present, ?_, ?_⟩⟩
  · intro path contents found
    by_cases own : path = target ++ ["state.json"]
    · exact Or.inr own
    · rcases known path _ own found with old | ⟨_, directory⟩
      · exact only.files path contents old
      · cases directory
  · intro path found
    by_cases own : path = target ++ ["state.json"]
    · rcases ended with ⟨final, again, written⟩ | ⟨_, _, again, _⟩
      · cases ran.symm.trans again
        rw [fileAt, ← own, found] at written
        cases written
      · cases ran.symm.trans again
    · rcases known path _ own found with old | ⟨above, _⟩
      · exact only.directories path old
      · exact Or.inl above

theorem saveFunctionState_written {state : FunctionDecompilationState} {target : WorkspacePath}
    (located : functionDir tools state.module state.function = .ok target) (ensured : ensureSchema tools s = .ok () t)
    (only : HoldsOnly tools target t) :
    ∃ final, saveFunctionState tools state s = .ok (target ++ ["state.json"]) final ∧ HoldsOnly tools target final := by
  obtain ⟨notBelow, notAbove⟩ := functionDir_apart located
  obtain ⟨final, written, after⟩ := only.write notBelow notAbove (.obj (stateToDict state))
  refine ⟨final, (bind_after ensured).trans ((bind_after ?_).trans (bind_after written)), after⟩
  rw [located, lifted]

/-- In a fresh workspace every state of an accepted function can be saved, and states of the same function after it. -/
theorem saveFunctionState_fresh {state : FunctionDecompilationState} {target : WorkspacePath}
    (located : functionDir tools state.module state.function = .ok target) :
    ∃ t, saveFunctionState tools state freshDisk = .ok (target ++ ["state.json"]) t ∧ HoldsOnly tools target t := by
  obtain ⟨s, ensured, only⟩ := @freshDisk_ensured tools target
  exact saveFunctionState_written located ensured only

theorem HoldsOnly.save {state : FunctionDecompilationState} {target : WorkspacePath}
    (located : functionDir tools state.module state.function = .ok target) (only : HoldsOnly tools target s) :
    ∃ t, saveFunctionState tools state s = .ok (target ++ ["state.json"]) t ∧ HoldsOnly tools target t := by
  have ensured : ensureSchema tools s = .ok () s := by
    rw [ensureSchema_run, if_pos only.present, only.valid, lifted]
  exact saveFunctionState_written located ensured only

/-- Functions that leave each other alone have different directories. -/
theorem leavesAlone_apart {key other : FunctionKey} {target : WorkspacePath} (located : key.dir tools = .ok target)
    (alone : LeavesAlone tools key other) : other.dir tools ≠ .ok target := by
  intro otherLocated
  let state := FunctionDecompilationState.pending key.module key.function 0
  have own : functionDir tools state.module state.function = .ok target := located
  obtain ⟨t, saved, _⟩ := saveFunctionState_fresh own
  have effect := saveFunctionState_effect own freshDisk
  rcases effect.ended with ⟨valid, _, stored⟩ | ⟨raised, _⟩
  · have after := FunctionKey.load_stored otherLocated (effect.schema.trans valid) stored
    rw [alone freshDisk state rfl, other.load_eq otherLocated, valid] at after
    cases after
  · exact raised _ _ saved

end Effects

/-- For two functions that the store accepts, the laws hold just when their histories lie in different directories. -/
theorem storeLaws_iff (tools : StoreTools) {p q : FunctionKey} {pDir qDir : WorkspacePath}
    (acceptedP : p.dir tools = .ok pDir) (acceptedQ : q.dir tools = .ok qDir) : StoreLaws tools p q ↔ pDir ≠ qDir := by
  constructor
  · intro laws same
    exact leavesAlone_apart acceptedP laws.firstAlone (same ▸ acceptedQ)
  · intro apart
    exact {
      first := roundTrips acceptedP
      second := roundTrips acceptedQ
      firstAlone := leavesAlone acceptedP acceptedQ apart
      secondAlone := leavesAlone acceptedQ acceptedP apart.symm
      firstAttaches := attachesOwn acceptedP acceptedQ apart
      secondAttaches := attachesOwn acceptedQ acceptedP apart.symm }

/-- ASCII names in a workspace without links. -/
def asciiTools : StoreTools where
  workspaceDir := "workspace"
  isAlnum := Char.isAlphanum
  casefold := fun text => String.ofList (text.toList.map Char.toLower)
  reprText := fun text => s!"'{text}'"
  reprJson := fun _ => "payload"
  resolve := id
  schemaApart := by decide
  functionsApart := by decide

theorem storeLaws_apart : StoreLaws asciiTools ⟨"EBOOT.BIN", "start"⟩ ⟨"EBOOT.BIN", "stop"⟩ :=
  (@storeLaws_iff asciiTools ⟨"EBOOT.BIN", "start"⟩ ⟨"EBOOT.BIN", "stop"⟩ ["decompilation", "functions", "EBOOT.BIN", "start"]
    ["decompilation", "functions", "EBOOT.BIN", "stop"] (by decide +kernel) (by decide +kernel)).mpr (by decide)

/-- The leading underscore of a name is lost, and with it the difference of the two functions. -/
theorem underscore_collides :
    (⟨"EBOOT.BIN", "_start"⟩ : FunctionKey) ≠ ⟨"EBOOT.BIN", "start"⟩ ∧
      (∃ dir, FunctionKey.dir asciiTools ⟨"EBOOT.BIN", "_start"⟩ = .ok dir ∧
        FunctionKey.dir asciiTools ⟨"EBOOT.BIN", "start"⟩ = .ok dir) ∧
      ¬StoreLaws asciiTools ⟨"EBOOT.BIN", "_start"⟩ ⟨"EBOOT.BIN", "start"⟩ := by
  have first : FunctionKey.dir asciiTools ⟨"EBOOT.BIN", "_start"⟩ = .ok ["decompilation", "functions", "EBOOT.BIN", "start"] := by
    decide +kernel
  have second : FunctionKey.dir asciiTools ⟨"EBOOT.BIN", "start"⟩ = .ok ["decompilation", "functions", "EBOOT.BIN", "start"] := by
    decide +kernel
  exact ⟨by decide, ⟨_, first, second⟩, fun laws => leavesAlone_apart first laws.firstAlone second⟩

end PspDisasm
