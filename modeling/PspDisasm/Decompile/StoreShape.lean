import PspDisasm.Decompile.StoreLaws
import PspDisasm.Foundations.Lockstep

namespace PspDisasm
open Foundations

/-- Nothing, a directory or a file on both sides, with whatever contents. -/
inductive SameKind : Option Node → Option Node → Prop
  | none : SameKind none none
  | directory : SameKind (some .directory) (some .directory)
  | file (contents other) : SameKind (some (.file contents)) (some (.file other))

/-- Two disks with files and directories at the same places and the same schema file. -/
structure SameShape (tools : StoreTools) (s t : StoreDisk) : Prop where
  kinds : ∀ path, SameKind (s path) (t path)
  schema : fileAt s (schemaPath tools) = fileAt t (schemaPath tools)

section Shape
variable {tools : StoreTools} {s t : StoreDisk} {path : WorkspacePath}

theorem SameKind.refl (node : Option Node) : SameKind node node := by
  cases node with
  | none => exact .none
  | some node =>
    cases node with
    | file contents => exact .file contents contents
    | directory => exact .directory

theorem SameShape.refl (s : StoreDisk) : SameShape tools s s := ⟨fun path => .refl (s path), rfl⟩

theorem SameShape.directory_iff (shape : SameShape tools s t) : s path = some .directory ↔ t path = some .directory := by
  have kind := shape.kinds path
  constructor
  · intro found
    rw [found] at kind
    generalize t path = node at kind ⊢
    cases kind
    rfl
  · intro found
    rw [found] at kind
    generalize s path = node at kind ⊢
    cases kind
    rfl

theorem SameShape.update {node other : Option Node} (shape : SameShape tools s t) (kind : SameKind node other)
    (same : path = schemaPath tools → node = other) :
    SameShape tools (Function.update s path node) (Function.update t path other) := by
  constructor
  · intro place
    by_cases here : place = path
    · rw [here, Function.update_self, Function.update_self]
      exact kind
    · rw [Function.update_of_ne here, Function.update_of_ne here]
      exact shape.kinds place
  · by_cases here : schemaPath tools = path
    · rw [fileAt, fileAt, ← here, Function.update_self, Function.update_self, same here.symm]
    · have kept := shape.schema
      rw [fileAt, fileAt] at kept ⊢
      rw [Function.update_of_ne here, Function.update_of_ne here, kept]

theorem makeDirectory_lockstep (reason : String) (path : WorkspacePath) :
    Lockstep (SameShape tools) (makeDirectory reason path) (makeDirectory reason path) := by
  intro s t shape
  have kind := shape.kinds path
  unfold makeDirectory
  cases here : s path with
  | none =>
    rw [here] at kind
    generalize there : t path = node at kind
    cases kind
    exact .returned (shape.update .directory fun _ => rfl)
  | some node =>
    rw [here] at kind
    generalize there : t path = other at kind
    cases kind with
    | directory => exact .returned shape
    | file contents other => exact .raised

/-- Atomic writes of two values go alike, where both values are the same if it is the schema file. -/
theorem atomicWriteJson_lockstep {value other : Json} (apart : tempName path ≠ path) (notSchema : tempName path ≠ schemaPath tools)
    (same : path = schemaPath tools → value = other) :
    Lockstep (SameShape tools) (atomicWriteJson path value) (atomicWriteJson path other) := by
  refine Lockstep.bind (Lockstep.forM fun parent _ => makeDirectory_lockstep _ parent) fun _ _ s t shape => ?_
  by_cases taken : s (tempName path) = some .directory ∨ s path = some .directory
  · have takenToo : t (tempName path) = some .directory ∨ t path = some .directory := by
      rwa [shape.directory_iff, shape.directory_iff] at taken
    obtain ⟨_, _, failed⟩ := @replaceJson_raised _ value _ apart taken
    obtain ⟨_, _, failedToo⟩ := @replaceJson_raised _ other _ apart takenToo
    rw [failed, failedToo]
    exact .raised
  · have freeToo : ¬(t (tempName path) = some .directory ∨ t path = some .directory) := by
      rwa [shape.directory_iff, shape.directory_iff] at taken
    rw [not_or] at taken freeToo
    rw [replaceJson_ok apart taken.1 taken.2, replaceJson_ok apart freeToo.1 freeToo.2]
    refine .returned ((shape.update (.file _ _) fun schema => ?_).update .none fun schema => absurd schema notSchema)
    rw [same schema]

theorem ensureSchema_lockstep : Lockstep (SameShape tools) (ensureSchema tools) (ensureSchema tools) := by
  intro s t shape
  rw [ensureSchema_run, ensureSchema_run, validateSchemaIfPresent_congr shape.schema, shape.schema]
  split
  · unfold lifted
    split
    · exact .returned shape
    · exact .raised
  · refine atomicWriteJson_lockstep schema_apart ?_ (fun _ => rfl) s t shape
    rw [schemaPath, tempName_concat]
    exact concat_ne (by decide)

/-- Whether a save succeeds depends on the function that it is for, not on the state. -/
theorem saveFunctionState_lockstep {state other : FunctionDecompilationState} (key : state.key = other.key) :
    Lockstep (SameShape tools) (saveFunctionState tools state) (saveFunctionState tools other) := by
  have module : state.module = other.module := congrArg FunctionKey.module key
  have function : state.function = other.function := congrArg FunctionKey.function key
  refine Lockstep.bind ensureSchema_lockstep fun _ _ => ?_
  rw [module, function]
  cases located : functionDir tools other.module other.function with
  | error raised => exact fun _ _ _ => .raised
  | ok target =>
    have apart : target ++ ["state.json"] ≠ schemaPath tools := concat_ne (by decide)
    have tempApart : tempName (target ++ ["state.json"]) ≠ schemaPath tools := by
      rw [tempName_concat]
      exact concat_ne (by decide)
    have written : Lockstep (SameShape tools)
        (atomicWriteJson (target ++ ["state.json"]) (.obj (stateToDict state)) >>= fun _ => pure (target ++ ["state.json"]))
        (atomicWriteJson (target ++ ["state.json"]) (.obj (stateToDict other)) >>= fun _ => pure (target ++ ["state.json"])) :=
      Lockstep.bind (atomicWriteJson_lockstep state_apart tempApart fun schema => absurd schema apart) fun _ _ => .pure _ _
    exact written

end Shape

end PspDisasm
