import Mathlib.Data.List.DropRight
import PspDisasm.AnalysisCache
import PspDisasm.Decompile.State
import PspDisasm.Foundations.Effects

namespace PspDisasm
open Foundations

/-- A file is what `json.loads` makes of its text, or the text of the decode error. The order of the
members of an object, which the sorted keys of a saved text change, counts in no comparison of Python. -/
inductive Node
  | file (contents : Except String Json)
  | directory

abbrev StoreDisk := Disk WorkspacePath Node
abbrev StoreM := EStateM DecompileFailure StoreDisk

/-- What `path.is_file()` finds. -/
def fileAt (disk : StoreDisk) (path : WorkspacePath) : Option (Except String Json) :=
  match disk path with
  | some (.file contents) => some contents
  | _ => none

/-- The name of the workspace directory and the standard library around the store: `str.isalnum`, folding of
case, `repr` of texts and of JSON values, and the directory that a path leads to once its links are followed.
The directories of the functions do not lie below the schema file, nor the schema file among them. -/
structure StoreTools where
  workspaceDir : String
  isAlnum : Char → Bool
  casefold : String → String
  reprText : String → String
  reprJson : Json → String
  resolve : WorkspacePath → WorkspacePath
  schemaApart : ¬resolve ["decompilation"] ++ ["schema_version.json"] <+: resolve ["decompilation", "functions"]
  functionsApart : ¬resolve ["decompilation", "functions"] <+: resolve ["decompilation"] ++ ["schema_version.json"]

section FileSystem

def makeDirectory (reason : String) (path : WorkspacePath) : StoreM Unit := fun disk =>
  match disk path with
  | none => .ok () (Function.update disk path (some .directory))
  | some .directory => .ok () disk
  | some (.file _) => .error (.os reason) disk

/-- `path.mkdir(parents=True, exist_ok=True)`. -/
def mkdirParents (path : WorkspacePath) : StoreM Unit :=
  path.inits.tail.forM fun parent => makeDirectory (if parent = path then "File exists" else "Not a directory") parent

/-- A step on a path that fails when the path is a directory. -/
def unlessDirectory (path : WorkspacePath) (op : DiskOp WorkspacePath Node) : StoreM Unit := fun disk =>
  match disk path with
  | some .directory => .error (.os "Is a directory") disk
  | _ => .ok () (op.apply disk)

def writeText (path : WorkspacePath) (value : Json) : StoreM Unit :=
  unlessDirectory path (.write path (.file (.ok value)))

def replaceFile (source target : WorkspacePath) : StoreM Unit := unlessDirectory target (.replace source target)

def unlinkIfPresent (path : WorkspacePath) : StoreM Unit := do
  if ((← get) path).isSome then unlessDirectory path (.remove path)

/-- The text is written under the temporary name and put in place; what is left of it is removed. -/
def replaceJson (path : WorkspacePath) (value : Json) : StoreM Unit :=
  finallyDo
    (do
      writeText (tempName path) value
      replaceFile (tempName path) path)
    (unlinkIfPresent (tempName path))

def atomicWriteJson (path : WorkspacePath) (value : Json) : StoreM Unit := do
  mkdirParents path.dropLast
  replaceJson path value

def loadJsonFile (contents : Except String Json) (label : String) : Except DecompileFailure Json :=
  match contents with
  | .ok payload => .ok payload
  | .error reason => .error (.workspaceError s!"decompilation state is invalid: {label}: {reason}")

/-- Outside the given paths every file holds what it held before. -/
def FileFrame (paths : List WorkspacePath) (s t : StoreDisk) : Prop := ∀ path ∉ paths, fileAt t path = fileAt s path

instance (paths : List WorkspacePath) : IsPreorder StoreDisk (FileFrame paths) where
  refl _ _ _ := rfl
  trans _ _ _ first second path outside := (second path outside).trans (first path outside)

theorem FileFrame.mono {few many : List WorkspacePath} {s t : StoreDisk} (frame : FileFrame few s t) (wider : few ⊆ many) :
    FileFrame many s t := fun path outside => frame path fun listed => outside (wider listed)

/-- A step changes no file that it does not touch. -/
theorem FileFrame.apply {s : StoreDisk} {op : DiskOp WorkspacePath Node} {paths : List WorkspacePath}
    (touched : ∀ path, op.touches path → path ∈ paths) : FileFrame paths s (op.apply s) := by
  intro path outside
  rw [fileAt, fileAt, apply_untouched fun touches => outside (touched path touches)]

theorem makeDirectory_frame (reason : String) (path : WorkspacePath) :
    Maintains (FileFrame []) (makeDirectory reason path) := by
  intro s other _
  unfold makeDirectory
  split
  · rename_i absent
    change fileAt (Function.update s path (some .directory)) other = fileAt s other
    by_cases same : other = path
    · rw [same, fileAt, fileAt, Function.update_self, absent]
    · rw [fileAt, fileAt, Function.update_of_ne same]
  · rfl
  · rfl

theorem mkdirParents_frame (path : WorkspacePath) : Maintains (FileFrame []) (mkdirParents path) :=
  Maintains.forM (fun parent => makeDirectory_frame _ parent) _

theorem unlessDirectory_ok {path : WorkspacePath} {op : DiskOp WorkspacePath Node} {s : StoreDisk}
    (free : s path ≠ some .directory) : unlessDirectory path op s = .ok () (op.apply s) := by
  unfold unlessDirectory
  split
  · exact absurd ‹_› free
  · rfl

theorem unlessDirectory_error {path : WorkspacePath} {op : DiskOp WorkspacePath Node} {s : StoreDisk}
    (taken : s path = some .directory) : unlessDirectory path op s = .error (.os "Is a directory") s := by
  rw [unlessDirectory, taken]

theorem unlinkIfPresent_none {path : WorkspacePath} {s : StoreDisk} (absent : s path = none) :
    unlinkIfPresent path s = .ok () s := by
  change (if (s path).isSome then unlessDirectory path (.remove path) else pure () : StoreM Unit) s = _
  rw [absent]
  rfl

theorem unlinkIfPresent_some {path : WorkspacePath} {s : StoreDisk} {node : Node} (present : s path = some node) :
    unlinkIfPresent path s = unlessDirectory path (.remove path) s := by
  change (if (s path).isSome then unlessDirectory path (.remove path) else pure () : StoreM Unit) s = _
  rw [present]
  rfl

theorem unlinkIfPresent_frame (path : WorkspacePath) : Maintains (FileFrame [path]) (unlinkIfPresent path) := by
  intro s
  cases found : s path with
  | none =>
    rw [unlinkIfPresent_none found]
    exact refl_of _ s
  | some node =>
    rw [unlinkIfPresent_some found]
    unfold unlessDirectory
    split
    · exact refl_of _ s
    · exact @FileFrame.apply s (.remove path) [path] fun other touches => List.mem_singleton.mpr touches

theorem replaceJson_ok {path : WorkspacePath} {value : Json} {s : StoreDisk} (apart : tempName path ≠ path)
    (freeTemp : s (tempName path) ≠ some .directory) (free : s path ≠ some .directory) :
    replaceJson path value s =
      .ok () (Function.update (Function.update s path (some (.file (.ok value)))) (tempName path) none) := by
  have written : writeText (tempName path) value s = .ok () (Function.update s (tempName path) (some (.file (.ok value)))) :=
    unlessDirectory_ok freeTemp
  have still : Function.update s (tempName path) (some (.file (.ok value))) path ≠ some .directory := by
    rw [Function.update_of_ne apart.symm]
    exact free
  have replaced := @unlessDirectory_ok _ (.replace (tempName path) path) _ still
  have final : (DiskOp.replace (tempName path) path).apply (Function.update s (tempName path) (some (.file (.ok value)))) =
      Function.update (Function.update s path (some (.file (.ok value)))) (tempName path) none := by
    rw [DiskOp.apply, Function.update_self, Function.update_comm apart, Function.update_idem]
  rw [final] at replaced
  exact finallyDo_ok.mpr ⟨_, effect_bind_ok.mpr ⟨(), _, written, replaced⟩, unlinkIfPresent_none (Function.update_self ..)⟩

theorem replaceJson_raised {path : WorkspacePath} {value : Json} {s : StoreDisk} (apart : tempName path ≠ path)
    (taken : s (tempName path) = some .directory ∨ s path = some .directory) :
    FileFrame [tempName path] s (finalState (replaceJson path value s)) ∧
      ∃ raised, replaceJson path value s = .error raised (finalState (replaceJson path value s)) := by
  have body : ∃ raised t, (do writeText (tempName path) value; replaceFile (tempName path) path : StoreM Unit) s =
      .error raised t ∧ FileFrame [tempName path] s t := by
    by_cases takenTemp : s (tempName path) = some .directory
    · exact ⟨_, s, bind_raised (unlessDirectory_error takenTemp), refl_of _ s⟩
    · have still : Function.update s (tempName path) (some (.file (.ok value))) path = some .directory := by
        rw [Function.update_of_ne apart.symm]
        exact taken.resolve_left takenTemp
      refine ⟨_, _, (bind_after (unlessDirectory_ok takenTemp)).trans (unlessDirectory_error still), ?_⟩
      exact FileFrame.apply fun other touches => List.mem_singleton.mpr touches
  obtain ⟨raised, t, failed, frame⟩ := body
  obtain ⟨other, ended⟩ := @finallyDo_raised _ _ _ _ _ _ _ (unlinkIfPresent (tempName path)) failed
  rw [replaceJson, ended]
  exact ⟨trans_of _ frame (unlinkIfPresent_frame _ t), other, rfl⟩

/-- An atomic write puts the whole value in place, or it raises and the file is what it was. No other file but
the temporary one changes. -/
theorem atomicWriteJson_cases {path : WorkspacePath} (value : Json) (s : StoreDisk) (apart : tempName path ≠ path) :
    FileFrame [tempName path, path] s (finalState (atomicWriteJson path value s)) ∧
      ((∃ t, atomicWriteJson path value s = .ok () t ∧ fileAt t path = some (.ok value)) ∨
        ∃ raised t, atomicWriteJson path value s = .error raised t ∧ fileAt t path = fileAt s path) := by
  have made := mkdirParents_frame path.dropLast s
  cases ran : mkdirParents path.dropLast s with
  | error raised t =>
    rw [ran] at made
    have ended : atomicWriteJson path value s = .error raised t := bind_raised ran
    rw [ended]
    exact ⟨made.mono (List.nil_subset _), Or.inr ⟨raised, t, rfl, made path List.not_mem_nil⟩⟩
  | ok done t =>
    rw [ran] at made
    have ended : atomicWriteJson path value s = replaceJson path value t := bind_after ran
    rw [ended]
    by_cases taken : t (tempName path) = some .directory ∨ t path = some .directory
    · obtain ⟨frame, raised, failed⟩ := @replaceJson_raised _ value _ apart taken
      have outside : path ∉ [tempName path] := fun listed => apart (List.mem_singleton.mp listed).symm
      refine ⟨trans_of _ (made.mono (List.nil_subset _)) (frame.mono ?_), Or.inr ⟨raised, _, failed, ?_⟩⟩
      · exact List.cons_subset_cons _ (List.nil_subset _)
      · exact (frame path outside).trans (made path List.not_mem_nil)
    · rw [not_or] at taken
      rw [replaceJson_ok apart taken.1 taken.2]
      refine ⟨?_, Or.inl ⟨_, rfl, ?_⟩⟩
      · intro other outside
        rw [List.mem_cons, List.mem_singleton, not_or] at outside
        rw [← made other List.not_mem_nil, finalState, finalState, fileAt, fileAt, Function.update_of_ne outside.1,
          Function.update_of_ne outside.2]
      · rw [fileAt, Function.update_of_ne apart.symm, Function.update_self]

theorem makeDirectory_ok {reason : String} {path : WorkspacePath} {s : StoreDisk}
    (noFile : ∀ contents, s path ≠ some (.file contents)) :
    ∃ t, makeDirectory reason path s = .ok () t ∧ ∀ other, t other = s other ∨ other = path ∧ t other = some .directory := by
  unfold makeDirectory
  split
  · refine ⟨_, rfl, fun other => ?_⟩
    by_cases same : other = path
    · rw [same, Function.update_self]
      exact Or.inr ⟨rfl, rfl⟩
    · exact Or.inl (Function.update_of_ne same _ _)
  · exact ⟨s, rfl, fun _ => Or.inl rfl⟩
  · exact absurd ‹_› (noFile _)

/-- Directories can be made where there are no files, and nothing else is made. -/
theorem makeDirectories_ok {reason : WorkspacePath → String} {parents : List WorkspacePath} {s : StoreDisk}
    (noFile : ∀ parent ∈ parents, ∀ contents, s parent ≠ some (.file contents)) :
    ∃ t, (parents.forM fun parent => makeDirectory (reason parent) parent) s = .ok () t ∧
      ∀ other, t other = s other ∨ other ∈ parents ∧ t other = some .directory := by
  induction parents generalizing s with
  | nil => exact ⟨s, rfl, fun _ => Or.inl rfl⟩
  | cons parent parents ih =>
    obtain ⟨here, later⟩ := List.forall_mem_cons.mp noFile
    obtain ⟨t, ran, made⟩ := @makeDirectory_ok (reason parent) _ _ here
    have noneLater : ∀ other ∈ parents, ∀ contents, t other ≠ some (.file contents) := by
      intro other listed contents found
      rcases made other with old | ⟨_, directory⟩
      · exact later other listed contents (old.symm.trans found)
      · rw [directory] at found
        cases found
    obtain ⟨final, rest, more⟩ := ih noneLater
    refine ⟨final, effect_bind_ok.mpr ⟨_, t, ran, rest⟩, fun other => ?_⟩
    rcases more other with old | ⟨listed, directory⟩
    · rw [old]
      rcases made other with before | ⟨same, directory⟩
      · exact Or.inl before
      · exact Or.inr ⟨same ▸ List.mem_cons_self, directory⟩
    · exact Or.inr ⟨List.mem_cons_of_mem _ listed, directory⟩

theorem tempName_concat {dir : WorkspacePath} {name : String} : tempName (dir ++ [name]) = dir ++ ["." ++ name ++ ".tmp"] := by
  rw [tempName, List.dropLast_concat, List.getLastD_concat]

/-- An atomic write succeeds when no file is in the way of its directory and no directory in the way of its files. -/
theorem atomicWriteJson_ok {dir : WorkspacePath} {name : String} (value : Json) {s : StoreDisk}
    (apart : tempName (dir ++ [name]) ≠ dir ++ [name])
    (noFile : ∀ parent, parent <+: dir → ∀ contents, s parent ≠ some (.file contents))
    (freeTemp : s (tempName (dir ++ [name])) ≠ some .directory) (free : s (dir ++ [name]) ≠ some .directory) :
    ∃ t, atomicWriteJson (dir ++ [name]) value s = .ok () t ∧ ∀ other node, other ≠ dir ++ [name] → t other = some node →
      s other = some node ∨ other <+: dir ∧ node = .directory := by
  have parents : ∀ parent ∈ dir.inits.tail, parent <+: dir := fun parent listed =>
    (List.mem_inits parent dir).mp (List.mem_of_mem_tail listed)
  obtain ⟨t, made, known⟩ := @makeDirectories_ok (fun parent => if parent = dir then "File exists" else "Not a directory")
    dir.inits.tail s fun parent listed => noFile parent (parents parent listed)
  have longer (last : String) : t (dir ++ [last]) = s (dir ++ [last]) := by
    refine (known _).resolve_right fun new => ?_
    have short := (parents _ new.1).length_le
    rw [List.length_append, List.length_singleton] at short
    omega
  rw [tempName_concat] at apart freeTemp
  have replaced := @replaceJson_ok (dir ++ [name]) value t (by rwa [tempName_concat])
    (by rw [tempName_concat, longer]; exact freeTemp) (by rw [longer]; exact free)
  refine ⟨_, effect_bind_ok.mpr ⟨(), t, ?_, replaced⟩, ?_⟩
  · rw [List.dropLast_concat]
    exact made
  · intro other node notPath found
    by_cases temp : other = tempName (dir ++ [name])
    · rw [temp, Function.update_self] at found
      cases found
    · rw [Function.update_of_ne temp, Function.update_of_ne notPath] at found
      rcases known other with old | ⟨listed, directory⟩
      · exact Or.inl (old.symm.trans found)
      · exact Or.inr ⟨parents other listed, Option.some.inj (found.symm.trans directory)⟩

end FileSystem

section Store
variable (tools : StoreTools)

def decompilationSchemaVersion : Int := 1

def schemaPath : WorkspacePath := tools.resolve ["decompilation"] ++ ["schema_version.json"]

def validateSchemaIfPresent (disk : StoreDisk) : Except DecompileFailure Unit :=
  match fileAt disk (schemaPath tools) with
  | none => .ok ()
  | some contents => do
    let payload ← loadJsonFile contents "decompilation/schema_version.json"
    let unsupported := DecompileFailure.workspaceError s!"unsupported decompilation state schema: {tools.reprJson payload}"
    match payload with
    | .obj fields =>
      raiseIf (¬(Json.getField fields "schema_version").equalsInt decompilationSchemaVersion) unsupported
    | _ => .error unsupported

def ensureSchema : StoreM Unit := do
  let disk ← get
  if (fileAt disk (schemaPath tools)).isSome then lifted (validateSchemaIfPresent tools disk)
  else atomicWriteJson (schemaPath tools) (.obj [("schema_version", .int decompilationSchemaVersion)])

def safeFunctionStem (function : String) : String :=
  let replaced := function.toList.map fun c => if tools.isAlnum c ∨ c ∈ ['_', '.', '-'] then c else '_'
  let edge (c : Char) : Bool := c = '.' || c = '_'
  let cleaned := String.ofList ((replaced.dropWhile edge).rdropWhile edge)
  if cleaned = "" then "function" else cleaned

/-- The parts of `PurePosixPath(module.replace("\\", "/"))`, without the root. -/
def moduleParts (module : String) : WorkspacePath :=
  let text := module.toList.map fun c => if c = '\\' then '/' else c
  (text.splitOn '/').map String.ofList |>.filter fun part => part ≠ "" ∧ part ≠ "."

def functionDir (module function : String) : Except DecompileFailure WorkspacePath := do
  let parts := moduleParts module
  let root := tools.resolve ["decompilation", "functions"]
  raiseIf (module = "" ∨ module.toList.head? ∈ [some '/', some '\\'] ∨ ".." ∈ parts ∨ parts = [])
    (.workspaceError s!"unsafe decompilation module path: {tools.reprText module}")
  raiseIf ('\x00' ∈ module.toList) (.valueError "lstat: embedded null character in path")
  let target := tools.resolve (root ++ parts ++ [safeFunctionStem tools function])
  raiseIf (¬root <+: target)
    (.workspaceError s!"unsafe decompilation function path: {tools.reprText module}/{tools.reprText function}")
  return target

def saveFunctionState (state : FunctionDecompilationState) : StoreM WorkspacePath := do
  ensureSchema tools
  let target ← lifted (functionDir tools state.module state.function)
  atomicWriteJson (target ++ ["state.json"]) (.obj (stateToDict state))
  return target ++ ["state.json"]

def loadFunctionState (disk : StoreDisk) (module function : String) :
    Except DecompileFailure (Option FunctionDecompilationState) := do
  validateSchemaIfPresent tools disk
  let target ← functionDir tools module function
  match fileAt disk (target ++ ["state.json"]) with
  | none => return none
  | some contents => do
    let payload ← loadJsonFile contents s!"functions/{module}/{function}/state.json"
    let state ← stateFromDict payload
    return some state

end Store

end PspDisasm
