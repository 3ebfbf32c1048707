import PspDisasm.Model

namespace PspDisasm

/-- An address, or zero in a field where zero means that there is none. -/
def unlessZero (move : Int → Int) (address : Int) : Int := if address = 0 then 0 else move address

theorem unlessZero_eq_iff {move : Int → Int} {address : Int} :
    unlessZero move address = move address ↔ (address = 0 → move 0 = 0) := by
  unfold unlessZero
  split
  · rename_i zero
    rw [zero]
    simp only [true_implies, eq_comm]
  · rename_i nonzero
    simp only [nonzero, false_implies]

namespace NidEntry

def mapAddresses (move : Int → Int) (entry : NidEntry) : NidEntry :=
  { entry with address := move entry.address, nidAddress := move entry.nidAddress }

def All (P : Int → Prop) (entry : NidEntry) : Prop := P entry.address ∧ P entry.nidAddress

theorem mapAddresses_eq_iff {move other : Int → Int} {entry : NidEntry} :
    entry.mapAddresses move = entry.mapAddresses other ↔ entry.All fun address => move address = other address := by
  simp only [mapAddresses, NidEntry.mk.injEq, All, true_and]

end NidEntry

namespace Library

def mapAddresses (own entries : Int → Int) (library : Library) : Library :=
  { library with
    address := own library.address, functions := library.functions.map (·.mapAddresses entries),
    «variables» := library.variables.map (·.mapAddresses entries) }

def AllEntries (P : Int → Prop) (library : Library) : Prop :=
  (∀ entry ∈ library.functions, entry.All P) ∧ ∀ entry ∈ library.variables, entry.All P

def All (P : Int → Prop) (library : Library) : Prop := P library.address ∧ library.AllEntries P

theorem mapAddresses_eq_iff {own entries other : Int → Int} {library : Library} :
    library.mapAddresses own entries = library.mapAddresses own other ↔
      library.AllEntries fun address => entries address = other address := by
  simp only [mapAddresses, Library.mk.injEq, true_and, List.map_inj_left, NidEntry.mapAddresses_eq_iff, AllEntries]

theorem mapAddresses_all {own entries : Int → Int} {P : Int → Prop} {library : Library} :
    (library.mapAddresses own entries).All P ↔
      P (own library.address) ∧ library.AllEntries fun address => P (entries address) := by
  simp only [All, AllEntries, mapAddresses, List.forall_mem_map, NidEntry.All, NidEntry.mapAddresses]

theorem AllEntries.imp {P Q : Int → Prop} {library : Library} (weaker : ∀ address, P address → Q address)
    (all : library.AllEntries P) : library.AllEntries Q :=
  ⟨fun entry member => (all.1 entry member).imp (weaker _) (weaker _),
    fun entry member => (all.2 entry member).imp (weaker _) (weaker _)⟩

theorem map_mapAddresses_eq_iff {own entries other : Int → Int} {libraries : List Library} :
    libraries.map (·.mapAddresses own entries) = libraries.map (·.mapAddresses own other) ↔
      ∀ library ∈ libraries, library.AllEntries fun address => entries address = other address := by
  simp only [List.map_inj_left, mapAddresses_eq_iff]

end Library

namespace ModuleInfo

def mapAddresses (own start stop : Int → Int) (info : ModuleInfo) : ModuleInfo :=
  { info with
    gpValue := start info.gpValue, exportsStart := start info.exportsStart, exportsEnd := stop info.exportsEnd,
    importsStart := start info.importsStart, importsEnd := stop info.importsEnd, address := own info.address }

/-- `P` holds of the addresses and `Q` of the ends of the tables. -/
def All (P Q : Int → Prop) (info : ModuleInfo) : Prop :=
  P info.gpValue ∧ P info.exportsStart ∧ Q info.exportsEnd ∧ P info.importsStart ∧ Q info.importsEnd ∧ P info.address

end ModuleInfo

/-- `P` holds of every metadata address of a model, and `Q` of the ends of its tables. -/
structure ExecutableModel.All (P Q : Int → Prop) (model : ExecutableModel) : Prop where
  moduleInfo : ∀ info ∈ model.moduleInfo, info.All P Q
  imports : ∀ library ∈ model.imports, library.All P
  exports : ∀ library ∈ model.exports, library.All P

end PspDisasm
