import PspDisasm.Project.SymbolsFile

namespace PspDisasm
open Foundations

namespace Project

/-- A name of the C language that is not one of its words. -/
def IsIdentifier (keywords : List String) (name : String) : Prop :=
  (∃ first, name.toList.head? = some first ∧ first.isDigit = false) ∧ (∀ c ∈ name.toList, isWordChar c = true) ∧ name ∉ keywords

section Names
variable {name fallback : String}

theorem cleanedName_head : ∃ first, (cleanedName name).toList.head? = some first ∧ first.isDigit = false := by
  rw [cleanedName, String.toList_ofList]
  split
  · exact ⟨'_', rfl, rfl⟩
  · rename_i fine
    obtain ⟨nonempty, free⟩ := not_or.mp fine
    obtain ⟨first, rest, split⟩ := List.exists_cons_of_ne_nil nonempty
    rw [split] at free ⊢
    exact ⟨first, rfl, Bool.eq_false_iff.mpr fun digit => free (by simpa using digit)⟩

theorem cleanedName_word : ∀ c ∈ (cleanedName name).toList, isWordChar c = true := by
  have word : ∀ c ∈ name.toList.map fun c => if isWordChar c then c else '_', isWordChar c = true := by
    refine List.forall_mem_map.mpr fun c _ => ?_
    split
    · assumption
    · rfl
  rw [cleanedName, String.toList_ofList]
  split
  · exact List.forall_mem_cons.mpr ⟨rfl, word⟩
  · exact word

/-- The cleaned name is never empty, so that no fallback is taken. -/
theorem validSymbolName_eq : validSymbolName name fallback = cleanedName name := by
  refine if_neg fun empty => ?_
  obtain ⟨first, head, _⟩ := @cleanedName_head name
  rw [empty] at head
  cases head

theorem cleanedName_of_word (start : ∃ first, name.toList.head? = some first ∧ first.isDigit = false)
    (word : ∀ c ∈ name.toList, isWordChar c = true) : cleanedName name = name := by
  obtain ⟨first, head, digit⟩ := start
  have same : (name.toList.map fun c => if isWordChar c then c else '_') = name.toList := by
    refine (List.map_congr_left fun c member => if_pos (word c member)).trans (List.map_id _)
  rw [cleanedName, same, if_neg, String.ofList_toList]
  rw [head, not_or]
  refine ⟨fun empty => ?_, by simpa using digit⟩
  rw [empty] at head
  cases head

theorem toDigits_word {n : Nat} : ∀ c ∈ Nat.toDigits 16 n, isWordChar c.toUpper = true := by
  have digit : ∀ d < 16, isWordChar (Nat.digitChar d).toUpper = true := by decide
  induction n using Nat.strongRecOn with
  | ind n ih =>
    rw [Nat.toDigits_eq_if (by omega)]
    split
    · rename_i small
      exact List.forall_mem_singleton.mpr (digit n small)
    · exact List.forall_mem_append.mpr ⟨ih (n / 16) (by omega), List.forall_mem_singleton.mpr (digit _ (Nat.mod_lt _ (by omega)))⟩

theorem addressDigits_word {address : Int} (positive : 0 ≤ address) : ∀ c ∈ (addressDigits address).toList, isWordChar c = true := by
  rw [addressDigits, if_neg (by omega), hexPadded, hex, if_neg (by omega)]
  rw [String.toList_append, String.toList_ofList, String.toList_ofList]
  refine List.forall_mem_append.mpr ⟨fun c member => ?_, List.forall_mem_map.mpr toDigits_word⟩
  rw [List.eq_of_mem_replicate member]
  rfl

theorem stringName_toList {address : Int} : (stringName address).toList = ['S', 'T', 'R', '_'] ++ (addressDigits address).toList :=
  String.toList_append

theorem stringName_word {address : Int} : (∀ c ∈ (stringName address).toList, isWordChar c = true) ↔ 0 ≤ address := by
  rw [stringName_toList]
  refine ⟨fun word => ?_, fun positive => ?_⟩
  · by_contra negative
    have sign : '-' ∈ (addressDigits address).toList := by
      rw [addressDigits, if_pos (by omega), String.toList_append]
      exact List.mem_append_left _ List.mem_cons_self
    exact absurd (word '-' (List.mem_append_right _ sign)) (by decide)
  · exact List.forall_mem_append.mpr ⟨List.all_eq_true.mp rfl, addressDigits_word positive⟩

theorem cleanedName_stringName {address : Int} (positive : 0 ≤ address) : cleanedName (stringName address) = stringName address := by
  refine cleanedName_of_word ⟨'S', ?_, rfl⟩ (stringName_word.mpr positive)
  rw [stringName_toList]
  rfl

end Names

namespace SymbolSources
variable (sources : SymbolSources)

/-- The least name among the functions at an address. -/
def leastFunction (address : Int) : Option String := ((sources.functions.filter (·.address = address)).map (·.name)).min?

/-- The least name among the symbols at an address that are not labels. -/
def leastSymbol (address : Int) : Option String :=
  ((sources.symbols.filter fun symbol => symbol.address = address && symbol.kind ∉ ["label", "branchlabel"]).map (·.name)).min?

/-- The name that the records give to an address: a function goes before a symbol, a proposal or a type. -/
def recordName (address : Int) : Option String :=
  ((sources.leastFunction address).map (sources.functionName · address)).or <|
    ((sources.leastSymbol address).map (sources.symbolName · address)).or <|
      ((sources.proposals.get? address).map (·.name)).or (sources.typeNames.get? address)

/-- The name of an address before the cleaning. -/
def sourceName (address : Int) : Option String :=
  if sources.entry ≠ 0 ∧ sources.entry = address then some "_start"
  else if sources.isString address then some (stringName address)
  else sources.recordName address

/-- Every symbol has one address and every address one symbol, and the symbols are names of C. -/
structure OneToOne (keywords : List String) : Prop where
  addresses : (sources.lines.map (·.address)).Nodup
  names : (sources.lines.map (·.name)).Nodup
  identifiers : ∀ line ∈ sources.lines, IsIdentifier keywords line.name

/-- The names of different addresses stay different under the cleaning, none of them becomes a keyword, and no string has
a sign in its address. -/
structure Unambiguous (keywords : List String) : Prop where
  apart : ∀ first second firstName secondName, sources.sourceName first = some firstName →
    sources.sourceName second = some secondName → first ≠ second → cleanedName firstName ≠ cleanedName secondName
  words : ∀ address name, sources.sourceName address = some name → cleanedName name ∉ keywords
  unsigned : ∀ record ∈ sources.strings, record.address < 0 → record.address = sources.entry

end SymbolSources

section Lookup
variable {α : Type} {key : α → Int × String} {items : List α} {address : Int}

/-- Among the items of an address, the first in the sorted list has the least name. -/
theorem find?_byAddressAndName {p : α → Bool} (here : ∀ item, p item = true → (key item).1 = address) :
    ((byAddressAndName key items).find? p).map (fun item => (key item).2) =
      ((items.filter p).map fun item => (key item).2).min? := by
  have perm := (List.perm_insertionSort (fun first second : α => toLex (key first) ≤ toLex (key second)) items).filter p
  have sorted := (List.pairwise_insertionSort (fun first second : α => toLex (key first) ≤ toLex (key second)) items).filter p
  rw [← List.head?_filter, byAddressAndName]
  have held : ∀ item ∈ (items.insertionSort fun first second => toLex (key first) ≤ toLex (key second)).filter p,
      (key item).1 = address := fun item member => here item (List.mem_filter.mp member).2
  generalize (items.insertionSort fun first second => toLex (key first) ≤ toLex (key second)).filter p = list at perm sorted held ⊢
  cases list with
  | nil =>
    rw [← perm.nil_eq]
    rfl
  | cons first rest =>
    symm
    refine List.min?_eq_some_iff.mpr ⟨List.mem_map_of_mem (perm.subset List.mem_cons_self), List.forall_mem_map.mpr ?_⟩
    intro item member
    rcases List.mem_cons.mp (perm.mem_iff.mpr member) with rfl | later
    · exact le_rfl
    · rcases Prod.Lex.toLex_le_toLex.mp ((List.pairwise_cons.mp sorted).1 item later) with below | ⟨_, least⟩
      · have same := held first List.mem_cons_self
        have other := held item (List.mem_cons_of_mem _ later)
        omega
      · exact least

theorem find?_byAddressAndName_dict {β : Type} {order : Int × β → Int × String} {dict : Dict Int β} (unique : dict.keys.Nodup) :
    ((byAddressAndName order dict).find? fun item => item.1 = address).map Prod.snd = dict.get? address := by
  cases found : (byAddressAndName order dict).find? fun item => item.1 = address with
  | none =>
    cases held : dict.get? address with
    | none => rfl
    | some value =>
      have listed : (address, value) ∈ byAddressAndName order dict := (List.mem_insertionSort _).mpr (Dict.mem_of_get? held)
      exact absurd (decide_eq_true rfl) (List.find?_eq_none.mp found _ listed)
  | some item =>
    have here : item.1 = address := by simpa using List.find?_some found
    have listed : item ∈ dict := (List.mem_insertionSort _).mp (List.mem_of_find?_eq_some found)
    rw [← here]
    exact (Dict.get?_of_mem unique listed).symm

theorem strongProposals_nodup {records : List PropagatedSymbol} : (strongProposals records).keys.Nodup := by
  refine List.foldlRecOn (motive := fun selected : Dict Int PropagatedSymbol => selected.keys.Nodup) records keepProposal
    List.nodup_nil fun selected unique record _ => ?_
  rw [keepProposal]
  split
  · exact unique
  · split
    · exact Dict.nodup_set unique
    · split
      · exact Dict.nodup_set unique
      · split
        · exact Dict.nodup_set unique
        · exact unique

theorem strongTypeNames_nodup {records : List DataTyping.DataTypeRecord} : (strongTypeNames records).keys.Nodup := by
  have unique : (records.foldl keepTypeName []).keys.Nodup := by
    refine List.foldlRecOn (motive := fun selected : Dict Int (Rat × String) => selected.keys.Nodup) records keepTypeName
      List.nodup_nil fun selected unique record _ => ?_
    rw [keepTypeName]
    split
    · exact unique
    · dsimp only
      split
      · exact unique
      · split
        · exact Dict.nodup_set unique
        · split
          · exact Dict.nodup_set unique
          · exact unique
  rw [strongTypeNames, Dict.keys, List.map_map]
  exact unique

end Lookup

namespace SymbolSources
variable {sources : SymbolSources} {address : Int}

theorem find?_entryLines : (sources.entryLines.find? (·.address = address)).map (·.name) =
    if sources.entry ≠ 0 ∧ sources.entry = address then some "_start" else none := by
  rw [entryLines]
  by_cases nonzero : sources.entry ≠ 0
  · rw [if_pos nonzero, List.find?_singleton]
    by_cases here : sources.entry = address
    · rw [if_pos (decide_eq_true here), if_pos ⟨nonzero, here⟩]
      rfl
    · rw [if_neg (by simpa using here), if_neg fun both => here both.2]
      rfl
  · rw [if_neg nonzero, if_neg fun both => nonzero both.1]
    rfl

theorem find?_stringLines : (sources.stringLines.find? (·.address = address)).map (·.name) =
    if sources.isString address then some (stringName address) else none := by
  rw [stringLines, List.find?_map]
  cases found : (sources.strings.insertionSort fun first second => first.address ≤ second.address).find?
      ((fun line : SymbolLine => decide (line.address = address)) ∘ fun record => ⟨stringName record.address, record.address, " // type:asciz"⟩) with
  | none =>
    have none := List.find?_eq_none.mp found
    rw [if_neg]
    · rfl
    · intro listed
      obtain ⟨record, member, here⟩ := List.any_eq_true.mp listed
      exact none record ((List.mem_insertionSort _).mpr member) here
  | some record =>
    have here : record.address = address := by simpa using List.find?_some found
    have member := (List.mem_insertionSort _).mp (List.mem_of_find?_eq_some found)
    have listed : sources.isString address = true := List.any_eq_true.mpr ⟨record, member, decide_eq_true here⟩
    rw [if_pos listed, ← here]
    rfl

theorem find?_functionLines : (sources.functionLines.find? (·.address = address)).map (·.name) =
    ((sources.leastFunction address).map (sources.functionName · address)).map cleanedName := by
  have least := @find?_byAddressAndName Linker.LocalFunction (fun item => (item.address, item.name)) sources.functions address
    (·.address = address) fun _ here => of_decide_eq_true here
  rw [leastFunction, ← least, functionLines, List.find?_map]
  dsimp only [Function.comp_def]
  cases found : (byAddressAndName (fun item => (item.address, item.name)) sources.functions).find? (·.address = address) with
  | none => rfl
  | some function =>
    have here : function.address = address := by simpa using List.find?_some found
    rw [← here]
    exact congrArg some validSymbolName_eq

theorem find?_symbolLines (plain : sources.isString address = false) :
    (sources.symbolLines.find? (·.address = address)).map (·.name) =
      ((sources.leastSymbol address).map (sources.symbolName · address)).map cleanedName := by
  have least := @find?_byAddressAndName Linker.LocalSymbol (fun item => (item.address, item.name)) sources.symbols address
    (fun symbol => symbol.address = address && symbol.kind ∉ ["label", "branchlabel"])
    fun _ here => of_decide_eq_true (Bool.and_eq_true_iff.mp here).1
  have same : (fun symbol : Linker.LocalSymbol => (!sources.isString symbol.address && symbol.kind ∉ ["label", "branchlabel"]) &&
        symbol.address = address) = fun symbol => symbol.address = address && symbol.kind ∉ ["label", "branchlabel"] := by
    funext symbol
    by_cases here : symbol.address = address
    · rw [here, plain]
      simp
    · simp [here]
  rw [leastSymbol, ← least, symbolLines, List.find?_map, List.find?_filter]
  dsimp only [Function.comp_def]
  simp only [Bool.decide_and, Bool.decide_eq_true, same]
  cases found : (byAddressAndName (fun item => (item.address, item.name)) sources.symbols).find?
      (fun symbol => symbol.address = address && symbol.kind ∉ ["label", "branchlabel"]) with
  | none => rfl
  | some symbol =>
    have held := List.find?_some found
    have here : symbol.address = address := of_decide_eq_true (Bool.and_eq_true_iff.mp held).1
    simp only [Option.map_some, ← here, validSymbolName_eq]

/-- Away from the strings, the loops over dictionaries come to the entry of an address. -/
theorem find?_plain {β : Type} {order : Int × β → Int × String} {dict : Dict Int β} (unique : dict.keys.Nodup)
    (plain : sources.isString address = false) :
    (((byAddressAndName order dict).filter fun item => !sources.isString item.1).find? fun item => item.1 = address).map Prod.snd =
      dict.get? address := by
  have same : (fun item : Int × β => !sources.isString item.1 && decide (item.1 = address)) = fun item => decide (item.1 = address) := by
    funext item
    by_cases here : item.1 = address
    · rw [here, plain]
      simp
    · simp [here]
  rw [List.find?_filter]
  simp only [Bool.decide_and, Bool.decide_eq_true, same]
  exact find?_byAddressAndName_dict unique

theorem find?_proposalLines (plain : sources.isString address = false) :
    (sources.proposalLines.find? (·.address = address)).map (·.name) =
      ((sources.proposals.get? address).map (·.name)).map cleanedName := by
  have held := @find?_plain sources address _ (fun item => (item.1, item.2.name)) sources.proposals strongProposals_nodup plain
  rw [← held, proposalLines, List.find?_map, Option.map_map, Option.map_map, Option.map_map]
  exact congrArg (Option.map · _) (funext fun item => validSymbolName_eq)

theorem find?_typeLines (plain : sources.isString address = false) :
    (sources.typeLines.find? (·.address = address)).map (·.name) = (sources.typeNames.get? address).map cleanedName := by
  have held := @find?_plain sources address _ id sources.typeNames strongTypeNames_nodup plain
  rw [← held, typeLines, List.find?_map, Option.map_map, Option.map_map]
  exact congrArg (Option.map · _) (funext fun item => validSymbolName_eq)

/-- The name of an address in the file. -/
def definedName (sources : SymbolSources) (address : Int) : Option String :=
  if sources.entry ≠ 0 ∧ sources.entry = address then some "_start"
  else if sources.isString address then some (stringName address)
  else (sources.recordName address).map cleanedName

theorem find?_candidates : (sources.candidates.find? (·.address = address)).map (·.name) = sources.definedName address := by
  simp only [candidates, List.find?_append, Option.map_or, find?_entryLines, find?_stringLines, find?_functionLines, definedName]
  split
  · rfl
  · split
    · rfl
    · rename_i plain
      have plain := Bool.eq_false_iff.mpr plain
      rw [find?_symbolLines plain, find?_proposalLines plain, find?_typeLines plain, recordName]
      simp only [Option.map_or, Option.or_assoc, Option.none_or]

theorem definedName_iff {name : String} :
    sources.definedName address = some name ↔ ∃ line ∈ sources.lines, line.address = address ∧ line.name = name := by
  rw [← find?_candidates, Option.map_eq_some_iff]
  refine exists_congr fun line => ?_
  rw [lines, Firsts.mem_ofList]
  constructor
  · rintro ⟨found, named⟩
    have here : line.address = address := by simpa using List.find?_some found
    exact ⟨here ▸ found, here, named⟩
  · rintro ⟨found, here, named⟩
    exact ⟨here ▸ found, named⟩

theorem definedName_of_line {line : SymbolLine} (listed : line ∈ sources.lines) :
    sources.definedName line.address = some line.name := definedName_iff.mpr ⟨line, listed, rfl, rfl⟩

/-- A string without a sign, the entry and the records have the cleaned name in the file. -/
theorem definedName_eq (unsigned : ∀ record ∈ sources.strings, record.address < 0 → record.address = sources.entry) :
    sources.definedName address = (sources.sourceName address).map cleanedName := by
  rw [definedName, sourceName]
  split
  · exact congrArg some (by decide)
  · rename_i other
    split
    · rename_i listed
      obtain ⟨record, member, here⟩ := List.any_eq_true.mp listed
      have same : record.address = address := of_decide_eq_true here
      refine congrArg some (cleanedName_stringName ?_).symm
      by_contra negative
      have entry := unsigned record member (by omega)
      exact other ⟨by omega, by omega⟩
    · rfl

theorem lines_addresses : (sources.lines.map (·.address)).Nodup := Firsts.ofList_lawful.distinct

theorem OneToOne.unsigned {keywords : List String} (oneToOne : sources.OneToOne keywords) :
    ∀ record ∈ sources.strings, record.address < 0 → record.address = sources.entry := by
  intro record member negative
  by_contra other
  have listed : sources.isString record.address = true := List.any_eq_true.mpr ⟨record, member, decide_eq_true rfl⟩
  have defined : sources.definedName record.address = some (stringName record.address) := by
    rw [definedName, if_neg fun both => other both.2.symm, if_pos listed]
  obtain ⟨line, written, _, named⟩ := definedName_iff.mp defined
  have word := (oneToOne.identifiers line written).2.1
  rw [named] at word
  have positive := stringName_word.mp word
  omega

/-- The file is one to one exactly when the names of the addresses stay apart under the cleaning. -/
theorem oneToOne_iff (sources : SymbolSources) (keywords : List String) : sources.OneToOne keywords ↔ sources.Unambiguous keywords := by
  constructor
  · intro oneToOne
    have unsigned := oneToOne.unsigned
    have written : ∀ address name, sources.sourceName address = some name →
        ∃ line ∈ sources.lines, line.address = address ∧ line.name = cleanedName name := by
      intro address name named
      refine definedName_iff.mp ?_
      rw [definedName_eq unsigned, named]
      rfl
    refine ⟨fun first second firstName secondName firstNamed secondNamed apart same => apart ?_, fun address name named => ?_, unsigned⟩
    · obtain ⟨one, listed, rfl, oneName⟩ := written first firstName firstNamed
      obtain ⟨two, otherListed, rfl, twoName⟩ := written second secondName secondNamed
      exact Firsts.nodup_map_iff.mp oneToOne.names one two listed otherListed (by rw [oneName, twoName, same])
    · obtain ⟨line, listed, _, lineName⟩ := written address name named
      rw [← lineName]
      exact (oneToOne.identifiers line listed).2.2
  · intro unambiguous
    have named : ∀ line ∈ sources.lines, ∃ name, sources.sourceName line.address = some name ∧ cleanedName name = line.name := by
      intro line listed
      have defined := definedName_of_line listed
      rw [definedName_eq unambiguous.unsigned] at defined
      exact Option.map_eq_some_iff.mp defined
    refine ⟨lines_addresses, Firsts.nodup_map_iff.mpr fun one two listed otherListed same => ?_, fun line listed => ?_⟩
    · obtain ⟨oneName, oneNamed, oneClean⟩ := named one listed
      obtain ⟨twoName, twoNamed, twoClean⟩ := named two otherListed
      by_contra apart
      exact unambiguous.apart _ _ oneName twoName oneNamed twoNamed apart (by rw [oneClean, twoClean, same])
    · obtain ⟨name, lineNamed, clean⟩ := named line listed
      rw [← clean]
      exact ⟨cleanedName_head, cleanedName_word, unambiguous.words _ name lineNamed⟩

/-- An import stub and an export that take the same name from the links between the modules. -/
def relinked : SymbolSources where
  entry := 0x08804000
  strings := []
  functions := [⟨"func_08804100", 0x08804100⟩, ⟨"func_08804200", 0x08804200⟩]
  symbols := []
  propagatedSymbols := [⟨0x08804100, "modStart", "function", "link", 19 / 20⟩, ⟨0x08804200, "modStart", "function", "link", 19 / 20⟩]
  dataTypes := []

theorem relinked_notOneToOne : ¬relinked.OneToOne [] := by
  intro oneToOne
  have twice : (relinked.lines.map (·.name)) = ["_start", "modStart", "modStart"] := by decide +kernel
  have distinct := oneToOne.names
  rw [twice] at distinct
  exact absurd distinct (by decide)

end SymbolSources

end Project

end PspDisasm
