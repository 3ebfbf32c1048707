import PspDisasm.PosixPaths
import PspDisasm.Resources.GameResources

namespace PspDisasm
open Foundations

section Digits

/-- The value of the digits of a number under the format `X`. -/
def hexDigit (c : Char) : Nat := (List.range 16).findIdx fun digit => (Nat.digitChar digit).toUpper = c

def hexValue (chars : List Char) : Nat := chars.foldl (fun value c => value * 16 + hexDigit c) 0

theorem hexDigit_digitChar : ∀ digit < 16, hexDigit (Nat.digitChar digit).toUpper = digit := by decide

theorem hexValue_append (chars : List Char) (last : Char) : hexValue (chars ++ [last]) = hexValue chars * 16 + hexDigit last :=
  List.foldl_append

theorem hexValue_toDigits (n : Nat) : hexValue ((Nat.toDigits 16 n).map Char.toUpper) = n := by
  induction n using Nat.strongRecOn with
  | ind n ih =>
    rw [Nat.toDigits_eq_if (by omega)]
    split
    · rename_i small
      exact (Nat.zero_add _).trans (hexDigit_digitChar n small)
    · rw [List.map_append, List.map_singleton, hexValue_append, ih (n / 16) (by omega), hexDigit_digitChar _ (Nat.mod_lt _ (by omega))]
      omega

theorem hexValue_zeros (count : Nat) (chars : List Char) : hexValue (List.replicate count '0' ++ chars) = hexValue chars := by
  induction count with
  | zero => rfl
  | succ count ih => exact ih

theorem hexPadded_toList (width n : Nat) : ∃ count, (hexPadded width n).toList =
    List.replicate count '0' ++ (Nat.toDigits 16 n).map Char.toUpper := by
  rw [hexPadded, hex, if_neg (by omega), String.toList_append, String.toList_ofList, String.toList_ofList, Int.natAbs_natCast]
  exact ⟨_, rfl⟩

theorem hexPadded_value (width n : Nat) : hexValue (hexPadded width n).toList = n := by
  obtain ⟨count, digits⟩ := hexPadded_toList width n
  rw [digits, hexValue_zeros, hexValue_toDigits]

theorem hexPadded_nonempty (width n : Nat) : (hexPadded width n).toList ≠ [] := by
  obtain ⟨count, digits⟩ := hexPadded_toList width n
  rw [digits]
  refine List.append_ne_nil_of_right_ne_nil _ fun none => ?_
  exact Nat.toDigits_ne_nil (List.map_eq_nil_iff.mp none)

/-- A digit of the format `X`. -/
def IsHexDigit (c : Char) : Prop := ∃ digit < 16, (Nat.digitChar digit).toUpper = c

theorem hexPadded_digits (width n : Nat) : ∀ c ∈ (hexPadded width n).toList, IsHexDigit c := by
  obtain ⟨count, digits⟩ := hexPadded_toList width n
  rw [digits]
  refine List.forall_mem_append.mpr ⟨fun c member => ?_, List.forall_mem_map.mpr fun c member => ?_⟩
  · rw [List.eq_of_mem_replicate member]
    exact ⟨0, by omega, rfl⟩
  · clear digits
    induction n using Nat.strongRecOn with
    | ind n ih =>
      rw [Nat.toDigits_eq_if (by omega)] at member
      split at member
      · rename_i small
        rw [List.mem_singleton.mp member]
        exact ⟨n, small, rfl⟩
      · rcases List.mem_append.mp member with high | low
        · exact ih (n / 16) (by omega) high
        · rw [List.mem_singleton.mp low]
          exact ⟨n % 16, Nat.mod_lt _ (by omega), rfl⟩

theorem isHexDigit_plain : ¬IsHexDigit '/' ∧ ¬IsHexDigit '_' ∧ ¬IsHexDigit '.' := by
  simp only [IsHexDigit, not_exists, not_and]
  decide

end Digits

section Names
variable {data : Bytes} {offset : Int} {found other : ResourceFormatMatch} {parent : String} {destination : WorkspacePath}

/-- The formats, each with the extension of its files. -/
def formatNames : List (String × String) :=
  [("png", "png"), ("jpeg", "jpg"), ("at3", "at3"), ("wav", "wav"), ("vag", "vag"), ("gim", "gim"), ("pmf", "pmf")]

theorem detectResourceAt_named (detected : detectResourceAt data offset = some found) :
    ∃ names ∈ formatNames, found.format = names.1 ∧ found.suggestedExtension = some names.2 := by
  obtain ⟨_, signed, member, matched⟩ := detectResourceAt_eq_some.mp detected
  simp only [signedDetectors, List.mem_cons, List.not_mem_nil, or_false] at member
  rcases member with rfl | rfl | rfl | rfl | rfl | rfl
  · dsimp only [detectPng] at matched
    split at matched
    · cases matched
    · obtain ⟨size, total, rfl, _⟩ := pngChunks_found (Nat.le_add_right ..) matched
      exact ⟨("png", "png"), by decide, rfl, rfl⟩
  · dsimp only [detectJpeg] at matched
    split at matched
    · cases matched
    · obtain ⟨size, rfl, _⟩ := jpegSegments_found (Nat.le_add_right ..) matched
      exact ⟨("jpeg", "jpg"), by decide, rfl, rfl⟩
  · obtain ⟨size, codecTag, chunkCount, _, rfl⟩ := detectRiff_eq_some.mp matched
    by_cases atrac : codecTag.any (· ∈ atracCodecTags) = true
    · refine ⟨("at3", "at3"), by decide, ?_⟩
      rw [riffMatch, atrac]
      exact ⟨rfl, rfl⟩
    · refine ⟨("wav", "wav"), by decide, ?_⟩
      rw [riffMatch, Bool.eq_false_iff.mpr atrac]
      exact ⟨rfl, rfl⟩
  · obtain ⟨version, payloadSize, sampleRate, _, rfl⟩ := detectVag_eq_some.mp matched
    exact ⟨("vag", "vag"), by decide, rfl, rfl⟩
  · dsimp only [detectGim] at matched
    split at matched
    · cases matched
    · cases matched
      exact ⟨("gim", "gim"), by decide, rfl, rfl⟩
  · obtain ⟨versionBytes, streamOffset, streamSize, _, rfl⟩ := detectPsmf_eq_some.mp matched
    exact ⟨("pmf", "pmf"), by decide, rfl, rfl⟩

/-- The name of an extracted file is its place, an underline and the rest. -/
theorem embeddedName_toList (found : ResourceFormatMatch) :
    ∃ rest, (embeddedName found).toList = (hexPadded 8 found.offset).toList ++ '_' :: rest := by
  rw [embeddedName]
  simp only [String.toList_append, List.append_assoc]
  exact ⟨_, rfl⟩

/-- Files from different places have different names. -/
theorem embeddedName_offset (same : embeddedName found = embeddedName other) : found.offset = other.offset := by
  obtain ⟨rest, chars⟩ := embeddedName_toList found
  obtain ⟨others, otherChars⟩ := embeddedName_toList other
  have joined : (hexPadded 8 found.offset).toList ++ '_' :: rest = (hexPadded 8 other.offset).toList ++ '_' :: others := by
    rw [← chars, ← otherChars, same]
  have digits : (hexPadded 8 found.offset).toList = (hexPadded 8 other.offset).toList := by
    have first := congrArg (List.takeWhile (· ≠ '_')) joined
    rwa [List.takeWhile_append_of_pos, List.takeWhile_append_of_pos, List.takeWhile_cons_of_neg (by simp),
      List.takeWhile_cons_of_neg (by simp), List.append_nil, List.append_nil] at first
    all_goals
      intro c member
      refine decide_eq_true fun underline => isHexDigit_plain.2.1 ?_
      exact underline ▸ hexPadded_digits _ _ c member
  rw [← hexPadded_value 8 found.offset, digits, hexPadded_value]

theorem embeddedName_proper (detected : detectResourceAt data offset = some found) : ProperPart (embeddedName found) := by
  obtain ⟨names, listed, format, extension⟩ := detectResourceAt_named detected
  obtain ⟨rest, chars⟩ := embeddedName_toList found
  have digits := hexPadded_digits 8 found.offset
  have texts : (embeddedName found).toList =
      (hexPadded 8 found.offset).toList ++ ("_" ++ names.1 ++ "." ++ names.2).toList := by
    have kept : (found.suggestedExtension.filter (· ≠ "")).getD found.format = names.2 := by
      have written : ∀ names ∈ formatNames, ((some names.2).filter (· ≠ "")).getD names.1 = names.2 := by decide
      rw [extension, format]
      exact written names listed
    rw [embeddedName, kept, format]
    simp only [String.toList_append, List.append_assoc]
  have long : 1 < (embeddedName found).toList.length := by
    have some := List.length_pos_iff.mpr (hexPadded_nonempty 8 found.offset)
    rw [chars, List.length_append, List.length_cons]
    omega
  refine ⟨?_, ?_, ?_⟩
  · rw [texts, List.mem_append, not_or]
    refine ⟨fun slash => isHexDigit_plain.1 (digits _ slash), ?_⟩
    have plain : ∀ names ∈ formatNames, '/' ∉ ("_" ++ names.1 ++ "." ++ names.2).toList := by decide
    exact plain names listed
  · intro empty
    rw [empty] at long
    exact absurd long (by decide)
  · intro here
    rw [here] at long
    exact absurd long (by decide)

end Names

section Destinations
variable {data : Bytes} {offset : Int} {found other : ResourceFormatMatch} {parent inner text : String} {path : WorkspacePath}

theorem posixParts_slash (text other : String) : posixParts (text ++ "/" ++ other) = posixParts text ++ posixParts other := by
  unfold posixParts
  have chars : (text ++ "/" ++ other).toList = text.toList ++ '/' :: other.toList := by
    rw [String.toList_append, String.toList_append, List.append_assoc]
    rfl
  rw [chars, List.splitOn_append_cons_self, List.map_append, List.filter_append]

theorem posixParts_proper_name {name : String} (proper : ProperPart name) : posixParts name = [name] := by
  have joined := posixParts_join (List.forall_mem_singleton.mpr proper)
  rwa [show "/".intercalate [name] = name from rfl] at joined

theorem safeResourceTarget_ok {root : WorkspacePath} (found : safeResourceTarget root text = .ok path) :
    path = root ++ posixParts text := by
  obtain ⟨_, _, made⟩ := bind_ok.mp found
  exact (Except.ok.inj made).symm

theorem embeddedDestination_ok (detected : detectResourceAt data offset = some found)
    (placed : embeddedDestination found parent = .ok path) :
    path = embeddedRoot ++ posixParts parent ++ [embeddedName found] := by
  have name := posixParts_proper_name (embeddedName_proper detected)
  rw [safeResourceTarget_ok placed, posixParts_slash, name, List.append_assoc]

theorem containerDestination_ok (placed : containerDestination parent inner = .ok path) :
    path = containersRoot ++ posixParts parent ++ posixParts inner := by
  obtain ⟨root, rooted, placed⟩ := bind_ok.mp placed
  obtain ⟨_, _, made⟩ := bind_ok.mp placed
  rw [← Except.ok.inj made, safeResourceTarget_ok rooted]

theorem embeddedRoot_prefix (rest : WorkspacePath) : embeddedRoot <+: embeddedRoot ++ rest := List.prefix_append _ _

/-- No file is both in the tree of the embedded files and in that of the containers. -/
theorem roots_apart (embedded : embeddedRoot <+: path) (container : containersRoot <+: path) : False := by
  obtain ⟨rest, rfl⟩ := embedded
  obtain ⟨others, same⟩ := container
  have second : some "containers" = some "embedded" := congrArg (·[1]?) same
  exact absurd second (by decide)

end Destinations

end PspDisasm
