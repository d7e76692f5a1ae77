/-
**Settings from a file.**

A search goes from a directory upwards and ends at the first one with a settings file, so nothing further up
is looked at. What the file says is put over the defaults, and the variable's format over that.

* `settingsIn`: the settings file of a directory;
* `Nearest`: the settings file of the deepest directory that has one, among a directory and those above it;
* `firstIn_upwards_eq_ok_iff`: the first one upwards is the nearest one, by induction on the directory;
* `characters_toUTF8`: what is read of a text;
* `Chosen`: the settings file of a run;
* `FileLayer`, `VariableNames`: what the file and the variable say;
* `load_eq_ok_iff`: the settings of a run before its command line.
-/

import Mathlib
import UnsafeCensus.Proofs.Json.Texts
import UnsafeCensus.Proofs.Settings.Layers
import UnsafeCensus.Proofs.Text.Utf8
import UnsafeCensus.Settings.Store

namespace UnsafeCensus.Settings

open Census Files

/-- The settings file of a directory. -/
def settingsIn (directory : Place) : Path :=
  (pathOf directory).joinText fileName

variable {nesting : Option Nat} {tree : Tree}

/-- Of a directory and those above it, the settings file of the deepest one that has such a file, or nothing
when none of them has. -/
inductive Nearest (tree : Tree) (directory : Place) : Option Path → Prop
  | nowhere (without : ∀ above, above <+: directory →
      tree.isFile (settingsIn above).text = .ok false) : Nearest tree directory none
  | found {above : Place} (upward : above <+: directory)
      (stands : tree.isFile (settingsIn above).text = .ok true)
      (without : ∀ deeper, deeper <+: directory → above.length < deeper.length →
        tree.isFile (settingsIn deeper).text = .ok false) :
      Nearest tree directory (some (settingsIn above))

theorem upwards_concat (place : Place) (name : String) :
    upwards (place ++ [name]) = (place ++ [name]) :: upwards place := by
  rw [upwards, List.length_append, List.length_singleton, List.range_succ_eq_map, List.map_cons,
    List.map_map, upwards]
  congr 1
  · exact List.take_of_length_le (by simp)
  · refine List.map_congr_left fun count _ => ?_
    show (place ++ [name]).take (place.length + 1 - (count + 1)) = _
    rw [Nat.add_sub_add_right, List.take_append_of_le_length (Nat.sub_le _ _)]

theorem ofTrouble_eq_ok_iff {α : Type} {path : String} {result : Except FileTrouble α} {value : α} :
    ofTrouble path result = .ok value ↔ result = .ok value := by
  cases result <;> simp [ofTrouble, Except.mapError]

theorem firstIn_cons_eq_ok_iff {place : Place} {rest : List Place} {found : Option Path} :
    firstIn tree (place :: rest) = .ok found ↔
      (tree.isFile (settingsIn place).text = .ok true ∧ found = some (settingsIn place))
        ∨ (tree.isFile (settingsIn place).text = .ok false ∧ firstIn tree rest = .ok found) := by
  rw [firstIn, bind_eq_ok_iff]
  simp only [ofTrouble_eq_ok_iff]
  constructor
  · rintro ⟨_ | _, asked, done⟩
    · exact .inr ⟨asked, done⟩
    · cases done
      exact .inl ⟨asked, rfl⟩
  · rintro (⟨asked, rfl⟩ | ⟨asked, done⟩)
    · exact ⟨true, asked, rfl⟩
    · exact ⟨false, asked, done⟩

theorem nearest_concat_iff {place : Place} {name : String} {found : Option Path} :
    Nearest tree (place ++ [name]) found ↔
      (tree.isFile (settingsIn (place ++ [name])).text = .ok true
          ∧ found = some (settingsIn (place ++ [name])))
        ∨ (tree.isFile (settingsIn (place ++ [name])).text = .ok false ∧ Nearest tree place found) := by
  constructor
  · intro nearest
    cases nearest with
    | nowhere without =>
      refine .inr ⟨without _ List.prefix_rfl, .nowhere fun above upward => ?_⟩
      exact without above (upward.trans (List.prefix_append place [name]))
    | found upward stands without =>
      rcases List.prefix_concat_iff.mp upward with rfl | upward
      · exact .inl ⟨stands, rfl⟩
      · have shorter := upward.length_le
        refine .inr ⟨without _ List.prefix_rfl (by simp; omega), .found upward stands ?_⟩
        intro deeper below longer
        exact without deeper (below.trans (List.prefix_append place [name])) longer
  · rintro (⟨stands, rfl⟩ | ⟨missing, nearest⟩)
    · refine .found List.prefix_rfl stands fun deeper below longer => ?_
      have := below.length_le
      omega
    · cases nearest with
      | nowhere without =>
        refine .nowhere fun above upward => ?_
        rcases List.prefix_concat_iff.mp upward with rfl | upward
        · exact missing
        · exact without above upward
      | found upward stands without =>
        refine .found (upward.trans (List.prefix_append place [name])) stands ?_
        intro deeper below longer
        rcases List.prefix_concat_iff.mp below with rfl | below
        · exact missing
        · exact without deeper below longer

theorem nearest_nil_iff {found : Option Path} :
    Nearest tree [] found ↔
      (tree.isFile (settingsIn []).text = .ok true ∧ found = some (settingsIn []))
        ∨ (tree.isFile (settingsIn []).text = .ok false ∧ found = none) := by
  constructor
  · intro nearest
    cases nearest with
    | nowhere without => exact .inr ⟨without [] List.prefix_rfl, rfl⟩
    | found upward stands without =>
      obtain rfl := List.prefix_nil.mp upward
      exact .inl ⟨stands, rfl⟩
  · rintro (⟨stands, rfl⟩ | ⟨missing, rfl⟩)
    · refine .found List.prefix_rfl stands fun deeper below longer => ?_
      rw [List.prefix_nil.mp below] at longer
      cases longer
    · refine .nowhere fun above upward => ?_
      rw [List.prefix_nil.mp upward]
      exact missing

/-- **The first settings file upwards is the nearest one.** -/
theorem firstIn_upwards_eq_ok_iff {directory : Place} {found : Option Path} :
    firstIn tree (upwards directory) = .ok found ↔ Nearest tree directory found := by
  -- A search goes on from a directory to the one that it is in, so the last name comes first.
  induction directory using List.reverseRecOn with
  | nil =>
    show firstIn tree [[]] = .ok found ↔ _
    rw [firstIn_cons_eq_ok_iff, nearest_nil_iff]
    simp [firstIn, eq_comm]
  | append_singleton place name hypothesis =>
    rw [upwards_concat, firstIn_cons_eq_ok_iff, nearest_concat_iff, hypothesis]

/-- The directory in which a search starts: the one that a path leads to, or the one of the file there. -/
inductive StartsIn (tree : Tree) (start : Path) : Place → Prop
  | directory (stands : tree.isDirectory (pathOf (start.absolute tree.working)).text = .ok true) :
      StartsIn tree start (start.absolute tree.working)
  | beside (missing : tree.isDirectory (pathOf (start.absolute tree.working)).text = .ok false) :
      StartsIn tree start (start.absolute tree.working).dropLast

theorem withoutNull_eq_ok_iff {operation : Option String} {text : String} {done : Unit} :
    withoutNull operation text = .ok done ↔ '\x00' ∉ text.toList := by
  by_cases null : '\x00' ∈ text.toList <;> simp [withoutNull, null]

/-- A search finds the nearest settings file. -/
theorem find_eq_ok_iff {start : Path} {found : Option Path} :
    find tree start = .ok found ↔
      '\x00' ∉ start.text.toList ∧ ∃ directory, StartsIn tree start directory
        ∧ Nearest tree directory found := by
  simp only [find, bind_eq_ok_iff, withoutNull_eq_ok_iff, ofTrouble_eq_ok_iff,
    firstIn_upwards_eq_ok_iff, exists_and_left, exists_const]
  refine and_congr_right fun _ => ?_
  constructor
  · rintro ⟨_ | _, asked, nearest⟩
    · exact ⟨_, .beside asked, nearest⟩
    · exact ⟨_, .directory asked, nearest⟩
  · rintro ⟨_, starts, nearest⟩
    cases starts with
    | directory stands => exact ⟨true, stands, nearest⟩
    | beside missing => exact ⟨false, missing, nearest⟩

/-! ### Reading a text -/

/-- A text without a carriage return is read as it is. -/
theorem lineFeeds_eq_self {letters : List Char} (absent : '\r' ∉ letters) :
    lineFeeds letters = letters := by
  induction letters with
  | nil => rfl
  | cons letter rest hypothesis =>
    rw [List.mem_cons, not_or] at absent
    rw [lineFeeds.eq_def]
    split <;> simp_all

theorem characters_toUTF8 (letters : List Char) :
    characters (String.ofList letters).toUTF8 = .ok (lineFeeds letters) := by
  rw [characters, Utf8.decode?_toUTF8]

/-! ### Settings before the command line -/

/-- The settings file of a run: a given one, or else the nearest one from a start on, or none without a
start. -/
inductive Chosen (tree : Tree) : Option Path → Option Path → Option Path → Prop
  | given (start : Option Path) (path : Path) : Chosen tree start (some path) (some path)
  | nearest {start : Path} {directory : Place} {found : Option Path}
      (plain : '\x00' ∉ start.text.toList) (starts : StartsIn tree start directory)
      (nearest : Nearest tree directory found) : Chosen tree (some start) none found
  | without : Chosen tree none none none

/-- What the settings file of a run says. -/
inductive FileLayer (nesting : Option Nat) (tree : Tree) : Option Path → Layer → Prop
  | read {path : Path} {members : List (Json.Text × Json.Value)} {layer : Layer}
      (reads : readDocument nesting tree path.text = .ok (.object members)) (of : Layer.Of members layer) :
      FileLayer nesting tree (some path) layer
  | without : FileLayer nesting tree none {}

/-- The format that a variable names; an empty one names none. -/
inductive VariableNames : Option String → Option Format → Prop
  | absent : VariableNames none none
  | empty : VariableNames (some "") none
  | named {name : String} {format : Format} (filled : name ≠ "") (names : Names name format) :
      VariableNames (some name) (some format)

theorem isFormat_ofString {text : String} {format : Format} :
    IsFormat (.ofString text) format ↔ Names text format := by
  constructor
  · rintro ⟨points, same, named⟩
    cases same
    rwa [Json.Text.toString_ofString] at named
  · intro named
    exact ⟨_, rfl, (Json.Text.toString_ofString text).symm ▸ named⟩

theorem result_readSettings_eq_ok_iff {path : Path} {settings : Settings} :
    (readSettings nesting tree path).result = .ok settings ↔
      ∃ layer, FileLayer nesting tree (some path) layer ∧ settings = layer.over {} := by
  rw [readSettings, Attempt.result_bind, bind_eq_ok_iff]
  constructor
  · rintro ⟨document, reads, done⟩
    cases document with
    | object members =>
      obtain ⟨layer, of, same⟩ := checked_eq_ok_iff.mp (result_ofMembers.symm.trans done)
      exact ⟨layer, .read reads of, same⟩
    | _ => cases done
  · rintro ⟨layer, file, same⟩
    cases file with
    | read reads of =>
      exact ⟨_, reads, result_ofMembers.trans (checked_eq_ok_iff.mpr ⟨layer, of, same⟩)⟩

/-- The path of the settings file of a run. -/
def choice (tree : Tree) (start : Option Path) : Option Path → Except Failure (Option Path)
  | some path => .ok (some path)
  | none => start.elim (.ok none) (find tree)

theorem choice_eq_ok_iff {start given path : Option Path} :
    choice tree start given = .ok path ↔ Chosen tree start given path := by
  constructor
  · intro chosen
    cases given with
    | some given =>
      cases chosen
      exact .given start given
    | none =>
      cases start with
      | none =>
        cases chosen
        exact .without
      | some start =>
        obtain ⟨plain, directory, starts, nearest⟩ := find_eq_ok_iff.mp chosen
        exact .nearest plain starts nearest
  · intro chosen
    cases chosen with
    | given start path => rfl
    | nearest plain starts nearest => exact find_eq_ok_iff.mpr ⟨plain, _, starts, nearest⟩
    | without => rfl

theorem Chosen.unique {start given path other : Option Path} (chosen : Chosen tree start given path)
    (chosen' : Chosen tree start given other) : path = other :=
  Except.ok.inj ((choice_eq_ok_iff.mpr chosen).symm.trans (choice_eq_ok_iff.mpr chosen'))

/-- The settings of a file, or the defaults without a file. -/
def fileSettings (nesting : Option Nat) (tree : Tree) : Option Path → Except Failure Settings
  | some path => (readSettings nesting tree path).result
  | none => .ok {}

theorem fileSettings_eq_ok_iff {path : Option Path} {settings : Settings} :
    fileSettings nesting tree path = .ok settings ↔
      ∃ layer, FileLayer nesting tree path layer ∧ settings = layer.over {} := by
  cases path with
  | some path => exact result_readSettings_eq_ok_iff
  | none =>
    constructor
    · intro same
      cases same
      exact ⟨{}, .without, rfl⟩
    · rintro ⟨layer, ⟨⟩, rfl⟩
      rfl

/-- The format that a variable names, if it names any. -/
def environmentFormat : Option String → Except Failure (Option Format)
  | none => .ok none
  | some name =>
    if name = "" then .ok none
    else (formatOf (some formatVariable) (.ofString name)).map some

theorem environmentFormat_eq_ok_iff {environment : Option String} {format : Option Format} :
    environmentFormat environment = .ok format ↔ VariableNames environment format := by
  constructor
  · intro found
    cases environment with
    | none =>
      cases found
      exact .absent
    | some name =>
      by_cases filled : name = ""
      · subst filled
        cases found
        exact .empty
      · rw [environmentFormat, if_neg filled] at found
        cases named : formatOf (some formatVariable) (.ofString name) with
        | error failure =>
          rw [named] at found
          cases found
        | ok format =>
          rw [named] at found
          cases found
          exact .named filled (isFormat_ofString.mp (formatOf_eq_ok_iff.mp named))
  · intro names
    cases names with
    | absent => rfl
    | empty => rfl
    | named filled names =>
      rw [environmentFormat, if_neg filled, formatOf_eq_ok_iff.mpr (isFormat_ofString.mpr names)]
      rfl

/-- Settings with the format that a variable names over them. -/
def withFormat (environment : Option String) (settings : Settings) : Attempt Settings :=
  match environment with
  | none | some "" => pure settings
  | some name => do
    let format ← formatOf (some formatVariable) (.ofString name)
    return { settings with format }

theorem result_withFormat (environment : Option String) (settings : Settings) :
    (withFormat environment settings).result =
      (environmentFormat environment).map fun format => ({ format } : Layer).over settings := by
  unfold withFormat
  split
  · rfl
  · rfl
  · rename_i name filled
    rw [environmentFormat, if_neg filled, Attempt.result_bind]
    cases formatOf (some formatVariable) (.ofString name) <;> rfl

/-- The settings of a run before its command line come from its file and then from its variable. -/
theorem result_load (nesting : Option Nat) (tree : Tree) (start given : Option Path) (environment : Option String) :
    (load nesting tree start given environment).result =
      choice tree start given >>= fun path => fileSettings nesting tree path >>= fun settings =>
        (environmentFormat environment).map fun format => ({ format } : Layer).over settings := by
  have ofFile (path : Path) : (readSettings nesting tree path >>= withFormat environment).result =
      fileSettings nesting tree (some path) >>= fun settings =>
        (environmentFormat environment).map fun format => ({ format } : Layer).over settings := by
    rw [Attempt.result_bind]
    exact bind_congr fun settings => result_withFormat environment settings
  cases given with
  | some path => exact ofFile path
  | none =>
    cases start with
    | none => exact result_withFormat environment {}
    | some start =>
      unfold load
      show Attempt.result (liftM (find tree start) >>= _) = find tree start >>= _
      rw [Attempt.result_bind]
      refine bind_congr fun path => ?_
      cases path with
      | some path => exact ofFile path
      | none => exact result_withFormat environment {}

/-- The settings of a run before its command line are what its variable says over what its file says over
the defaults. -/
theorem result_load_eq_ok_iff {start given : Option Path} {environment : Option String}
    {settings : Settings} :
    (load nesting tree start given environment).result = .ok settings ↔
      ∃ path file format, Chosen tree start given path ∧ FileLayer nesting tree path file
        ∧ VariableNames environment format
        ∧ settings = ({ format } : Layer).over (file.over {}) := by
  simp only [result_load, bind_eq_ok_iff, map_eq_ok_iff, choice_eq_ok_iff, fileSettings_eq_ok_iff,
    environmentFormat_eq_ok_iff]
  constructor
  · rintro ⟨path, chosen, _, ⟨file, layer, rfl⟩, format, names, rfl⟩
    exact ⟨path, file, format, chosen, layer, names, rfl⟩
  · rintro ⟨path, file, format, chosen, layer, names, rfl⟩
    exact ⟨path, chosen, _, ⟨file, layer, rfl⟩, format, names, rfl⟩

end UnsafeCensus.Settings
