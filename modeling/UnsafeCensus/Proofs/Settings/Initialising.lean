/-
**A file of default settings.**

A file of default settings is written into a directory, which is made with its parents where it is missing. Nothing
else changes, and what stands at the place of the file stays unless it is forced out, as long as the path of the
directory goes up only out of what is there: whether something is at the path is asked before the parents are made, so
a path that goes up out of a missing directory is found empty and leads to the file afterwards.

* `settingsPlace`, `Storable`: the place for the settings file of a directory, where no device or pipe is;
* `checkAbsence_eq`: what is asked before anything is made;
* `Initialises`, `initialises`: what an initialisation comes to, case by case;
* `load_of_default`: a run that starts in a directory with the file has the default settings;
* `Keeps`, `initialise_keeps`: what stays, what is refused and what is there afterwards.
-/

import Mathlib
import UnsafeCensus.Proofs.Files.Making
import UnsafeCensus.Proofs.Json.Written
import UnsafeCensus.Proofs.Settings.Usable

namespace UnsafeCensus.Settings

open Files

variable {nesting : Option Nat} {tree after : Tree} {directory path : Path} {place : Place} {force : Bool}

/-! ### The path of the file -/

theorem isName_fileName : Tree.IsName fileName :=
  ⟨by decide, by decide, by decide, by decide, by decide⟩

theorem joinText_fileName (directory : Path) :
    directory.joinText fileName = { directory with names := directory.names ++ [fileName] } := by
  rw [Path.joinText, Path.ofText_of_isStep isName_fileName.isStep isName_fileName.noSlash]
  rfl

theorem parent_joinText (directory : Path) : (directory.joinText fileName).parent = directory := by
  rw [joinText_fileName, Path.parent, List.dropLast_concat]

theorem names_joinText (directory : Path) :
    (directory.joinText fileName).names = (directory.joinText fileName).parent.names ++ [fileName] := by
  rw [parent_joinText, joinText_fileName]

/-- The place for the settings file of a directory, seen from a working directory. -/
def settingsPlace (directory : Path) (working : Place) : Place :=
  directory.absolute working ++ [fileName]

theorem settingsPlace_ne_nil (directory : Path) (working : Place) : settingsPlace directory working ≠ [] := by
  simp [settingsPlace]

/-- At the place for the settings file of a directory there is nothing that takes what is written and keeps none of
it. -/
def Storable (tree : Tree) (directory : Path) : Prop :=
  ∀ data, tree.entryAt? (settingsPlace directory tree.working) ≠ some (.special data)

theorem absolute_joinText (directory : Path) (working : Place) :
    (directory.joinText fileName).absolute working = settingsPlace directory working := by
  rw [joinText_fileName, settingsPlace, Path.absolute, Path.absolute, List.foldl_append]
  show Path.step _ fileName = _
  rw [Path.step, if_neg isName_fileName.proper]

theorem stat_parent_joinText {found : Place × Entry} (there : tree.stat directory.text = .ok found) :
    tree.stat (directory.joinText fileName).parent.text = .ok found := by
  rw [parent_joinText, there]

/-- What is found at the path of the file is what has its name in the directory. -/
theorem stat_joinText (wellFormed : tree.WellFormed) (regular : directory.Regular)
    (there : tree.stat directory.text = .ok (place, .directory)) :
    tree.stat (directory.joinText fileName).text
      = match tree.entryAt? (settingsPlace directory tree.working) with
        | some entry => .ok (settingsPlace directory tree.working, entry)
        | none => .error .absent := by
  obtain ⟨rfl, _⟩ := wellFormed.entryAt?_of_stat regular there
  exact Tree.stat_of_parent wellFormed (Path.regular_joinText regular fileName) (names_joinText directory)
    isName_fileName (stat_parent_joinText there)

/-! ### What an initialisation does -/

/-- The failure that a settings file is there already. -/
def alreadyThere (path : Path) : Diagnostic :=
  .of .settings (path.text ++ " already exists") "A configuration file already exists." .invalidSettings
    { operation := some "init", file := some path.text } [] none

/-- The absence of a file is stated when nothing is found or the file is forced out. -/
theorem checkAbsence_eq (tree : Tree) (path : Path) (force : Bool) :
    checkAbsence tree path force =
      match tree.stat path.text with
      | .ok _ => if force then .ok () else .error (.diagnosed (alreadyThere path))
      | .error trouble => if Tree.isAbsence trouble then .ok () else .error (.file trouble path.text) := by
  rw [checkAbsence, Tree.isThere]
  cases tree.stat path.text with
  | ok found => cases force <;> rfl
  | error trouble => cases trouble <;> rfl

/-- Nothing is at a path, or what is there is forced out. -/
def Free (tree : Tree) (path : Path) (force : Bool) : Prop :=
  force = true ∨ ∃ trouble, tree.stat path.text = .error trouble ∧ Tree.isAbsence trouble = true

/-- What an initialisation comes to: it is refused, or it is allowed and the directory cannot be made, has a directory
in the place of the file, has there what keeps nothing, or gets the file. -/
inductive Initialises (tree : Tree) (directory : Path) (force : Bool) : Tree × Except Failure Path → Prop
  | null (null : '\x00' ∈ directory.text.toList) :
      Initialises tree directory force (tree, .error (.broken (.noNull (some "mkdir"))))
  | present {found : Place × Entry} (stands : tree.stat (directory.joinText fileName).text = .ok found)
      (unforced : force = false) :
      Initialises tree directory force (tree, .error (.diagnosed (alreadyThere (directory.joinText fileName))))
  | troubled {trouble : FileTrouble} (found : tree.stat (directory.joinText fileName).text = .error trouble)
      (other : Tree.isAbsence trouble = false) :
      Initialises tree directory force (tree, .error (.file trouble (directory.joinText fileName).text))
  | unmade {made : Tree} {trouble : FileTrouble} {path : Path} (noNull : directory.NoNull)
      (free : Free tree (directory.joinText fileName) force)
      (makes : tree.makeDirectories directory = (made, .error (trouble, path))) :
      Initialises tree directory force (made, .error (.file trouble path.text))
  | blocked {made : Tree} (noNull : directory.NoNull) (free : Free tree (directory.joinText fileName) force)
      (makes : tree.makeDirectories directory = (made, .ok ()))
      (there : made.entryAt? (settingsPlace directory tree.working) = some .directory) :
      Initialises tree directory force (made, .error (.file .isDirectory (directory.joinText fileName).text))
  | fed {made : Tree} {data : ByteArray} (noNull : directory.NoNull)
      (free : Free tree (directory.joinText fileName) force)
      (makes : tree.makeDirectories directory = (made, .ok ()))
      (there : made.entryAt? (settingsPlace directory tree.working) = some (.special data)) :
      Initialises tree directory force (made, .ok (directory.joinText fileName))
  | written {made : Tree} (noNull : directory.NoNull) (free : Free tree (directory.joinText fileName) force)
      (makes : tree.makeDirectories directory = (made, .ok ()))
      (leaf : ∀ entry ∈ made.entryAt? (settingsPlace directory tree.working), entry.isFile = true) :
      Initialises tree directory force
        (made.put (settingsPlace directory tree.working) (.file defaultText.toUTF8),
          .ok (directory.joinText fileName))

/-- The directory that was made for the file: it is there, in a well-formed tree that has grown. -/
theorem exists_made (wellFormed : tree.WellFormed) (regular : directory.Regular) (noNull : directory.NoNull)
    (makes : tree.makeDirectories directory = (after, .ok ())) :
    Tree.Grown (directory.onWay tree.working) tree after ∧ after.WellFormed
      ∧ after.stat directory.text = .ok (directory.absolute tree.working, .directory) := by
  have made := Tree.makes_makeDirectories wellFormed regular noNull
  rw [makes] at made
  obtain ⟨place, there⟩ := made.leads rfl
  refine ⟨made.grown, made.wellFormed, ?_⟩
  rw [there, Tree.stat_eq_ok_place regular there, made.grown.working]

/-- A directory without a character of value zero is only asked about its file. -/
theorem withoutNull_bind (noNull : '\x00' ∉ directory.text.toList) (next : Except Failure Unit) :
    (withoutNull (some "mkdir") directory.text >>= fun _ => next) = next := by
  have asked : withoutNull (some "mkdir") directory.text = .ok () := withoutNull_eq_ok_iff.mpr noNull
  rw [asked]
  rfl

theorem initialise_of_refused {failure : Failure} (noNull : '\x00' ∉ directory.text.toList)
    (refused : checkAbsence tree (directory.joinText fileName) force = .error failure) :
    initialise tree directory force = (tree, .error failure) := by
  simp only [initialise, withoutNull_bind noNull, refused]

section Allowed

variable (noNull : '\x00' ∉ directory.text.toList)
  (allowed : checkAbsence tree (directory.joinText fileName) force = .ok ())

include noNull allowed

theorem initialise_of_unmade {trouble : FileTrouble}
    (makes : tree.makeDirectories directory = (after, .error (trouble, path))) :
    initialise tree directory force = (after, .error (.file trouble path.text)) := by
  simp only [initialise, withoutNull_bind noNull, allowed, parent_joinText, makes]

variable (makes : tree.makeDirectories directory = (after, .ok ()))

include makes

theorem initialise_of_blocked {trouble : FileTrouble}
    (writes : after.write (directory.joinText fileName).text defaultText.toUTF8 = .error trouble) :
    initialise tree directory force = (after, .error (.file trouble (directory.joinText fileName).text)) := by
  simp only [initialise, withoutNull_bind noNull, allowed, parent_joinText, makes, writes]

theorem initialise_of_written {written : Tree}
    (writes : after.write (directory.joinText fileName).text defaultText.toUTF8 = .ok written) :
    initialise tree directory force = (written, .ok (directory.joinText fileName)) := by
  simp only [initialise, withoutNull_bind noNull, allowed, parent_joinText, makes, writes]

end Allowed

section Made

variable (wellFormed : tree.WellFormed) (regular : directory.Regular)
  (there : tree.stat directory.text = .ok (directory.absolute tree.working, .directory))

include wellFormed regular there

theorem write_joinText_of_directory
    (blocked : tree.entryAt? (settingsPlace directory tree.working) = some .directory) :
    tree.write (directory.joinText fileName).text defaultText.toUTF8 = .error .isDirectory :=
  Tree.write_of_directory wellFormed (Path.regular_joinText regular fileName) (names_joinText directory)
    isName_fileName (stat_parent_joinText there) _ blocked

theorem write_joinText_of_special {data : ByteArray}
    (fed : tree.entryAt? (settingsPlace directory tree.working) = some (.special data)) :
    tree.write (directory.joinText fileName).text defaultText.toUTF8 = .ok tree :=
  Tree.write_of_special wellFormed (Path.regular_joinText regular fileName) (names_joinText directory)
    isName_fileName (stat_parent_joinText there) _ fed

theorem write_joinText_of_isFile
    (leaf : ∀ entry ∈ tree.entryAt? (settingsPlace directory tree.working), entry.isFile = true) :
    tree.write (directory.joinText fileName).text defaultText.toUTF8
      = .ok (tree.put (settingsPlace directory tree.working) (.file defaultText.toUTF8)) :=
  Tree.write_of_isFile wellFormed (Path.regular_joinText regular fileName) (names_joinText directory)
    isName_fileName (stat_parent_joinText there) _ leaf

end Made

theorem initialises_of_allowed (wellFormed : tree.WellFormed) (regular : directory.Regular)
    (noNull : '\x00' ∉ directory.text.toList) (free : Free tree (directory.joinText fileName) force)
    (allowed : checkAbsence tree (directory.joinText fileName) force = .ok ()) :
    Initialises tree directory force (initialise tree directory force) := by
  have noNull' := (Path.noNull_iff regular).mp noNull
  cases makes : tree.makeDirectories directory with
  | mk made outcome =>
    cases outcome with
    | error trouble =>
      rw [initialise_of_unmade noNull allowed makes]
      exact .unmade noNull' free makes
    | ok =>
      obtain ⟨grown, wellFormed', there⟩ := exists_made wellFormed regular noNull' makes
      rw [← grown.working] at there
      have written (leaf : ∀ entry ∈ made.entryAt? (settingsPlace directory tree.working), entry.isFile = true) :
          Initialises tree directory force (initialise tree directory force) := by
        rw [initialise_of_written noNull allowed makes
          (write_joinText_of_isFile wellFormed' regular there (grown.working ▸ leaf)), grown.working]
        exact .written noNull' free makes leaf
      cases stands : made.entryAt? (settingsPlace directory tree.working) with
      | none => exact written (by rw [stands]; exact nofun)
      | some entry =>
        cases entry with
        | file data => exact written (by rw [stands]; rintro _ ⟨⟩; rfl)
        | directory =>
          rw [initialise_of_blocked noNull allowed makes
            (write_joinText_of_directory wellFormed' regular there (grown.working ▸ stands))]
          exact .blocked noNull' free makes stands
        | special data =>
          rw [initialise_of_written noNull allowed makes
            (write_joinText_of_special wellFormed' regular there (grown.working ▸ stands))]
          exact .fed noNull' free makes stands

/-- What an initialisation comes to. -/
theorem initialises (wellFormed : tree.WellFormed) (regular : directory.Regular) (force : Bool) :
    Initialises tree directory force (initialise tree directory force) := by
  by_cases null : '\x00' ∈ directory.text.toList
  · have refused : withoutNull (some "mkdir") directory.text = .error (.broken (.noNull (some "mkdir"))) :=
      if_pos (by simpa using null)
    rw [initialise, refused]
    exact .null null
  have checked := checkAbsence_eq tree (directory.joinText fileName) force
  cases stands : tree.stat (directory.joinText fileName).text with
  | ok found =>
    rw [stands] at checked
    cases force with
    | true => exact initialises_of_allowed wellFormed regular null (.inl rfl) checked
    | false =>
      rw [initialise_of_refused null checked]
      exact .present stands rfl
  | error trouble =>
    rw [stands] at checked
    by_cases absence : Tree.isAbsence trouble = true
    · refine initialises_of_allowed wellFormed regular null (.inr ⟨trouble, stands, absence⟩) ?_
      rw [checked]
      exact if_pos absence
    · rw [initialise_of_refused null (checked.trans (if_neg absence))]
      exact .troubled stands (Bool.eq_false_iff.mpr absence)

/-- Where something is already, an initialisation is refused, and a forced one writes the default settings there. -/
theorem initialise_of_entryAt? {entry : Entry} (wellFormed : tree.WellFormed) (regular : directory.Regular)
    (noNull : '\x00' ∉ directory.text.toList) (there : tree.stat directory.text = .ok (place, .directory))
    (known : tree.entryAt? (settingsPlace directory tree.working) = some entry) :
    initialise tree directory false = (tree, .error (.diagnosed (alreadyThere (directory.joinText fileName))))
      ∧ ∀ written, tree.write (directory.joinText fileName).text defaultText.toUTF8 = .ok written →
        initialise tree directory true = (written, .ok (directory.joinText fileName)) := by
  have checked := checkAbsence_eq tree (directory.joinText fileName)
  have stands := stat_joinText wellFormed regular there
  rw [known] at stands
  rw [stands] at checked
  exact ⟨initialise_of_refused noNull (checked false), fun written writes =>
    initialise_of_written noNull (checked true) (Tree.makeDirectories_of_stat wellFormed regular there) writes⟩

/-! ### What is read of the file -/

/-- The default settings are read from their text. -/
theorem read_defaultText (nesting : Option Nat) :
    Json.read nesting defaultText.toList = .ok ({} : Settings).value := by
  have legible : ({} : Settings).value.Legible ⟨some Json.mostIntegerDigits, nesting.map (· + 1)⟩ := by
    have differ : (names.map Json.Text.ofString).Nodup := by decide
    -- One object is within any limit.
    obtain ⟨inner, room⟩ : ∃ inner, (Json.Limits.mk (some Json.mostIntegerDigits) (nesting.map (· + 1))).inside?
        = some inner := by
      cases nesting <;> exact ⟨_, rfl⟩
    exact ⟨inner, room, differ, Json.isText_ofString _, Json.isText_ofString _, Json.isText_ofString _, trivial,
      Json.isText_ofString _, trivial, Json.isText_ofString _, trivial, trivial⟩
  have blanks : Json.AreBlanks "\n".toList := by simp [Json.AreBlanks, Json.isBlank]
  rw [Json.read, defaultText, String.toList_append,
    Json.readWithin_written legible blanks (by simp [Json.Delimits])]
  rfl

theorem readDocument_of_default {text : String} (noNull : '\x00' ∉ text.toList)
    (read : tree.read text = .ok defaultText.toUTF8) :
    readDocument nesting tree text = .ok ({} : Settings).value := by
  have asked : withoutNull none text = .ok () := withoutNull_eq_ok_iff.mpr noNull
  have noReturn : '\r' ∉ defaultText.toList := by decide +kernel
  have letters : characters defaultText.toUTF8 = .ok defaultText.toList := by
    have known := characters_toUTF8 defaultText.toList
    rwa [String.ofList_toList, lineFeeds_eq_self noReturn] at known
  rw [readDocument, asked, read]
  simp only [bind, Except.bind, Except.mapError, letters, documentOf, read_defaultText]

/-- A file of default settings is read as these, without a warning. -/
theorem readSettings_of_default (noNull : '\x00' ∉ path.text.toList)
    (read : tree.read path.text = .ok defaultText.toUTF8) : readSettings nesting tree path = ⟨[], .ok {}⟩ := by
  have restored : Restored {} := restored_of_limitFrom .unsaid
  obtain ⟨members, object, _, of⟩ := restored
  rw [readSettings, readDocument_of_default noNull read, object]
  exact of (some path.text)

/-- A search that starts in a directory with a settings file finds this file, whatever is further up. -/
theorem find_eq_settingsIn (wellFormed : tree.WellFormed) (noNull : '\x00' ∉ directory.text.toList) {data : ByteArray}
    (there : tree.entryAt? (settingsPlace directory tree.working) = some (.file data)) :
    find tree directory = .ok (some (settingsIn (directory.absolute tree.working)))
      ∧ tree.read (settingsIn (directory.absolute tree.working)).text = .ok data
      ∧ '\x00' ∉ (settingsIn (directory.absolute tree.working)).text.toList := by
  obtain ⟨_, parent⟩ := wellFormed.names there
  have names : ∀ name ∈ settingsPlace directory tree.working, Tree.IsName name := wellFormed.isName there
  have file : settingsIn (directory.absolute tree.working) = ⟨.root, settingsPlace directory tree.working⟩ :=
    joinText_fileName _
  have regular : (settingsIn (directory.absolute tree.working)).Regular := by
    rw [file]
    exact fun name member => ⟨(names name member).isStep, (names name member).noSlash⟩
  have stands : tree.stat (settingsIn (directory.absolute tree.working)).text
      = .ok (settingsPlace directory tree.working, .file data) := by
    rw [file]
    exact wellFormed.stat_root there
  refine ⟨find_eq_ok_iff.mpr ⟨noNull, _, .directory ?_, .found List.prefix_rfl ?_ fun deeper below longer => ?_⟩,
    Tree.read_eq_ok_iff.mpr ⟨_, _, stands, .file⟩, (Path.noNull_iff regular).mpr ?_⟩
  · rw [Tree.isDirectory, pathOf, wellFormed.stat_root parent]
    rfl
  · rw [Tree.isFile, stands]
    rfl
  · exact absurd below.length_le (Nat.not_le.mpr longer)
  · rw [file]
    exact fun name member => (names name member).noNull

/-- Where a directory has a file of default settings, a run that starts there has these. -/
theorem load_of_default (wellFormed : tree.WellFormed) (noNull : '\x00' ∉ directory.text.toList)
    (there : tree.entryAt? (settingsPlace directory tree.working) = some (.file defaultText.toUTF8)) :
    load nesting tree (some directory) none none = ⟨[], .ok {}⟩ := by
  obtain ⟨found, read, noNull'⟩ := find_eq_settingsIn wellFormed noNull there
  have settings : readSettings nesting tree _ = _ := readSettings_of_default noNull' read
  rw [load, found]
  exact congrArg (fun attempt : Attempt Settings => attempt >>= fun settings => pure settings) settings

/-! ### What an initialisation keeps -/

/-- What holds of a tree, a directory in it and what an initialisation there comes to. -/
structure Keeps (tree : Tree) (directory : Path) (force : Bool) (run : Tree × Except Failure Path) : Prop where
  working : run.1.working = tree.working
  /-- Whatever stood at another place than that of the file stands there still. -/
  kept : ∀ place entry, place ≠ settingsPlace directory tree.working → tree.entryAt? place = some entry →
    run.1.entryAt? place = some entry
  /-- What stood at the place of the file is not forced out, if the path goes up only out of what is there. -/
  guarded : force = false → tree.UpFromThere directory → ∀ entry,
    tree.entryAt? (settingsPlace directory tree.working) = some entry →
      run.1.entryAt? (settingsPlace directory tree.working) = some entry
  /-- Nothing comes to it but directories on the way and, on success, the file. -/
  added : ∀ place, tree.entryAt? place = none → run.1.entryAt? place = none
    ∨ (place ∈ directory.onWay tree.working ∧ run.1.entryAt? place = some .directory)
    ∨ (place = settingsPlace directory tree.working ∧ run.2 = .ok (directory.joinText fileName))
  /-- The one refusal is that something is there already. -/
  refusal : ∀ diagnostic, run.2 = .error (.diagnosed diagnostic) ↔
    diagnostic = alreadyThere (directory.joinText fileName) ∧ force = false
      ∧ ∃ found, tree.stat (directory.joinText fileName).text = .ok found
  refused : ∀ diagnostic, run.2 = .error (.diagnosed diagnostic) → run.1 = tree
  /-- On success the file of default settings is at its place, unless a device or a pipe was there. -/
  success : ∀ path, run.2 = .ok path → path = directory.joinText fileName
    ∧ (Storable tree directory →
      run.1.entryAt? (settingsPlace directory tree.working) = some (.file defaultText.toUTF8))
  /-- A run that starts in the directory has the default settings then, whatever files are further up and however
  deep a document may be nested. -/
  loads : ∀ path nesting, run.2 = .ok path → Storable tree directory →
    load nesting run.1 (some directory) none none = ⟨[], .ok {}⟩
  /-- Then another initialisation is refused unless it is forced, and a forced one changes nothing. -/
  again : ∀ path, run.2 = .ok path →
    initialise run.1 directory false = (run.1, .error (.diagnosed (alreadyThere path)))
      ∧ initialise run.1 directory true = (run.1, .ok path)

/-- A path to a file in a directory goes up only out of what is there when the path of the directory does. -/
theorem upFromThere_joinText (up : tree.UpFromThere directory) :
    tree.UpFromThere (directory.joinText fileName) := by
  rw [joinText_fileName]
  intro names upward
  rcases List.prefix_concat_iff.mp upward with same | upward
  · exact absurd (List.append_singleton_inj.mp same).2 (by decide)
  · exact up names upward

/-- Where something stands at the place of the file and the file is free all the same, no directory is made for it. -/
theorem makes_error_of_free {entry : Entry} (wellFormed : tree.WellFormed) (regular : directory.Regular)
    (noNull : directory.NoNull) (up : tree.UpFromThere directory) (free : Free tree (directory.joinText fileName) false)
    (there : tree.entryAt? (settingsPlace directory tree.working) = some entry) :
    tree.makeDirectories directory ≠ (after, .ok ()) := by
  intro makes
  have regular' := Path.regular_joinText regular fileName
  obtain ⟨grown, wellFormed', made⟩ := exists_made wellFormed regular noNull makes
  obtain ⟨trouble, stands, absence⟩ := free.resolve_left Bool.false_ne_true
  by_cases absent : trouble = .absent
  · have nothing := wellFormed.entryAt?_of_absent regular' (upFromThere_joinText up) (absent ▸ stands)
    rw [absolute_joinText, there] at nothing
    cases nothing
  · -- A file in the way is still in the way of the tree that has grown.
    have still := grown.stat_eq wellFormed wellFormed' regular' (by rw [stands]; simpa using absent)
    have leads := stat_joinText wellFormed' regular made
    rw [grown.working, grown.kept there, still, stands] at leads
    cases leads

namespace Initialises

variable {run : Tree × Except Failure Path}

/-- A tree whose directories have been made, with the file in place of what is no directory. -/
theorem exists_written (wellFormed : tree.WellFormed) (regular : directory.Regular) (noNull : directory.NoNull)
    (makes : tree.makeDirectories directory = (after, .ok ()))
    (leaf : ∀ entry ∈ after.entryAt? (settingsPlace directory tree.working), entry.isFile = true) (entry : Entry) :
    (after.put (settingsPlace directory tree.working) entry).WellFormed
      ∧ (after.put (settingsPlace directory tree.working) entry).stat directory.text
        = .ok (directory.absolute tree.working, .directory) := by
  obtain ⟨grown, wellFormed', there⟩ := exists_made wellFormed regular noNull makes
  have leaf : after.entryAt? (settingsPlace directory tree.working) ≠ some .directory := fun directory' =>
    Bool.noConfusion (leaf _ directory')
  have parent := (wellFormed'.entryAt?_of_stat regular there).2
  have written := wellFormed'.put isName_fileName parent leaf entry
  refine ⟨written, wellFormed'.stat_directory written (Tree.working_put ..) (fun place directory' => ?_) regular there⟩
  rw [Tree.entryAt?_put (settingsPlace_ne_nil directory tree.working), if_neg (by rintro rfl; exact leaf directory')]
  exact directory'

/-- The tree grows by the directories on the way and keeps what is at other places than that of the file. -/
theorem frame (wellFormed : tree.WellFormed) (regular : directory.Regular)
    (comes : Initialises tree directory force run) :
    run.1.working = tree.working
      ∧ (∀ place entry, place ≠ settingsPlace directory tree.working → tree.entryAt? place = some entry →
        run.1.entryAt? place = some entry)
      ∧ ∀ place, tree.entryAt? place = none → run.1.entryAt? place = none
        ∨ (place ∈ directory.onWay tree.working ∧ run.1.entryAt? place = some .directory)
        ∨ (place = settingsPlace directory tree.working ∧ run.2 = .ok (directory.joinText fileName)) := by
  cases comes with
  | null _ | present _ _ | troubled _ _ => exact ⟨rfl, fun _ _ _ there => there, fun _ => .inl⟩
  | unmade noNull free makes =>
    have grown := (Tree.makes_makeDirectories wellFormed regular noNull).grown
    rw [makes] at grown
    exact ⟨grown.working, fun _ _ _ => grown.kept, fun _ absent => (grown.added absent).imp_right .inl⟩
  | blocked noNull free makes there | fed noNull free makes there =>
    obtain ⟨grown, _⟩ := exists_made wellFormed regular noNull makes
    exact ⟨grown.working, fun _ _ _ => grown.kept, fun _ absent => (grown.added absent).imp_right .inl⟩
  | @written made noNull free makes leaf =>
    obtain ⟨grown, _⟩ := exists_made wellFormed regular noNull makes
    have named := settingsPlace_ne_nil directory tree.working
    refine ⟨(Tree.working_put ..).trans grown.working, fun place entry other there => ?_, fun place absent => ?_⟩
    · rw [Tree.entryAt?_put named, if_neg other]
      exact grown.kept there
    · by_cases same : place = settingsPlace directory tree.working
      · exact .inr (.inr ⟨same, rfl⟩)
      · rw [Tree.entryAt?_put named, if_neg same]
        exact (grown.added absent).imp_right .inl

/-- What stands at the place of the file stays without force, where the path goes up only out of what is there. -/
theorem guarded (wellFormed : tree.WellFormed) (regular : directory.Regular) (up : tree.UpFromThere directory)
    (comes : Initialises tree directory false run) {entry : Entry}
    (there : tree.entryAt? (settingsPlace directory tree.working) = some entry) :
    run.1.entryAt? (settingsPlace directory tree.working) = some entry := by
  cases comes with
  | null _ | present _ _ | troubled _ _ => exact there
  | unmade noNull free makes =>
    have grown := (Tree.makes_makeDirectories wellFormed regular noNull).grown
    rw [makes] at grown
    exact grown.kept there
  | blocked noNull free makes | fed noNull free makes | written noNull free makes =>
    exact absurd makes (makes_error_of_free wellFormed regular noNull up free there)

/-- An initialisation is diagnosed only where something is found that is not forced out. -/
theorem refusal (wellFormed : tree.WellFormed) (regular : directory.Regular)
    (comes : Initialises tree directory force run) (diagnostic : Diagnostic) :
    run.2 = .error (.diagnosed diagnostic) ↔
      diagnostic = alreadyThere (directory.joinText fileName) ∧ force = false
        ∧ ∃ found, tree.stat (directory.joinText fileName).text = .ok found := by
  have notFree (free : Free tree (directory.joinText fileName) force) :
      ¬ (force = false ∧ ∃ found, tree.stat (directory.joinText fileName).text = .ok found) := by
    rintro ⟨rfl, found, stands⟩
    obtain ⟨trouble, missing, _⟩ := free.resolve_left Bool.false_ne_true
    rw [stands] at missing
    cases missing
  cases comes with
  | null null =>
    refine ⟨nofun, fun ⟨_, _, (last, found), stands⟩ => ?_⟩
    have noNull := wellFormed.noNull_of_stat (Path.regular_joinText regular fileName) stands
    rw [joinText_fileName] at noNull
    exact absurd null ((Path.noNull_iff regular).mpr fun name member => noNull name (List.mem_append_left _ member))
  | present stands unforced =>
    constructor
    · intro same
      cases same
      exact ⟨rfl, unforced, _, stands⟩
    · rintro ⟨rfl, _⟩
      rfl
  | troubled missing other =>
    refine ⟨nofun, fun ⟨_, _, found, stands⟩ => ?_⟩
    rw [missing] at stands
    cases stands
  | unmade noNull free makes | blocked noNull free makes | fed noNull free makes | written noNull free makes =>
    exact ⟨nofun, fun ⟨_, unforced⟩ => absurd unforced (notFree free)⟩

/-- After success the file is there and a run that starts in the directory has the default settings, unless a device
or a pipe is at its place, and another initialisation is refused or, where it is forced, changes nothing. -/
theorem success (wellFormed : tree.WellFormed) (regular : directory.Regular)
    (comes : Initialises tree directory force run) (done : run.2 = .ok path) :
    path = directory.joinText fileName
      ∧ (Storable tree directory →
        run.1.entryAt? (settingsPlace directory tree.working) = some (.file defaultText.toUTF8)
          ∧ ∀ nesting, load nesting run.1 (some directory) none none = ⟨[], .ok {}⟩)
      ∧ initialise run.1 directory false = (run.1, .error (.diagnosed (alreadyThere path)))
      ∧ initialise run.1 directory true = (run.1, .ok path) := by
  have working := (comes.frame wellFormed regular).1
  cases comes with
  | @fed made data noNull free makes fed =>
    cases done
    have noNull' := (Path.noNull_iff regular).mpr noNull
    obtain ⟨grown, wellFormed', there⟩ := exists_made wellFormed regular noNull makes
    rw [← grown.working] at there fed
    obtain ⟨refused, forced⟩ := initialise_of_entryAt? wellFormed' regular noNull' there fed
    refine ⟨rfl, fun storable => ?_, refused, forced _ (write_joinText_of_special wellFormed' regular there fed)⟩
    rw [grown.working] at fed
    exact absurd (grown.entryAt?_before fed rfl) (storable data)
  | @written made noNull free makes leaf =>
    cases done
    have noNull' := (Path.noNull_iff regular).mpr noNull
    have named := settingsPlace_ne_nil directory tree.working
    obtain ⟨after, isAfter⟩ : ∃ after,
        after = made.put (settingsPlace directory tree.working) (.file defaultText.toUTF8) := ⟨_, rfl⟩
    obtain ⟨wellFormed', there⟩ := exists_written wellFormed regular noNull makes leaf (.file defaultText.toUTF8)
    have file : after.entryAt? (settingsPlace directory tree.working) = some (.file defaultText.toUTF8) := by
      rw [isAfter, Tree.entryAt?_put named, if_pos rfl]
    have still : after.put (settingsPlace directory tree.working) (.file defaultText.toUTF8) = after := by
      rw [isAfter, Tree.put_put named]
    rw [← isAfter] at working wellFormed' there ⊢
    rw [← show after.working = tree.working from working] at file still there
    have writes := write_joinText_of_isFile wellFormed' regular there (by rw [file]; rintro _ ⟨⟩; rfl)
    rw [still] at writes
    obtain ⟨refused, forced⟩ := initialise_of_entryAt? wellFormed' regular noNull' there file
    exact ⟨rfl, fun _ => ⟨working ▸ file, fun _ => load_of_default wellFormed' noNull' file⟩, refused,
      forced _ writes⟩
  | _ => cases done

end Initialises

/-- **What an initialisation keeps, refuses and leaves behind**, for every well-formed tree and every directory that a
text names. -/
theorem initialise_keeps (tree : Tree) (wellFormed : tree.WellFormed) (directory : String) (force : Bool) :
    Keeps tree (.ofText directory) force (initialise tree (.ofText directory) force) := by
  have regular := Path.regular_ofText directory
  have comes := initialises wellFormed regular force
  obtain ⟨working, kept, added⟩ := comes.frame wellFormed regular
  have refusal := comes.refusal wellFormed regular
  refine ⟨working, kept, ?guarded, added, refusal, ?refused, fun path done => ?success,
    fun path nesting done storable => ?loads, fun path done => ?again⟩
  case guarded =>
    rintro rfl up entry there
    exact comes.guarded wellFormed regular up there
  case refused =>
    intro diagnostic refused
    cases known : initialise tree (.ofText directory) force with
    | mk after result =>
      rw [known] at comes refused
      cases comes with
      | present stands unforced => rfl
      | _ => cases refused
  case success =>
    obtain ⟨same, stored, _⟩ := comes.success wellFormed regular done
    exact ⟨same, fun storable => (stored storable).1⟩
  case loads => exact ((comes.success wellFormed regular done).2.1 storable).2 nesting
  case again => exact (comes.success wellFormed regular done).2.2

/-- A tree whose working directory has a settings file. -/
def homeTree : Tree :=
  (Tree.empty ["home"]).put ["home", fileName] (.file "\x7b\x7d".toUTF8)

theorem wellFormed_homeTree : homeTree.WellFormed := by
  have isName : Tree.IsName "home" := ⟨by decide, by decide, by decide, by decide, by decide⟩
  have bare : (Tree.empty ["home"]).WellFormed := Tree.wellFormed_empty isName
  have missing : (Tree.empty ["home"]).entryAt? (["home"] ++ [fileName]) ≠ some .directory := nofun
  exact bare.put isName_fileName bare.working missing (.file "\x7b\x7d".toUTF8)

/-- In this tree an initialisation of a new directory succeeds and gives it the default settings, while one of the
working directory is refused and leaves the file there. -/
theorem initialise_keeps_homeTree :
    homeTree.WellFormed
      ∧ (initialise homeTree (.ofText "new/deep") false).2 = .ok ((Path.ofText "new/deep").joinText fileName)
      ∧ Storable homeTree (.ofText "new/deep")
      ∧ load none (initialise homeTree (.ofText "new/deep") false).1 (some (.ofText "new/deep")) none none
        = ⟨[], .ok {}⟩
      ∧ (initialise homeTree (.ofText ".") false).1 = homeTree
      ∧ homeTree.UpFromThere (.ofText ".")
      ∧ (initialise homeTree (.ofText ".") false).1.entryAt? (settingsPlace (.ofText ".") homeTree.working)
        = some (.file "\x7b\x7d".toUTF8) := by
  have done : (initialise homeTree (.ofText "new/deep") false).2 = .ok ((Path.ofText "new/deep").joinText fileName) :=
    rfl
  have deep := initialise_keeps homeTree wellFormed_homeTree "new/deep" false
  have here := initialise_keeps homeTree wellFormed_homeTree "." false
  have stands : ∃ found, homeTree.stat ((Path.ofText ".").joinText fileName).text = .ok found := ⟨_, rfl⟩
  have up : homeTree.UpFromThere (.ofText ".") := fun names upward =>
    absurd (upward.subset (List.mem_append_right names (.head []))) (by decide)
  have storable : Storable homeTree (.ofText "new/deep") := fun _ => nofun
  exact ⟨wellFormed_homeTree, done, storable, deep.loads _ none done storable, here.refused _ ((here.refusal _).mpr ⟨rfl, rfl, stands⟩), up,
    here.guarded rfl up _ rfl⟩

/-- A directory that is reached through a missing one: the settings file of the working directory is replaced without
force. -/
theorem initialise_through_missing :
    homeTree.WellFormed
      ∧ homeTree.entryAt? (settingsPlace (.ofText "new/..") homeTree.working) = some (.file "\x7b\x7d".toUTF8)
      ∧ (initialise homeTree (.ofText "new/..") false).1.entryAt? (settingsPlace (.ofText "new/..") homeTree.working)
        = some (.file defaultText.toUTF8)
      ∧ "\x7b\x7d".toUTF8 ≠ defaultText.toUTF8 := by
  refine ⟨wellFormed_homeTree, rfl, rfl, fun same => ?_⟩
  exact absurd (congrArg ByteArray.size same) (by decide +kernel)

end UnsafeCensus.Settings
