/-
**A tree of files.**

A tree of files is a list of entries, each at the names on the way to it from the root, and a working
directory. A text is followed name by name: every name but the last has to be a directory, a double dot
goes up from where it stands, and an empty name or a single dot only asks for a directory.

Such a tree has no symbolic links, every file in it can be read and written, and every directory can be
searched and changed. A name has its greatest length, but a whole text has none.

* `Entry`, `Tree`: what stands at a place, and all places;
* `walk`, `stat`: the place and the entry that a text leads to;
* `read`, `isFile`, `isDirectory`, `isThere`: what can be asked of a text;
* `makeDirectories`, `write`: the changes.
-/

import UnsafeCensus.Failure
import UnsafeCensus.Files.Path

namespace UnsafeCensus.Files

/-- What stands at a place. -/
inductive Entry where
  /-- A regular file. -/
  | file (data : ByteArray)
  | directory
  /-- What is no file and no directory, such as a device or a pipe, and what is read from it. -/
  | special (data : ByteArray)

/-- Whether an entry is a directory. -/
def Entry.isDirectory : Entry → Bool
  | directory => true
  | _ => false

/-- Whether an entry is a regular file. -/
def Entry.isFile : Entry → Bool
  | file _ => true
  | _ => false

/-- How many bytes an entry tells that it has; only a file tells. -/
def Entry.size : Entry → Nat
  | file data => data.size
  | _ => 0

/-- The names on the way from the root to a place. -/
abbrev Place := List String

/-- The entries by their places, and the working directory. -/
structure Tree where
  entries : List (Place × Entry)
  working : Place

namespace Tree

/-- The tree that holds nothing but its working directory. -/
def empty (working : Place) : Tree :=
  ⟨[(working, .directory)], working⟩

/-- The entry at a place; the root is a directory. -/
def entryAt? (tree : Tree) (place : Place) : Option Entry :=
  if place.isEmpty then some .directory
  else (tree.entries.find? fun entry => entry.1 == place).map Prod.snd

/-- The tree with an entry at a place. -/
def put (tree : Tree) (place : Place) (entry : Entry) : Tree :=
  if (tree.entryAt? place).isSome then
    { tree with
      entries := tree.entries.map fun old => if old.1 == place then (place, entry) else old }
  else { tree with entries := tree.entries ++ [(place, entry)] }

/-- The most bytes of a name. -/
def longestName : Nat := 255

/-- The place and the entry that names lead to from an entry at a place. -/
def walk (tree : Tree) (place : Place) (entry : Entry) :
    List String → Except FileTrouble (Place × Entry)
  | [] => .ok (place, entry)
  | name :: rest =>
    if !entry.isDirectory then .error .notDirectory
    else if name == "" || name == "." then walk tree place entry rest
    else if name == ".." then walk tree place.dropLast .directory rest
    else if longestName < name.utf8ByteSize then .error .nameTooLong
    else match tree.entryAt? (place ++ [name]) with
      | some next => walk tree (place ++ [name]) next rest
      | none => .error .absent

/-- The names between the slashes of a text. -/
def namesOf (text : String) : List String :=
  (segments text.toList).map String.ofList

/-- Where a text starts. -/
def origin (tree : Tree) (text : String) : Place :=
  if text.toList.head? == some '/' then [] else tree.working

/-- The place and the entry that a text leads to. -/
def stat (tree : Tree) (text : String) : Except FileTrouble (Place × Entry) :=
  if text.isEmpty then .error .absent
  else
    let origin := tree.origin text
    walk tree origin ((tree.entryAt? origin).getD .directory) (namesOf text)

/-- Whether something fails only because nothing is there. -/
def isAbsence : FileTrouble → Bool
  | .absent | .notDirectory => true
  | _ => false

/-- Whether a text leads to a directory; troubles other than its absence are told. -/
def isDirectory (tree : Tree) (text : String) : Except FileTrouble Bool :=
  match tree.stat text with
  | .ok (_, entry) => .ok entry.isDirectory
  | .error trouble => if isAbsence trouble then .ok false else .error trouble

/-- Whether a text leads to a file; troubles other than its absence are told. -/
def isFile (tree : Tree) (text : String) : Except FileTrouble Bool :=
  match tree.stat text with
  | .ok (_, entry) => .ok entry.isFile
  | .error trouble => if isAbsence trouble then .ok false else .error trouble

/-- Whether a text leads anywhere; troubles other than the absence are told. -/
def isThere (tree : Tree) (text : String) : Except FileTrouble Bool :=
  match tree.stat text with
  | .ok _ => .ok true
  | .error trouble => if isAbsence trouble then .ok false else .error trouble

/-- How many bytes are told of what a text leads to. -/
def size (tree : Tree) (text : String) : Except FileTrouble Nat :=
  (tree.stat text).map fun found => found.2.size

/-- The bytes that are read from what a text leads to. -/
def read (tree : Tree) (text : String) : Except FileTrouble ByteArray := do
  match ← tree.stat text with
  | (_, .file data) => return data
  | (_, .special data) => return data
  | (_, .directory) => throw .isDirectory

/-- The place that a text leads to by all its names but the last, and the last name. -/
def lastPlace (tree : Tree) (text : String) : Except FileTrouble (Place × String) := do
  let names := namesOf text
  let origin := tree.origin text
  let (place, entry) ←
    walk tree origin ((tree.entryAt? origin).getD .directory) names.dropLast
  if entry.isDirectory then return (place, names.getLast?.getD "") else throw .notDirectory

/-- The tree with a new directory at a text. -/
def makeDirectory (tree : Tree) (text : String) : Except FileTrouble Tree := do
  let (place, name) ← tree.lastPlace text
  if name == "" || name == "." || name == ".." then throw .alreadyThere
  else if longestName < name.utf8ByteSize then throw .nameTooLong
  else if (tree.entryAt? (place ++ [name])).isSome then throw .alreadyThere
  else return tree.put (place ++ [name]) .directory

/-- The tree with a directory at a text, which may be there already. -/
def ensureDirectory (tree : Tree) (text : String) : Except FileTrouble Tree :=
  match tree.makeDirectory text with
  | .ok made => .ok made
  | .error .absent => .error .absent
  | .error trouble =>
    match tree.isDirectory text with
    | .ok true => .ok tree
    | _ => .error trouble

/-- The tree with a directory at a path, or the trouble and the path it was met at. -/
def ensured (tree : Tree) (path : Path) : Tree × Except (FileTrouble × Path) Unit :=
  match tree.ensureDirectory path.text with
  | .ok made => (made, .ok ())
  | .error trouble => (tree, .error (trouble, path))

/-- The tree with a directory at a path and at its parents, of which the last ones, as many as said, are
made where they are missing. What was made before a trouble stays. -/
def ensureAll (tree : Tree) (path : Path) : Nat → Tree × Except (FileTrouble × Path) Unit
  | 0 => tree.ensured path
  | depth + 1 =>
    match tree.ensured path with
    | (_, .error (.absent, _)) =>
      match ensureAll tree path.parent depth with
      | (made, .ok ()) => made.ensured path
      | failed => failed
    | result => result

/-- The tree with a directory at a path and at all its parents. -/
def makeDirectories (tree : Tree) (path : Path) : Tree × Except (FileTrouble × Path) Unit :=
  tree.ensureAll path path.names.length

/-- The tree with a file at a text, in place of one that may be there. What is written to something else
than a file is in no tree. -/
def write (tree : Tree) (text : String) (data : ByteArray) : Except FileTrouble Tree := do
  match tree.stat text with
  | .ok (place, .file _) => return tree.put place (.file data)
  | .ok (_, .special _) => return tree
  | .ok (_, .directory) => throw .isDirectory
  | .error .absent =>
    let (place, name) ← tree.lastPlace text
    if name == "" then throw .isDirectory else return tree.put (place ++ [name]) (.file data)
  | .error trouble => throw trouble

end Tree

end UnsafeCensus.Files
