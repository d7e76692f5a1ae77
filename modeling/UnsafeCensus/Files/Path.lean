/-
**Paths.**

A path is an anchor and the names between its slashes. Empty names and single dots are dropped when a path
is read, while double dots stay. Two slashes in front are an anchor of their own.

* `Path`: the paths;
* `ofText`, `text`: the path of a text and the text of a path;
* `join`: a path followed by another, which takes its place when it has an anchor;
* `parent`, `name`, `stem`: the path without its last name, this name, and the name without its ending;
* `absolute`: the names on the way from the root, with double dots carried out.
-/

namespace UnsafeCensus.Files

/-- The names between the slashes of a text. -/
def segments (letters : List Char) : List (List Char) :=
  letters.foldr (fun letter done =>
    if letter == '/' then [] :: done
    else match done with
      | [] => [[letter]]
      | first :: rest => (letter :: first) :: rest) [[]]

/-- Where a path starts. -/
inductive Anchor where
  /-- At the working directory. -/
  | here
  | root
  /-- At the root, by two slashes. -/
  | doubleRoot
  deriving DecidableEq, Repr

/-- The slashes of an anchor. -/
def Anchor.text : Anchor → String
  | here => ""
  | root => "/"
  | doubleRoot => "//"

/-- The anchor that a text starts with. -/
def Anchor.ofLetters : List Char → Anchor
  | '/' :: '/' :: '/' :: _ => root
  | '/' :: '/' :: _ => doubleRoot
  | '/' :: _ => root
  | _ => here

/-- An anchor and names, none of them empty or a single dot. -/
structure Path where
  anchor : Anchor
  names : List String
  deriving DecidableEq, Repr

namespace Path

/-- The path of a text. -/
def ofText (text : String) : Path :=
  let letters := text.toList
  ⟨Anchor.ofLetters letters,
    ((segments letters).map String.ofList).filter fun name => name != "" && name != "."⟩

/-- The text of a path; the working directory is a single dot. -/
def text (path : Path) : String :=
  let text := path.anchor.text ++ "/".intercalate path.names
  if text.isEmpty then "." else text

/-- A path followed by another. -/
def join (first second : Path) : Path :=
  if second.anchor = .here then { first with names := first.names ++ second.names } else second

/-- A path followed by the path of a text. -/
def joinText (path : Path) (text : String) : Path :=
  path.join (ofText text)

/-- The path without its last name. -/
def parent (path : Path) : Path :=
  { path with names := path.names.dropLast }

/-- The last name, or the empty text. -/
def name (path : Path) : String :=
  path.names.getLast?.getD ""

/-- The last name without its ending: what stands before its last dot, if this dot is neither the
first nor the last letter. -/
def stem (path : Path) : String :=
  let letters := path.name.toList
  let ending := (letters.reverse.takeWhile (· != '.')).length
  let before := letters.length - (ending + 1)
  if ending < letters.length ∧ 0 < before ∧ 0 < ending then String.ofList (letters.take before)
  else path.name

/-- The names after one more; a double dot takes the last one away. -/
def step (names : List String) (name : String) : List String :=
  if name = ".." then names.dropLast else names ++ [name]

/-- The names on the way from the root, for a path seen from a working directory. -/
def absolute (directory : List String) (path : Path) : List String :=
  path.names.foldl step (if path.anchor = .here then directory else [])

end Path

end UnsafeCensus.Files
