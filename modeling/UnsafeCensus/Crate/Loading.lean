/-
**Loading a crate.**

A crate is loaded from its root file. A module without a body is looked for where its path attribute says,
or else in the directory of the modules of its file under its own name, and its file is loaded in turn. No
file is loaded twice. How bytes become a tree is left open.

* `candidates`, `moduleFile`: where the file of a module may be, and where it is;
* `readSource`: the bytes of a source file, within the limit of size;
* `enter`: a file marked as loaded, which fails for one that is;
* `loadFile`: the outline of a file and of the files below it;
* `Assembly`, `assemble`, `assembleSource`: the files of a crate with its outline, from its root file or
  from a source at hand, whose modules are never followed.
-/

import UnsafeCensus.Crate.Lowering
import UnsafeCensus.Files.Tree
import UnsafeCensus.Source.Input

namespace UnsafeCensus.Crate

open Files

/-- How the bytes of a file become a tree. -/
abbrev Parser := ByteArray → Syntax.Tree

/-- The most bytes of a source file. -/
def largestSource : Nat := 8000000

/-- The name of a file that holds a module for the directory it stands in. -/
def directoryModule : String := "mod.rs"

/-! ### Finding and reading files -/

/-- A diagnostic of a source file that cannot be read. -/
def unreadable (path : Path) (code : Code) (message userMessage : String) (cause : Option String) :
    Failure :=
  .diagnosed (.of .resource message userMessage code
    { operation := some "read_source", file := some path.text } [] cause)

/-- The failure of reading a source file. -/
def readFailure (path : Path) (trouble : FileTrouble) : Failure :=
  let text := path.text
  let cause := trouble.message text
  match trouble with
  | .absent => unreadable path .fileNotFound ("No such file: " ++ text) "" (some cause)
  | _ =>
    unreadable path .fileReadFailed ("Could not read " ++ text ++ ": " ++ cause) "" (some cause)

/-- The failure of a source file with too many bytes. -/
def sizeFailure (path : Path) (size : Nat) : Failure :=
  unreadable path .fileTooLarge
    (path.text ++ " is " ++ toString size ++ " bytes, larger than the " ++ toString largestSource
      ++ " byte limit")
    "Source file is too large to analyse." none

/-- The bytes of a source file, whose size is asked for first. -/
def readSource (tree : Files.Tree) (path : Path) : Except Failure ByteArray := do
  let size ← (tree.size path.text).mapError (readFailure path)
  if largestSource < size then throw (sizeFailure path size)
  else (tree.read path.text).mapError (readFailure path)

/-- Where the file of a module may be: at the value of its path attribute, seen from the directory of the
declaring file, or else at its own name in the directory of modules. -/
def candidates (file directory : Path) (declaration : Declaration) : List Path :=
  match declaration.file with
  | some value => [file.parent.joinText value]
  | none =>
    [directory.joinText (declaration.name ++ ".rs"),
     (directory.joinText declaration.name).joinText directoryModule]

/-- The failure of a module without a file. -/
def missingModule (file directory : Path) (declaration : Declaration) : Failure :=
  let places := candidates file directory declaration
  .diagnosed (.of .resource
    ("File not found for module `" ++ declaration.name ++ "` declared in " ++ file.text)
    ("Module `" ++ declaration.name ++ "` could not be found.") .moduleNotFound
    { operation := some "load_module"
      file := some file.text
      facts :=
        [Json.member "candidates" (.list (places.map fun path => .ofString path.text))] }
    [{ description := "Create " ++ (places.head?.map Path.text).getD "" },
     { description := "Skip out-of-line modules"
       command := some "unsafe-lines count --no-follow-modules" }]
    none)

/-- Whether a path leads to a file. -/
def isSource (tree : Files.Tree) (path : Path) : Except Failure Bool :=
  if path.text.toList.contains '\x00' then .ok false
  else (tree.isFile path.text).mapError fun trouble => .file trouble path.text

/-- The first path that leads to a file. -/
def firstSource (tree : Files.Tree) : List Path → Except Failure (Option Path)
  | [] => .ok none
  | path :: rest => do
    if ← isSource tree path then return some path else firstSource tree rest

/-- The file of a module. -/
def moduleFile (tree : Files.Tree) (file directory : Path) (declaration : Declaration) :
    Except Failure Path := do
  match ← firstSource tree (candidates file directory declaration) with
  | some path => return path
  | none => throw (missingModule file directory declaration)

/-- The directory where the modules of a module's file are looked for. -/
def moduleDirectory (path : Path) : Path :=
  if path.name = directoryModule then path.parent else path.parent.joinText path.stem

/-! ### Loading -/

/-- What has been loaded. -/
structure Loaded where
  map : Source.Map := .empty
  /-- The places of the files. -/
  places : List Place := []

/-- The failure of a file that is loaded already. -/
def includedTwice (path : Path) : Failure :=
  .diagnosed (.of .source ("Module file " ++ path.text ++ " is included more than once")
    "A module file is reachable through more than one `mod` declaration." .moduleCycle
    { operation := some "load_module", file := some path.text } [] none)

/-- The place of a path. -/
def placeOf (tree : Files.Tree) (path : Path) : Except Failure Place :=
  if path.text.toList.contains '\x00' then .error (.broken (.noNull (some "lstat")))
  else .ok (path.absolute tree.working)

/-- Marks a file as loaded. -/
def enter (tree : Files.Tree) (path : Path) : Lowering Loaded Unit := do
  let place ← placeOf tree path
  let loaded ← get
  if loaded.places.contains place then throw (includedTwice path)
  else set { loaded with places := place :: loaded.places }

/-- The outline of the bytes of a file, which are added to the map first. -/
def addSource (parser : Parser) (load : Declaration → Lowering Loaded (List Outline.Node))
    (name : String) (data : ByteArray) (directory : Option Path) : Lowering Loaded Outline.Node := do
  let loaded ← get
  let file := loaded.map.nextFile name data
  set { loaded with map := loaded.map.add name data }
  let tree := parser data
  checkTree file tree
  Lowering.run load data file.start { directory } tree

/-- The outline of a file and of the files of its modules, at most `depth` files below each other, whose
modules are looked for in a directory. -/
def loadFile (parser : Parser) (tree : Files.Tree) (follows : Bool) :
    Nat → Path → Path → Lowering Loaded Outline.Node
  | 0, path, _ => throw (includedTwice path)
  | depth + 1, path, directory => do
    enter tree path
    let data ← readSource tree path
    let load (declaration : Declaration) : Lowering Loaded (List Outline.Node) := do
      match if follows then declaration.directory else none with
      | none => return []
      | some directory =>
        let file ← moduleFile tree path directory declaration
        return [← loadFile parser tree follows depth file (moduleDirectory file)]
    addSource parser load path.text data (some directory)

/-- The files of a crate and its outline. -/
structure Assembly where
  map : Source.Map
  outline : Outline.Node

/-- The crate of what was loaded. -/
def Assembly.ofLoaded (result : Outline.Node × Loaded) : Assembly :=
  ⟨result.2.map, result.1⟩

/-- The crate with a root file. Each file below another is a further entry of the tree, so the entries
bound how deep files stand below each other. -/
def assemble (parser : Parser) (tree : Files.Tree) (follows : Bool) (path : Path) :
    Except Failure Assembly :=
  (StateT.run (loadFile parser tree follows (tree.entries.length + 2) path path.parent) {}).map
    Assembly.ofLoaded

/-- The crate of a source at hand. -/
def assembleSource (parser : Parser) (name : String) (source : Source.Input) :
    Except Failure Assembly := do
  let data ← source.encoded
  (StateT.run (addSource parser (fun _ => pure []) name data none) {}).map Assembly.ofLoaded

/-- Bytes at hand are added as they are. -/
theorem assembleSource_bytes (parser : Parser) (name : String) (data : ByteArray) :
    assembleSource parser name data
      = (StateT.run (addSource parser (fun _ => pure []) name data none) {}).map Assembly.ofLoaded :=
  rfl

end UnsafeCensus.Crate
