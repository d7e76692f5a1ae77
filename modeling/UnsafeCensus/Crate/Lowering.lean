/-
**From concrete trees to outlines.**

Every named node of a concrete tree becomes a node of the outline, moved to the place of its file in the
space of offsets. A module without a body gets what is loaded for it as its only part. What is below a node
is lowered before the node itself.

* `Declaration`: a module without a body, as it is handed to the loader;
* `Lowering.run`: the outline of a tree, with a loader for such modules;
* `lower`: the outline of a tree whose modules are not loaded;
* `addTree`: a file added with its tree, which is refused when it holds a fault.
-/

import UnsafeCensus.Crate.Classify
import UnsafeCensus.Crate.PathAttribute
import UnsafeCensus.Files.Path
import UnsafeCensus.Outline.Node
import UnsafeCensus.Source.Map

namespace UnsafeCensus.Crate

open Outline Source Syntax
open Files (Path)

/-- A module without a body. -/
structure Declaration where
  name : String
  /-- Where the files of modules declared here are looked for. -/
  directory : Option Path
  /-- The value of the path attribute above the module. -/
  file : Option String
  deriving DecidableEq, Repr

/-- What a node takes from the nodes around it. -/
structure Position where
  around : Surroundings := {}
  directory : Option Path := none
  /-- The named siblings before the node, the nearest first. -/
  before : List Tree := []

/-- The text of what a node holds as its name. -/
def nameOf (data : ByteArray) (tree : Tree) : String :=
  ((tree.childByField? "name").map (Tree.textOf data)).getD ""

/-- Whether a node is a module without a body. -/
def isBodiless (tree : Tree) : Bool :=
  tree.type == "mod_item" && (tree.childByField? "body").isNone

namespace Position

/-- The position of what stands right below a node; a module adds its name to the directory. -/
def below (position : Position) (data : ByteArray) (tree : Tree) : Position where
  around := position.around.below tree.type
  directory :=
    if tree.type == "mod_item" then
      position.directory.map fun directory => directory.joinText (nameOf data tree)
    else position.directory

/-- The position after one more named sibling. -/
def past (position : Position) (sibling : Tree) : Position :=
  { position with before := sibling :: position.before }

end Position

/-- What a bodiless module declares at a position. -/
def declarationOf (data : ByteArray) (position : Position) (tree : Tree) : Declaration where
  name := nameOf data tree
  directory := position.directory
  file := pathAttribute? data position.before

/-- The outline node of a construct with what was made of the part below it. -/
def outlineNode (data : ByteArray) (base : Int) (around : Surroundings) (tree : Tree)
    (children : List Outline.Node) : Except Failure Outline.Node := do
  let extent ← (← Extent.of tree.head.start tree.head.stop).shifted base
  return .mk (kindOf data around tree) (safetyOf tree) extent tree.type children

/-- The effects of lowering: a state that loading changes, and failures. -/
abbrev Lowering (σ : Type) := StateT σ (Except Failure)

namespace Lowering

variable {σ : Type}

mutual

/-- The outline of a tree. -/
def run (load : Declaration → Lowering σ (List Outline.Node)) (data : ByteArray) (base : Int)
    (position : Position) : Tree → Lowering σ Outline.Node
  | .node head children => do
    let tree : Syntax.Tree := .node head children
    let built ← runAll load data base (position.below data tree) children
    let parts ←
      if isBodiless tree then load (declarationOf data position tree) else pure built
    liftM (outlineNode data base position.around tree parts)

/-- The outlines of the named trees among several. -/
def runAll (load : Declaration → Lowering σ (List Outline.Node)) (data : ByteArray) (base : Int)
    (position : Position) : List Tree → Lowering σ (List Outline.Node)
  | [] => pure []
  | tree :: rest => do
    if tree.head.named then
      let first ← run load data base position tree
      let others ← runAll load data base (position.past tree) rest
      return first :: others
    else runAll load data base position rest

end

end Lowering

/-- The outline of a tree whose modules are not loaded. -/
def lower (data : ByteArray) (base : Int) (tree : Tree) : Except Failure Outline.Node :=
  (Lowering.run (fun _ => pure []) data base {} tree).run' ()

/-- The diagnostic of a file whose tree holds a fault. -/
def syntaxError (file : File) (tree : Tree) : Except Failure Diagnostic := do
  let fault := tree.firstFault?.getD tree.head
  let location ← file.locate (file.start + fault.start)
  let what := if fault.missing then "missing " ++ fault.type else "syntax error"
  return .of .source (what ++ " at " ++ location.text)
    "The source contains syntax errors; fix them before measuring." .parseFailed
    { operation := some "parse"
      file := some file.name
      component := some "rust_frontend"
      facts :=
        [Json.member "line" (.integer location.line),
         Json.member "column" (.integer location.column)] }
    [] none

/-- Refuses a tree that holds a fault. -/
def checkTree (file : File) (tree : Tree) : Except Failure Unit := do
  if tree.hasError then throw (.diagnosed (← syntaxError file tree))

/-- The map after a file more, and the outline of the file's tree, whose modules are not loaded. The
file stays in the map also when it is refused. -/
def addTree (map : Source.Map) (name : String) (data : ByteArray) (tree : Tree) :
    Source.Map × Except Failure Outline.Node :=
  let file := map.nextFile name data
  (map.add name data, do
    checkTree file tree
    lower data file.start tree)

mutual

/-- The value of the path attribute of each module of a tree in order, which has some named siblings
before it. -/
def modulePaths (data : ByteArray) (before : List Tree) : Tree → List (Option String)
  | .node head children =>
    (if head.type == "mod_item" then [pathAttribute? data before] else [])
      ++ modulePathsOf data [] children

/-- The same for several trees in a row. -/
def modulePathsOf (data : ByteArray) (before : List Tree) : List Tree → List (Option String)
  | [] => []
  | tree :: rest =>
    modulePaths data before tree
      ++ modulePathsOf data (if tree.head.named then tree :: before else before) rest

end

end UnsafeCensus.Crate
