/-
**Loading as a machine with frames.**

A machine that loads a crate keeps a frame for each node on the way to the node it is at, and a reading for
each file on the way to the file it is in. A step takes the next named child of a node, asks for the file of a
module, opens a file, or makes the node of an outline out of what its frame gathered. The frame of a module
waits below the reading of its file.

* `Frame`, `Reading`, `Config`: what a machine keeps of a node, of a file and of all of them;
* `advance`, `step`: one step;
* `start`: the machine that is to load a root file;
* `finish`, `meaning`: what a frame and a machine come to by the recursion;
* `meaning_step`: a step changes nothing of what a machine comes to.
-/

import Mathlib
import UnsafeCensus.Proofs.Crate.Depth

namespace UnsafeCensus.Crate

open Files Outline Source Syntax

/-! ### Frames -/

/-- What is kept of a node while its children are lowered. -/
structure Frame where
  site : Site
  /-- Where the files of modules at the node are looked for. -/
  directory : Option Path
  /-- The named children that were taken, the nearest first. -/
  taken : List Syntax.Tree := []
  /-- The named children still to be taken. -/
  pending : List Syntax.Tree
  built : List Node := []
  /-- What was loaded for the node, if it is a module. -/
  part : Option (List Node) := none

namespace Frame

def ofSite (site : Site) (directory : Option Path) : Frame where
  site := site
  directory := directory
  pending := site.node.namedChildren

variable (data : ByteArray) (frame : Frame)

def position : Position where
  around := .ofAbove frame.site.above
  directory := frame.directory
  before := frame.site.before

def inner : Position :=
  { frame.position.below data frame.site.node with before := frame.taken }

def childSite (child : Syntax.Tree) : Site :=
  ⟨frame.site.node :: frame.site.above, frame.taken, child⟩

def child (child : Syntax.Tree) : Frame :=
  ofSite (frame.childSite child) (frame.inner data).directory

def take (child : Syntax.Tree) (rest : List Syntax.Tree) : Frame :=
  { frame with taken := child :: frame.taken, pending := rest }

def gain (node : Node) : Frame :=
  { frame with built := frame.built ++ [node] }

def receive (node : Node) : Frame :=
  { frame with part := some [node] }

/-- The module to be loaded for the node, with the directory it is looked for in. -/
def module? (follows : Bool) : Option (Path × Declaration) :=
  if follows && isBodiless frame.site.node && frame.part.isNone then
    frame.directory.map fun directory =>
      (directory, declarationOf data frame.position frame.site.node)
  else none

/-- The nodes below the node of the outline. -/
def parts : List Node :=
  if isBodiless frame.site.node then frame.part.getD [] else frame.built

def made (base : Int) : Except Failure Node :=
  outlineNode data base frame.position.around frame.site.node frame.parts

end Frame

/-! ### Readings -/

/-- What is kept of a file while its tree is lowered. -/
structure Reading where
  path : Path
  data : ByteArray
  base : Int
  frame : Frame
  /-- The frames of the nodes above it, the nearest first. -/
  frames : List Frame := []
  visited : List Site

namespace Reading

def ofTree (path : Path) (data : ByteArray) (base : Int) (directory : Path)
    (concrete : Syntax.Tree) : Reading where
  path := path
  data := data
  base := base
  frame := .ofSite ⟨[], [], concrete⟩ (some directory)
  visited := [⟨[], [], concrete⟩]

variable (reading : Reading)

def enterChild (child : Syntax.Tree) (rest : List Syntax.Tree) : Reading :=
  { reading with
    frame := reading.frame.child reading.data child
    frames := reading.frame.take child rest :: reading.frames
    visited := reading.visited ++ [reading.frame.childSite child] }

/-- The reading back at a node above. -/
def leaveChild (node : Node) (above : Frame) (rest : List Frame) : Reading :=
  { reading with frame := above.gain node, frames := rest }

def receive (node : Node) : Reading :=
  { reading with frame := reading.frame.receive node }

end Reading

/-! ### The machine -/

/-- A machine that loads a crate. -/
inductive Config where
  /-- A file is to be loaded, whose modules are looked for in a directory, for the readings below. -/
  | calling (loaded : Loaded) (path directory : Path) (below : List Reading)
  | lowering (loaded : Loaded) (reading : Reading) (below : List Reading)
  | ended (loaded : Loaded) (result : Except Failure Node)

/-- A file opened: it is entered, read, added to the files, and its tree is checked. -/
def openFile (parser : Parser) (tree : Files.Tree) (path directory : Path) :
    Lowering Loaded Reading := do
  enter tree path
  let data ← readSource tree path
  let loaded ← get
  let file := loaded.map.nextFile path.text data
  set { loaded with map := loaded.map.add path.text data }
  checkTree file (parser data)
  return .ofTree path data file.start directory (parser data)

/-- What becomes of a node that was made: it goes to the frame above, or to the module of its file. -/
def deliver (loaded : Loaded) (reading : Reading) (below : List Reading) (node : Node) : Config :=
  match reading.frames with
  | above :: rest => .lowering loaded (reading.leaveChild node above rest) below
  | [] =>
    match below with
    | outer :: below => .lowering loaded (outer.receive node) below
    | [] => .ended loaded (.ok node)

/-- A step in the tree of a file. -/
def advance (tree : Files.Tree) (follows : Bool) (loaded : Loaded) (reading : Reading)
    (below : List Reading) : Config :=
  match reading.frame.pending with
  | child :: rest => .lowering loaded (reading.enterChild child rest) below
  | [] =>
    match reading.frame.module? reading.data follows with
    | some (directory, declaration) =>
      match moduleFile tree reading.path directory declaration with
      | .ok path => .calling loaded path (moduleDirectory path) (reading :: below)
      | .error failure => .ended loaded (.error failure)
    | none =>
      match reading.frame.made reading.data reading.base with
      | .ok node => deliver loaded reading below node
      | .error failure => .ended loaded (.error failure)

def step (parser : Parser) (tree : Files.Tree) (follows : Bool) : Config → Config
  | .calling loaded path directory below =>
    match StateT.run (openFile parser tree path directory) loaded with
    | .ok (reading, loaded) => .lowering loaded reading below
    | .error failure => .ended loaded (.error failure)
  | .lowering loaded reading below => advance tree follows loaded reading below
  | .ended loaded result => .ended loaded result

def start (root : Path) : Config :=
  .calling {} root root.parent []

/-! ### What a step does -/

/-- What one step does to a machine that has not ended. -/
inductive Moves (parser : Parser) (tree : Files.Tree) (follows : Bool) : Config → Config → Prop where
  | opened {loaded last : Loaded} {path directory : Path} {below : List Reading} {reading : Reading}
      (done : StateT.run (openFile parser tree path directory) loaded = .ok (reading, last)) :
      Moves parser tree follows (.calling loaded path directory below) (.lowering last reading below)
  | refused {loaded : Loaded} {path directory : Path} {below : List Reading} {failure : Failure}
      (failed : StateT.run (openFile parser tree path directory) loaded = .error failure) :
      Moves parser tree follows (.calling loaded path directory below) (.ended loaded (.error failure))
  | entered {loaded : Loaded} {reading : Reading} {below : List Reading} {child : Syntax.Tree}
      {rest : List Syntax.Tree} (next : reading.frame.pending = child :: rest) :
      Moves parser tree follows (.lowering loaded reading below)
        (.lowering loaded (reading.enterChild child rest) below)
  | called {loaded : Loaded} {reading : Reading} {below : List Reading} {directory path : Path}
      {declaration : Declaration} (last : reading.frame.pending = [])
      (asked : reading.frame.module? reading.data follows = some (directory, declaration))
      (found : moduleFile tree reading.path directory declaration = .ok path) :
      Moves parser tree follows (.lowering loaded reading below)
        (.calling loaded path (moduleDirectory path) (reading :: below))
  | lost {loaded : Loaded} {reading : Reading} {below : List Reading} {directory : Path}
      {declaration : Declaration} {failure : Failure} (last : reading.frame.pending = [])
      (asked : reading.frame.module? reading.data follows = some (directory, declaration))
      (failed : moduleFile tree reading.path directory declaration = .error failure) :
      Moves parser tree follows (.lowering loaded reading below) (.ended loaded (.error failure))
  | returned {loaded : Loaded} {reading : Reading} {below : List Reading} {node : Node}
      {above : Frame} {rest : List Frame} (last : reading.frame.pending = [])
      (skipped : reading.frame.module? reading.data follows = none)
      (made : reading.frame.made reading.data reading.base = .ok node)
      (frames : reading.frames = above :: rest) :
      Moves parser tree follows (.lowering loaded reading below)
        (.lowering loaded (reading.leaveChild node above rest) below)
  | received {loaded : Loaded} {reading outer : Reading} {below : List Reading} {node : Node}
      (last : reading.frame.pending = [])
      (skipped : reading.frame.module? reading.data follows = none)
      (made : reading.frame.made reading.data reading.base = .ok node) (frames : reading.frames = []) :
      Moves parser tree follows (.lowering loaded reading (outer :: below))
        (.lowering loaded (outer.receive node) below)
  | finished {loaded : Loaded} {reading : Reading} {node : Node} (last : reading.frame.pending = [])
      (skipped : reading.frame.module? reading.data follows = none)
      (made : reading.frame.made reading.data reading.base = .ok node) (frames : reading.frames = []) :
      Moves parser tree follows (.lowering loaded reading []) (.ended loaded (.ok node))
  | broken {loaded : Loaded} {reading : Reading} {below : List Reading} {failure : Failure}
      (last : reading.frame.pending = [])
      (skipped : reading.frame.module? reading.data follows = none)
      (failed : reading.frame.made reading.data reading.base = .error failure) :
      Moves parser tree follows (.lowering loaded reading below) (.ended loaded (.error failure))

theorem moves_advance (parser : Parser) (tree : Files.Tree) (follows : Bool) (loaded : Loaded)
    (reading : Reading) (below : List Reading) :
    Moves parser tree follows (.lowering loaded reading below)
      (advance tree follows loaded reading below) := by
  unfold advance
  split
  · exact .entered ‹_›
  · split
    · split
      · exact .called ‹_› ‹_› ‹_›
      · exact .lost ‹_› ‹_› ‹_›
    · split
      · unfold deliver
        split
        · exact .returned ‹_› ‹_› ‹_› ‹_›
        · cases below with
          | cons outer rest => exact .received ‹_› ‹_› ‹_› ‹_›
          | nil => exact .finished ‹_› ‹_› ‹_› ‹_›
      · exact .broken ‹_› ‹_› ‹_›

inductive Config.Ended : Config → Prop where
  | intro (loaded : Loaded) (result : Except Failure Node) : Ended (.ended loaded result)

theorem moves_step (parser : Parser) (tree : Files.Tree) (follows : Bool) {config : Config}
    (running : ¬ config.Ended) : Moves parser tree follows config (step parser tree follows config) := by
  cases config with
  | calling loaded path directory below =>
    rw [step]
    split
    · exact .opened ‹_›
    · exact .refused ‹_›
  | lowering loaded reading below => exact moves_advance parser tree follows loaded reading below
  | ended loaded result => exact absurd (.intro loaded result) running

/-! ### What a machine comes to -/

section Meaning

variable {σ : Type} (load : Declaration → Lowering σ (List Node)) (data : ByteArray) (base : Int)

def runEach (position : Position) : List Syntax.Tree → Lowering σ (List Node)
  | [] => pure []
  | tree :: rest => do
    let first ← Lowering.run load data base position tree
    let others ← runEach (position.past tree) rest
    return first :: others

/-- Of several trees the named ones are lowered. -/
theorem runAll_eq_runEach (position : Position) (trees : List Syntax.Tree) :
    Lowering.runAll load data base position trees
      = runEach load data base position (trees.filter fun tree => tree.head.named) := by
  induction trees generalizing position with
  | nil => rw [Lowering.runAll, List.filter_nil, runEach]
  | cons tree rest hypothesis =>
    rw [Lowering.runAll]
    by_cases named : tree.head.named = true
    · rw [if_pos named, List.filter_cons, if_pos named, runEach, hypothesis]
    · rw [if_neg named, List.filter_cons, if_neg named, hypothesis]

/-- What a frame comes to. -/
def Frame.finish (frame : Frame) : Lowering σ Node := do
  let others ← runEach load data base (frame.inner data) frame.pending
  let parts ←
    if isBodiless frame.site.node then
      match frame.part with
      | some part => pure part
      | none => load (declarationOf data frame.position frame.site.node)
    else pure (frame.built ++ others)
  liftM (outlineNode data base frame.position.around frame.site.node parts)

/-- Lowering a site is finishing its frame. -/
theorem run_eq_finish (site : Site) (directory : Option Path) :
    Lowering.run load data base (Frame.ofSite site directory).position site.node
      = (Frame.ofSite site directory).finish load data base := by
  obtain ⟨above, before, ⟨head, children⟩⟩ := site
  rw [Lowering.run, Frame.finish, runAll_eq_runEach]
  rfl

/-- What the frames above a node come to once the node is made. -/
def finishAbove : List Frame → Node → Lowering σ Node
  | [], node => pure node
  | above :: rest, node => do
    let node ← (above.gain node).finish load data base
    finishAbove rest node

/-- A frame is finished by finishing the next child first. -/
theorem Frame.finish_of_pending {frame : Frame} {child : Syntax.Tree} {rest : List Syntax.Tree}
    (next : frame.pending = child :: rest) :
    frame.finish load data base
      = (frame.child data child).finish load data base >>= fun node =>
          ((frame.take child rest).gain node).finish load data base := by
  have single := run_eq_finish load data base (frame.childSite child) (frame.inner data).directory
  have here : (Frame.ofSite (frame.childSite child) (frame.inner data).directory).position
      = frame.inner data := rfl
  rw [here] at single
  rw [Frame.finish, next, runEach, Frame.child, ← single]
  simp only [bind_assoc, pure_bind]
  refine bind_congr fun node => ?_
  rw [Frame.finish]
  refine bind_congr fun others => ?_
  have built : (frame.take child rest).built ++ [node] ++ others = frame.built ++ (node :: others) :=
    List.append_assoc _ _ _
  rw [← built]
  rfl

/-- A frame that has nothing to wait for comes to the node of its parts. -/
theorem Frame.finish_of_parts {frame : Frame} (last : frame.pending = [])
    (arrived : isBodiless frame.site.node = true → frame.part = none →
      load (declarationOf data frame.position frame.site.node) = pure []) :
    frame.finish load data base = liftM (frame.made data base) := by
  rw [Frame.finish, last, runEach, pure_bind, Frame.made, Frame.parts]
  by_cases bodiless : isBodiless frame.site.node = true
  · rw [if_pos bodiless, if_pos bodiless]
    cases known : frame.part with
    | none => rw [arrived bodiless known]; rfl
    | some part => rfl
  · rw [if_neg bodiless, if_neg bodiless, List.append_nil]
    rfl

/-- A module is finished with what is loaded for it. -/
theorem Frame.finish_of_module {frame : Frame} (last : frame.pending = [])
    (bodiless : isBodiless frame.site.node = true) (waiting : frame.part = none) :
    frame.finish load data base
      = load (declarationOf data frame.position frame.site.node) >>= fun part =>
          ({ frame with part := some part } : Frame).finish load data base := by
  obtain ⟨site, directory, taken, pending, built, part⟩ := frame
  obtain rfl : pending = [] := last
  obtain rfl : part = none := waiting
  replace bodiless : isBodiless site.node = true := bodiless
  simp only [Frame.finish, runEach, pure_bind, bodiless, if_true]
  rfl

end Meaning

variable (parser : Parser) (tree : Files.Tree) (follows : Bool)

/-- What is loaded for a module of a file that is read, with levels that are enough. -/
def Reading.load (reading : Reading) : Declaration → Lowering Loaded (List Node) :=
  loadModule parser tree follows (tree.entries.length + 1) reading.path

/-- What the reading of a file comes to. -/
def Reading.finish (reading : Reading) : Lowering Loaded Node := do
  let node ← reading.frame.finish (reading.load parser tree follows) reading.data reading.base
  finishAbove (reading.load parser tree follows) reading.data reading.base reading.frames node

/-- What the readings below a file come to once the outline of the file is made. -/
def finishBelow : List Reading → Node → Lowering Loaded Node
  | [], node => pure node
  | outer :: rest, node => do
    let node ← (outer.receive node).finish parser tree follows
    finishBelow rest node

/-- What a machine comes to. -/
def Config.meaning : Config → Except Failure (Node × Loaded)
  | .calling loaded path directory below =>
    StateT.run
      (loadFile parser tree follows (tree.entries.length + 1) path directory
        >>= finishBelow parser tree follows below) loaded
  | .lowering loaded reading below =>
    StateT.run (reading.finish parser tree follows >>= finishBelow parser tree follows below) loaded
  | .ended loaded result => result.map fun node => (node, loaded)

variable {parser tree follows} {path directory : Path}

/-- **Loading a file** is opening it and finishing its reading. -/
theorem loadFile_eq_openFile (regular : path.Regular) (regularDirectory : directory.Regular) :
    loadFile parser tree follows (tree.entries.length + 1) path directory
      = openFile parser tree path directory >>= fun reading =>
          reading.finish parser tree follows := by
  -- Unfolding takes one level away; with one level more there are enough left for the modules.
  have deeper : loadFile parser tree follows (tree.entries.length + 2) path directory
      = loadFile parser tree follows (tree.entries.length + 1) path directory :=
    loadFile_eq_of_le (Nat.lt_succ_of_lt (Nat.lt_succ_self _)) regular regularDirectory
  rw [← deeper, loadFile_succ, openFile]
  simp only [addSource, bind_assoc, pure_bind]
  refine bind_congr fun _ => bind_congr fun data => bind_congr fun loaded => bind_congr fun _ =>
    bind_congr fun _ => ?_
  exact (run_eq_finish _ data _ ⟨[], [], parser data⟩ (some directory)).trans (bind_pure _).symm

/-- A module is asked for when it is followed, nothing was loaded for it, and it has a directory. -/
theorem Frame.module?_eq_some {data : ByteArray} {frame : Frame} {declaration : Declaration}
    (asked : frame.module? data follows = some (directory, declaration)) :
    follows = true ∧ isBodiless frame.site.node = true ∧ frame.part = none
      ∧ frame.directory = some directory
      ∧ declaration = declarationOf data frame.position frame.site.node := by
  rw [module?, Option.ite_none_right_eq_some, Bool.and_eq_true, Bool.and_eq_true,
    Option.isNone_iff_eq_none, Option.map_eq_some_iff] at asked
  obtain ⟨⟨⟨follows, bodiless⟩, waiting⟩, place, known, same⟩ := asked
  obtain ⟨rfl, rfl⟩ := Prod.mk.inj same
  exact ⟨follows, bodiless, waiting, known, rfl⟩

/-- Nothing is loaded for a module that is not asked for. -/
theorem Reading.load_of_module?_eq_none {reading : Reading}
    (skipped : reading.frame.module? reading.data follows = none)
    (bodiless : isBodiless reading.frame.site.node = true) (waiting : reading.frame.part = none) :
    reading.load parser tree follows
        (declarationOf reading.data reading.frame.position reading.frame.site.node) = pure [] := by
  rw [Frame.module?, bodiless, waiting] at skipped
  rw [load, loadModule]
  cases follows with
  | false => rfl
  | true =>
    have nowhere : (declarationOf reading.data reading.frame.position
        reading.frame.site.node).directory = none := Option.map_eq_none_iff.mp skipped
    rw [if_pos rfl, nowhere]

/-- The file of a module that is followed is loaded for it. -/
theorem Reading.load_of_directory {reading : Reading} (known : reading.frame.directory = some directory) :
    reading.load parser tree true
        (declarationOf reading.data reading.frame.position reading.frame.site.node)
      = liftM (moduleFile tree reading.path directory
            (declarationOf reading.data reading.frame.position reading.frame.site.node))
          >>= fun path => loadFile parser tree true (tree.entries.length + 1) path (moduleDirectory path)
          >>= fun node => pure [node] := by
  rw [load, loadModule, if_pos rfl]
  have looked : (declarationOf reading.data reading.frame.position reading.frame.site.node).directory
      = some directory := known
  rw [looked]

theorem Reading.finish_eq (reading : Reading) :
    reading.finish parser tree follows
      = reading.frame.finish (reading.load parser tree follows) reading.data reading.base
        >>= finishAbove (reading.load parser tree follows) reading.data reading.base reading.frames :=
  rfl

theorem Reading.finish_enterChild (reading : Reading) (child : Syntax.Tree)
    (rest : List Syntax.Tree) :
    (reading.enterChild child rest).finish parser tree follows
      = (reading.frame.child reading.data child).finish (reading.load parser tree follows) reading.data
          reading.base
        >>= finishAbove (reading.load parser tree follows) reading.data reading.base
          (reading.frame.take child rest :: reading.frames) :=
  rfl

theorem Reading.finish_leaveChild (reading : Reading) (node : Node) (above : Frame)
    (rest : List Frame) :
    (reading.leaveChild node above rest).finish parser tree follows
      = (above.gain node).finish (reading.load parser tree follows) reading.data reading.base
        >>= finishAbove (reading.load parser tree follows) reading.data reading.base rest :=
  rfl

theorem Reading.finish_receive (reading : Reading) (node : Node) :
    (reading.receive node).finish parser tree follows
      = (reading.frame.receive node).finish (reading.load parser tree follows) reading.data
          reading.base
        >>= finishAbove (reading.load parser tree follows) reading.data reading.base reading.frames :=
  rfl

/-- Once a node is made, the frames and the readings around it are left. -/
theorem meaning_of_made {loaded : Loaded} {reading : Reading} {below : List Reading} {node : Node}
    (last : reading.frame.pending = [])
    (skipped : reading.frame.module? reading.data follows = none)
    (made : reading.frame.made reading.data reading.base = .ok node) :
    (Config.lowering loaded reading below).meaning parser tree follows
      = StateT.run
          (finishAbove (reading.load parser tree follows) reading.data reading.base reading.frames node
            >>= finishBelow parser tree follows below) loaded := by
  rw [Config.meaning, Reading.finish_eq,
    Frame.finish_of_parts _ _ _ last (Reading.load_of_module?_eq_none skipped), made]
  rfl

/-- Nothing is looked for outside regular paths. -/
def Config.Called : Config → Prop
  | .calling _ path directory _ => path.Regular ∧ directory.Regular
  | _ => True

/-- **A step changes nothing of what a machine comes to.** -/
theorem meaning_of_moves {config next : Config} (moves : Moves parser tree follows config next)
    (regular : config.Called) : next.meaning parser tree follows = config.meaning parser tree follows := by
  cases moves with
  | opened done =>
    rw [Config.meaning, Config.meaning, loadFile_eq_openFile regular.1 regular.2, bind_assoc]
    symm
    rw [StateT.run_bind, done]
    rfl
  | refused failed =>
    rw [Config.meaning, Config.meaning, loadFile_eq_openFile regular.1 regular.2, bind_assoc,
      StateT.run_bind, failed]
    rfl
  | entered next =>
    rw [Config.meaning, Config.meaning, Reading.finish_enterChild, Reading.finish_eq,
      Frame.finish_of_pending _ _ _ next, bind_assoc, bind_assoc, bind_assoc]
    refine congrArg (fun action => StateT.run action _) (bind_congr fun node => ?_)
    rw [finishAbove, bind_assoc]
  | called last asked found =>
    obtain ⟨rfl, bodiless, waiting, known, rfl⟩ := Frame.module?_eq_some asked
    rw [Config.meaning, Config.meaning, Reading.finish_eq,
      Frame.finish_of_module _ _ _ last bodiless waiting, Reading.load_of_directory known, found]
    show _ = StateT.run (((pure _ >>= _) >>= _ >>= _) >>= _) _
    simp only [bind_assoc, pure_bind]
    refine congrArg (fun action => StateT.run action _) (bind_congr fun node => ?_)
    rw [finishBelow, Reading.finish_receive, bind_assoc]
    rfl
  | lost last asked failed =>
    obtain ⟨rfl, bodiless, waiting, known, rfl⟩ := Frame.module?_eq_some asked
    rw [Config.meaning, Config.meaning, Reading.finish_eq,
      Frame.finish_of_module _ _ _ last bodiless waiting, Reading.load_of_directory known, failed]
    rfl
  | returned last skipped made frames =>
    rw [meaning_of_made last skipped made, frames, Config.meaning, Reading.finish_leaveChild,
      finishAbove]
  | received last skipped made frames =>
    rw [meaning_of_made last skipped made, frames, Config.meaning, finishAbove, pure_bind, finishBelow]
  | finished last skipped made frames =>
    rw [meaning_of_made last skipped made, frames, Config.meaning, finishAbove, pure_bind, finishBelow]
    rfl
  | broken last skipped failed =>
    rw [Config.meaning, Config.meaning, Reading.finish_eq,
      Frame.finish_of_parts _ _ _ last (Reading.load_of_module?_eq_none skipped), failed]
    rfl

end UnsafeCensus.Crate
