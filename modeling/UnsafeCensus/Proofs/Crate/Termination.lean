/-
**Loading a crate ends.**

A machine that loads a crate always ends, whatever the files are and however they become trees: each step
leaves fewer places that are not loaded, or as many and less to be done in the trees that are lowered. No place
is loaded twice, and beyond the root only files are. The tree of a file is left when each node that its named
children lead to was visited once. Only modules that cannot be loaded and nodes without a range stop a machine
before.

* `Frame.remaining`, `Reading.remaining`: the sites still to be visited;
* `Sound`, `sound_of_moves`: what holds of each machine of a run, by one step;
* `weight`, `moves_decreases`: what each step makes smaller;
* `exists_ended`: each run ends;
* `Holds`, `closes_of_moves`: a tree that is lowered stays so until all of its sites were visited;
* `loading_ends`: how a run ends, what it loads, and what it visits.
-/

import Mathlib
import UnsafeCensus.Proofs.Crate.Frames

namespace UnsafeCensus.Syntax

/-- The sites of trees that stand one after the other. -/
def sitesEach (above before : List Tree) : List Tree → List Site
  | [] => []
  | tree :: rest => sitesFrom allOpen above before tree ++ sitesEach above (tree :: before) rest

/-- Of several trees the named ones are visited. -/
theorem sitesBelow_eq_sitesEach (above before trees : List Tree) :
    sitesBelow allOpen above before trees
      = sitesEach above before (trees.filter fun tree => tree.head.named) := by
  induction trees generalizing before with
  | nil => rfl
  | cons tree rest hypothesis =>
    rw [sitesBelow]
    by_cases named : tree.head.named = true
    · rw [if_pos named, List.filter_cons, if_pos named, sitesEach, hypothesis]
    · rw [if_neg named, List.filter_cons, if_neg named, hypothesis]

/-- The sites of a tree are its top and those of its named children. -/
theorem sitesFrom_eq_cons (above before : List Tree) (tree : Tree) :
    sitesFrom allOpen above before tree
      = ⟨above, before, tree⟩ :: sitesEach (tree :: above) [] tree.namedChildren := by
  cases tree with
  | node head children => rw [sitesFrom_allOpen, sitesBelow_eq_sitesEach, Tree.namedChildren, Tree.children]

end UnsafeCensus.Syntax

namespace UnsafeCensus.Crate

open Files Outline Source Syntax

/-! ### Sites still to be visited -/

def Frame.remaining (frame : Frame) : List Site :=
  sitesEach (frame.site.node :: frame.site.above) frame.taken frame.pending

def Reading.remaining (reading : Reading) : List Site :=
  reading.frame.remaining ++ reading.frames.flatMap Frame.remaining

theorem Frame.remaining_of_pending {frame : Frame} {child : Syntax.Tree} {rest : List Syntax.Tree}
    (data : ByteArray) (next : frame.pending = child :: rest) :
    frame.remaining = frame.childSite child
      :: ((frame.child data child).remaining ++ (frame.take child rest).remaining) := by
  rw [remaining, next, sitesEach, sitesFrom_eq_cons]
  rfl

theorem Frame.remaining_of_last {frame : Frame} (last : frame.pending = []) : frame.remaining = [] := by
  rw [remaining, last, sitesEach]

/-! ### What holds of each machine -/

variable {parser : Parser} {tree : Files.Tree} {follows : Bool} {root : Path}

/-- Whatever was loaded, at distinct places, is the root or a file. -/
structure Loaded.Sound (tree : Files.Tree) (root : Path) (loaded : Loaded) : Prop where
  distinct : loaded.places.Nodup
  files : ∀ place ∈ loaded.places, place = root.absolute tree.working ∨ place ∈ tree.filePlaces
  mapped : ∃ files, loaded.map = Map.ofFiles files

/-- No more is loaded than there are files, and the root. -/
theorem Loaded.Sound.length_le {loaded : Loaded} (sound : loaded.Sound tree root) :
    loaded.places.length ≤ (insert (root.absolute tree.working) tree.filePlaces).card := by
  rw [← List.toFinset_card_of_nodup sound.distinct]
  exact Finset.card_le_card fun place member =>
    Finset.mem_insert.mpr (sound.files place (List.mem_toFinset.mp member))

/-- The sites of a tree are visited in order, and modules are looked for at regular paths. -/
structure Reading.Sound (parser : Parser) (reading : Reading) : Prop where
  regular : reading.path.Regular
  directories : ∀ frame ∈ reading.frame :: reading.frames, frame.position.Regular
  based : 0 ≤ reading.base
  visits : reading.visited ++ reading.remaining = (parser reading.data).sites

namespace Config

def loaded : Config → Loaded
  | calling loaded _ _ _ => loaded
  | lowering loaded _ _ => loaded
  | ended loaded _ => loaded

/-- The files whose trees are lowered, the last one first. -/
def readings : Config → List Reading
  | calling _ _ _ below => below
  | lowering _ reading below => reading :: below
  | ended _ _ => []

/-- What is to be loaded is the root, or a file. -/
def Beyond (tree : Files.Tree) (root : Path) : Config → Prop
  | calling _ path _ below =>
    (path = root ∧ below = []) ∨ path.absolute tree.working ∈ tree.filePlaces
  | _ => True

structure Sound (parser : Parser) (tree : Files.Tree) (root : Path) (config : Config) : Prop where
  called : config.Called
  beyond : config.Beyond tree root
  loaded : config.loaded.Sound tree root
  readings : ∀ reading ∈ config.readings, reading.Sound parser

end Config

/-- A file is opened at a new place that can be read. -/
theorem openFile_eq_ok {path directory : Path} {loaded last : Loaded} {reading : Reading}
    (regular : path.Regular)
    (done : StateT.run (openFile parser tree path directory) loaded = .ok (reading, last)) :
    ∃ data, path.absolute tree.working ∈ tree.readPlaces
      ∧ path.absolute tree.working ∉ loaded.places
      ∧ last = ⟨loaded.map.add path.text data, path.absolute tree.working :: loaded.places⟩
      ∧ reading = .ofTree path data loaded.map.nextStart directory (parser data) := by
  rw [openFile] at done
  obtain ⟨_, entered, done⟩ := run_bind_eq_ok_iff.mp done
  obtain ⟨_, fresh, rfl⟩ := run_enter_eq_ok_iff.mp entered
  obtain ⟨⟨data, _⟩, reads, done⟩ := run_bind_eq_ok_iff.mp done
  obtain ⟨read, rfl⟩ := run_liftM_eq_ok_iff.mp reads
  obtain ⟨_, got, done⟩ := run_bind_eq_ok_iff.mp done
  cases got
  obtain ⟨_, put, done⟩ := run_bind_eq_ok_iff.mp done
  cases put
  obtain ⟨⟨_, _⟩, checked, done⟩ := run_bind_eq_ok_iff.mp done
  obtain ⟨_, rfl⟩ := run_liftM_eq_ok_iff.mp checked
  cases done
  exact ⟨data, Files.Tree.mem_readPlaces_of_read regular (readSource_eq_ok_iff.mp read).1, fresh, rfl,
    rfl⟩

theorem Loaded.Sound.add {path : Path} {loaded : Loaded} {data : ByteArray}
    (sound : loaded.Sound tree root) (fresh : path.absolute tree.working ∉ loaded.places)
    (beyond : path = root ∨ path.absolute tree.working ∈ tree.filePlaces) :
    Loaded.Sound tree root
      ⟨loaded.map.add path.text data, path.absolute tree.working :: loaded.places⟩ where
  distinct := List.nodup_cons.mpr ⟨fresh, sound.distinct⟩
  files := List.forall_mem_cons.mpr
    ⟨beyond.imp_left (congrArg (Path.absolute tree.working)), sound.files⟩
  mapped := by
    obtain ⟨files, known⟩ := sound.mapped
    exact ⟨files ++ [(path.text, data)], by rw [known, Map.ofFiles_concat]⟩

namespace Reading.Sound

theorem ofTree {path directory : Path} {base : Int} (regular : path.Regular)
    (regularDirectory : directory.Regular) (based : 0 ≤ base) (data : ByteArray) :
    (Reading.ofTree path data base directory (parser data)).Sound parser where
  regular := regular
  directories := List.forall_mem_singleton.mpr (Position.Regular.some regularDirectory)
  based := based
  visits := by
    rw [Syntax.Tree.sites, sitesFrom_eq_cons]
    exact congrArg (List.cons _) (List.append_nil _)

variable {reading : Reading}

theorem enterChild (sound : reading.Sound parser) {child : Syntax.Tree} {rest : List Syntax.Tree}
    (next : reading.frame.pending = child :: rest) :
    (reading.enterChild child rest).Sound parser where
  regular := sound.regular
  directories := by
    obtain ⟨here, above⟩ := List.forall_mem_cons.mp sound.directories
    refine List.forall_mem_cons.mpr ⟨?_, List.forall_mem_cons.mpr ⟨here, above⟩⟩
    exact Position.Regular.below here reading.data reading.frame.site.node
  based := sound.based
  visits := by
    have visits := sound.visits
    rw [Reading.remaining, Frame.remaining_of_pending reading.data next] at visits
    refine Eq.trans ?_ visits
    simp [Reading.enterChild, Reading.remaining]

theorem leaveChild (sound : reading.Sound parser) {above : Frame} {rest : List Frame}
    (last : reading.frame.pending = []) (frames : reading.frames = above :: rest) (node : Node) :
    (reading.leaveChild node above rest).Sound parser where
  regular := sound.regular
  directories := by
    have directories := sound.directories
    rw [frames] at directories
    exact List.forall_mem_cons.mpr
      (List.forall_mem_cons.mp (List.forall_mem_cons.mp directories).2)
  based := sound.based
  visits := by
    have visits := sound.visits
    rw [Reading.remaining, Frame.remaining_of_last last, frames, List.nil_append] at visits
    exact visits

theorem receive (sound : reading.Sound parser) (node : Node) :
    (reading.receive node).Sound parser where
  regular := sound.regular
  directories := List.forall_mem_cons.mpr (List.forall_mem_cons.mp sound.directories)
  based := sound.based
  visits := sound.visits

end Reading.Sound

theorem Config.Sound.ended {loaded : Loaded} {result : Except Failure Node}
    (sound : loaded.Sound tree root) : (Config.ended loaded result).Sound parser tree root where
  called := trivial
  beyond := trivial
  loaded := sound
  readings := fun _ member => absurd member List.not_mem_nil

/-- **What holds of each machine of a run** holds after one more step. -/
theorem sound_of_moves {config next : Config} (moves : Moves parser tree follows config next)
    (sound : config.Sound parser tree root) : next.Sound parser tree root := by
  cases moves with
  | opened done =>
    obtain ⟨data, _, fresh, rfl, rfl⟩ := openFile_eq_ok sound.called.1 done
    obtain ⟨files, known⟩ := sound.loaded.mapped
    refine ⟨trivial, trivial, sound.loaded.add fresh (sound.beyond.imp_left And.left),
      List.forall_mem_cons.mpr ⟨?_, sound.readings⟩⟩
    refine .ofTree sound.called.1 sound.called.2 ?_ data
    have start : (Map.ofFiles files).nextStart = span files := Map.nextStart_ofFiles files
    simp only [Config.loaded] at known
    rw [known, start]
    exact Int.natCast_nonneg _
  | refused failed => exact .ended sound.loaded
  | entered next =>
    obtain ⟨top, below⟩ := List.forall_mem_cons.mp sound.readings
    exact ⟨trivial, trivial, sound.loaded, List.forall_mem_cons.mpr ⟨top.enterChild next, below⟩⟩
  | @called _ reading _ directory path declaration last asked found =>
    obtain ⟨top, below⟩ := List.forall_mem_cons.mp sound.readings
    obtain ⟨_, _, _, known, rfl⟩ := Frame.module?_eq_some asked
    -- The path to be loaded comes from the directory of the node, or from its attribute.
    have looked : ∀ place ∈ (declarationOf reading.data reading.frame.position
        reading.frame.site.node).directory, place.Regular :=
      top.directories reading.frame List.mem_cons_self
    have leads := (leads_iff.mp ⟨directory, known, found⟩).1
    have regular : path.Regular := leads.regular top.regular looked
    exact ⟨⟨regular, regular_moduleDirectory regular⟩, Or.inr (leads.mem_filePlaces regular), sound.loaded,
      sound.readings⟩
  | lost last asked failed => exact .ended sound.loaded
  | returned last skipped made frames =>
    obtain ⟨top, below⟩ := List.forall_mem_cons.mp sound.readings
    exact ⟨trivial, trivial, sound.loaded,
      List.forall_mem_cons.mpr ⟨top.leaveChild last frames _, below⟩⟩
  | received last skipped made frames =>
    obtain ⟨_, below⟩ := List.forall_mem_cons.mp sound.readings
    obtain ⟨outer, below⟩ := List.forall_mem_cons.mp below
    exact ⟨trivial, trivial, sound.loaded, List.forall_mem_cons.mpr ⟨outer.receive _, below⟩⟩
  | finished last skipped made frames => exact .ended sound.loaded
  | broken last skipped failed => exact .ended sound.loaded

theorem sound_step {config : Config} (sound : config.Sound parser tree root) :
    (step parser tree follows config).Sound parser tree root := by
  by_cases ended : config.Ended
  · cases ended
    exact sound
  · exact sound_of_moves (moves_step parser tree follows ended) sound

/-! ### What each step makes smaller -/

/-- What is still to be done at a node: each site below it counts for taking it, asking for its file and making
its node, and the node itself for what is left of these. -/
def Frame.weight (frame : Frame) : Nat :=
  4 * frame.remaining.length + if frame.part.isNone then 3 else 1

/-- What is still to be done at a module once its file is asked for. -/
def Frame.waiting (frame : Frame) : Nat :=
  4 * frame.remaining.length + 1

def Reading.weight (reading : Reading) : Nat :=
  reading.frame.weight + (reading.frames.map Frame.weight).sum

/-- What is still to be done in a file once the file of one of its modules is asked for. -/
def Reading.waiting (reading : Reading) : Nat :=
  reading.frame.waiting + (reading.frames.map Frame.weight).sum

namespace Config

/-- What is still to be done in all files that are open. -/
def weight : Config → Nat
  | calling _ _ _ below => (below.map Reading.waiting).sum + 1
  | lowering _ reading below => reading.weight + (below.map Reading.waiting).sum
  | ended _ _ => 0

/-- How many places are not loaded, and what is still to be done in the files that are open. -/
def measure (tree : Files.Tree) (config : Config) : Nat × Nat :=
  (unloaded tree config.loaded.places, config.weight)

end Config

theorem Frame.weight_pos (frame : Frame) : 0 < frame.weight := by
  rw [weight]
  split <;> omega

theorem Reading.weight_pos (reading : Reading) : 0 < reading.weight :=
  Nat.add_pos_left reading.frame.weight_pos _

theorem Reading.weight_enterChild_lt {reading : Reading} {child : Syntax.Tree}
    {rest : List Syntax.Tree} (next : reading.frame.pending = child :: rest) :
    (reading.enterChild child rest).weight < reading.weight := by
  have sites := congrArg List.length (Frame.remaining_of_pending reading.data next)
  rw [List.length_cons, List.length_append] at sites
  have fresh : (reading.frame.child reading.data child).part.isNone = true := rfl
  have same : (reading.frame.take child rest).part = reading.frame.part := rfl
  simp only [Reading.weight, Reading.enterChild, List.map_cons, List.sum_cons, Frame.weight, sites,
    fresh, same, if_true]
  omega

theorem Reading.waiting_add_one_lt {reading : Reading} (asked : reading.frame.part = none) :
    reading.waiting + 1 < reading.weight := by
  rw [waiting, weight, Frame.waiting, Frame.weight, asked, Option.isNone_none, if_pos rfl]
  omega

theorem Reading.weight_leaveChild_lt {reading : Reading} {above : Frame} {rest : List Frame}
    (frames : reading.frames = above :: rest) (node : Node) :
    (reading.leaveChild node above rest).weight < reading.weight := by
  have pos := reading.frame.weight_pos
  have same : (reading.leaveChild node above rest).weight
      = above.weight + (rest.map Frame.weight).sum := rfl
  rw [same, weight, frames, List.map_cons, List.sum_cons]
  omega

theorem Reading.weight_receive (reading : Reading) (node : Node) :
    (reading.receive node).weight = reading.waiting :=
  rfl

/-- **Each step** leaves fewer places that are not loaded, or as many and less to be done. -/
theorem moves_decreases {config next : Config} (moves : Moves parser tree follows config next)
    (sound : config.Sound parser tree root) :
    Prod.Lex (· < ·) (· < ·) (next.measure tree) (config.measure tree) := by
  cases moves with
  -- Only here the number of places decreases; the new tree may be of any size.
  | opened done =>
    obtain ⟨data, there, fresh, rfl, rfl⟩ := openFile_eq_ok sound.called.1 done
    exact .left _ _ (unloaded_cons_lt there fresh)
  | refused failed => exact .right _ (Nat.succ_pos _)
  | entered next => exact .right _ (Nat.add_lt_add_right (Reading.weight_enterChild_lt next) _)
  | called last asked found =>
    obtain ⟨_, _, waiting, _, _⟩ := Frame.module?_eq_some asked
    have less := Reading.waiting_add_one_lt waiting
    refine .right _ ?_
    rw [Config.weight, Config.weight, List.map_cons, List.sum_cons]
    omega
  | returned last skipped made frames =>
    exact .right _ (Nat.add_lt_add_right (Reading.weight_leaveChild_lt frames _) _)
  | @received _ reading outer below node last skipped made frames =>
    have pos := reading.weight_pos
    refine .right _ ?_
    rw [Config.weight, Config.weight, List.map_cons, List.sum_cons, Reading.weight_receive]
    omega
  | lost | finished | broken => exact .right _ (Nat.add_pos_left (Reading.weight_pos _) _)

/-- **Each run ends.** -/
theorem exists_ended {config : Config} (sound : config.Sound parser tree root) :
    ∃ count, ((step parser tree follows)^[count] config).Ended := by
  have wellFounded : WellFounded (Prod.Lex (· < ·) (· < ·) : Nat × Nat → Nat × Nat → Prop) :=
    WellFounded.prod_lex wellFounded_lt wellFounded_lt
  -- A machine that has not ended takes a step, and the induction is on what is left after it.
  induction hidden : config.measure tree using wellFounded.induction generalizing config with
  | _ _ hypothesis =>
    subst hidden
    by_cases ended : config.Ended
    · exact ⟨0, ended⟩
    · have moves := moves_step parser tree follows ended
      obtain ⟨count, ended⟩ :=
        hypothesis _ (moves_decreases moves sound) (sound_of_moves moves sound) rfl
      exact ⟨count + 1, ended⟩

/-! ### Trees that are left -/

/-- Among some readings one is of a file, with other readings below it. -/
def HeldIn (path : Path) (data : ByteArray) (below : List Reading) : List Reading → Prop
  | [] => False
  | reading :: rest =>
    (reading.path = path ∧ reading.data = data ∧ rest = below) ∨ HeldIn path data below rest

/-- The tree of a file is about to be left with its outline. -/
inductive Config.Closes (follows : Bool) (path : Path) (data : ByteArray) (below : List Reading) :
    Config → Prop where
  | intro {loaded : Loaded} {reading : Reading} {node : Node} (here : reading.path = path)
      (same : reading.data = data) (last : reading.frame.pending = [])
      (skipped : reading.frame.module? reading.data follows = none)
      (made : reading.frame.made reading.data reading.base = .ok node) (frames : reading.frames = []) :
      Closes follows path data below (.lowering loaded reading below)

/-- **A tree that is lowered** stays so with one step, or it is left with its outline, or the run fails. -/
theorem closes_of_moves {config next : Config} {path : Path} {data : ByteArray}
    {below : List Reading} (moves : Moves parser tree follows config next)
    (held : HeldIn path data below config.readings) :
    HeldIn path data below next.readings ∨ config.Closes follows path data below
      ∨ ∃ loaded failure, next = .ended loaded (.error failure) := by
  cases moves with
  | opened done => exact Or.inl (Or.inr held)
  | entered next => exact Or.inl held
  | called last asked found => exact Or.inl held
  | returned last skipped made frames => exact Or.inl held
  | received last skipped made frames =>
    rcases held with ⟨here, same, rfl⟩ | held
    · exact Or.inr (Or.inl (.intro here same last skipped made frames))
    · exact Or.inl held
  | finished last skipped made frames =>
    rcases held with ⟨here, same, rfl⟩ | held
    · exact Or.inr (Or.inl (.intro here same last skipped made frames))
    · exact held.elim
  | refused failed | lost _ _ failed | broken _ _ failed => exact Or.inr (Or.inr ⟨_, _, rfl⟩)

/-- A tree that is lowered is left with its outline some time, or the run fails. -/
theorem closes_or_fails {config : Config} {path : Path} {data : ByteArray} {below : List Reading}
    (held : HeldIn path data below config.readings) {count : Nat}
    (ended : ((step parser tree follows)^[count] config).Ended) :
    (∃ later, ((step parser tree follows)^[later] config).Closes follows path data below)
      ∨ ∃ later loaded failure,
          (step parser tree follows)^[later] config = .ended loaded (.error failure) := by
  induction count generalizing config with
  | zero =>
    cases ended
    exact held.elim
  | succ count hypothesis =>
    have running : ¬ config.Ended := by
      rintro ⟨⟩
      exact held.elim
    rcases closes_of_moves (moves_step parser tree follows running) held with
      held | closes | ⟨loaded, failure, failed⟩
    · exact (hypothesis held ended).imp (fun ⟨later, closes⟩ => ⟨later + 1, closes⟩)
        fun ⟨later, failed⟩ => ⟨later + 1, failed⟩
    · exact Or.inl ⟨0, closes⟩
    · exact Or.inr ⟨1, loaded, failure, failed⟩

/-- A node whose outline cannot be made has no range. -/
theorem not_ordered_of_made_eq_error {reading : Reading} (based : 0 ≤ reading.base)
    {failure : Failure} (failed : reading.frame.made reading.data reading.base = .error failure) :
    ¬ (0 ≤ reading.frame.site.node.head.start
      ∧ reading.frame.site.node.head.start ≤ reading.frame.site.node.head.stop) := by
  rintro ⟨nonnegative, ordered⟩
  obtain ⟨base, known⟩ := Int.eq_ofNat_of_zero_le based
  have inRange : reading.frame.site.node.head.InRange reading.frame.site.node.head.stop.toNat :=
    ⟨nonnegative, ordered, Int.self_le_toNat _⟩
  rw [Frame.made, known, outlineNode_eq inRange] at failed
  cases failed

/-! ### Runs -/

/-- The machine that loads a root file, after some steps. -/
def runOf (parser : Parser) (tree : Files.Tree) (follows : Bool) (root : Path) (count : Nat) : Config :=
  (step parser tree follows)^[count] (start root)

theorem runOf_succ (root : Path) (count : Nat) :
    runOf parser tree follows root (count + 1)
      = step parser tree follows (runOf parser tree follows root count) :=
  Function.iterate_succ_apply' _ _ _

theorem runOf_add (root : Path) (count more : Nat) :
    runOf parser tree follows root (count + more)
      = (step parser tree follows)^[more] (runOf parser tree follows root count) := by
  rw [runOf, runOf, Nat.add_comm, Function.iterate_add_apply]

/-- How the machine that loads a root file ends, what it loads, and what it visits. -/
structure Terminates (parser : Parser) (tree : Files.Tree) (follows : Bool) (root : Path) : Prop where
  /-- It ends with the crate of the root file, or with the failure of this crate. -/
  ends : ∃ count loaded result, runOf parser tree follows root count = .ended loaded result
    ∧ assemble parser tree follows root = result.map fun node => ⟨loaded.map, node⟩
  /-- To load a file fails, or its place was not loaded before and, beyond the root, is that of a file. -/
  loads : ∀ count loaded path directory below,
    runOf parser tree follows root count = .calling loaded path directory below →
      (∃ failure, runOf parser tree follows root (count + 1) = .ended loaded (.error failure))
        ∨ ((runOf parser tree follows root (count + 1)).loaded.places
              = path.absolute tree.working :: loaded.places
            ∧ path.absolute tree.working ∉ loaded.places
            ∧ ((path = root ∧ below = []) ∨ path.absolute tree.working ∈ tree.filePlaces))
  /-- Nothing else changes what was loaded. -/
  keeps : ∀ count loaded reading below,
    runOf parser tree follows root count = .lowering loaded reading below →
      (runOf parser tree follows root (count + 1)).loaded = loaded
  /-- Beyond the root no more files are loaded than there are. -/
  bounded : ∀ count,
    (runOf parser tree follows root count).loaded.places.length ≤ tree.filePlaces.card + 1
  /-- Where the root is a file, no more files are loaded than there are. -/
  boundedAll : root.absolute tree.working ∈ tree.filePlaces → ∀ count,
    (runOf parser tree follows root count).loaded.places.length ≤ tree.filePlaces.card
  /-- A tree that is lowered is left when each of its sites was visited once, or the run fails. -/
  visits : ∀ count loaded reading below,
    runOf parser tree follows root count = .lowering loaded reading below →
      (∃ later last other, count ≤ later
          ∧ runOf parser tree follows root later = .lowering last other below
          ∧ other.path = reading.path ∧ other.data = reading.data
          ∧ other.visited = (parser reading.data).sites
          ∧ (runOf parser tree follows root (later + 1)).readings.length = below.length)
        ∨ ∃ later last failure, runOf parser tree follows root later = .ended last (.error failure)
  /-- Lowering fails at a module whose file is not found and at a node without a range. -/
  fails : ∀ count loaded reading below failure,
    runOf parser tree follows root count = .lowering loaded reading below →
    runOf parser tree follows root (count + 1) = .ended loaded (.error failure) →
      (∃ directory declaration,
          reading.frame.module? reading.data follows = some (directory, declaration)
            ∧ moduleFile tree reading.path directory declaration = .error failure)
        ∨ ¬ (0 ≤ reading.frame.site.node.head.start
            ∧ reading.frame.site.node.head.start ≤ reading.frame.site.node.head.stop)

theorem sound_start (regular : root.Regular) : (start root).Sound parser tree root where
  called := ⟨regular, Path.regular_parent regular⟩
  beyond := Or.inl ⟨rfl, rfl⟩
  loaded := ⟨List.nodup_nil, fun _ member => absurd member List.not_mem_nil, [], rfl⟩
  readings := fun _ member => absurd member List.not_mem_nil

theorem sound_runOf (regular : root.Regular) (count : Nat) :
    (runOf parser tree follows root count).Sound parser tree root := by
  induction count with
  | zero => exact sound_start regular
  | succ count hypothesis =>
    rw [runOf_succ]
    exact sound_step hypothesis

/-- A whole run changes nothing of what a machine comes to. -/
theorem meaning_runOf {root : Path} (regular : root.Regular) (count : Nat) :
    (runOf parser tree follows root count).meaning parser tree follows
      = (start root).meaning parser tree follows := by
  induction count with
  | zero => rfl
  | succ count hypothesis =>
    rw [runOf_succ, ← hypothesis]
    by_cases ended : (runOf parser tree follows root count).Ended
    · cases known : runOf parser tree follows root count with
      | ended loaded result => rfl
      | calling | lowering =>
        rw [known] at ended
        cases ended
    · exact meaning_of_moves (moves_step parser tree follows ended) (sound_runOf regular count).called

/-- What the start of a run comes to is the crate of the root file. -/
theorem assemble_eq_meaning {root : Path} (regular : root.Regular) :
    assemble parser tree follows root
      = ((start root).meaning parser tree follows).map Assembly.ofLoaded := by
  have deeper : loadFile parser tree follows (tree.entries.length + 2) root root.parent
      = loadFile parser tree follows (tree.entries.length + 1) root root.parent :=
    loadFile_eq_of_le (Nat.lt_succ_of_lt (Nat.lt_succ_self _)) regular (Path.regular_parent regular)
  have last : finishBelow parser tree follows [] = pure := rfl
  rw [assemble, deeper, start, Config.meaning, last, bind_pure]

theorem loaded_of_moves {loaded : Loaded} {reading : Reading} {below : List Reading} {next : Config}
    (moves : Moves parser tree follows (.lowering loaded reading below) next) : next.loaded = loaded := by
  cases moves <;> rfl

/-- The tree of a file is left when all its sites were visited. -/
theorem visited_of_closes {config : Config} {path : Path} {data : ByteArray} {below : List Reading}
    (sound : config.Sound parser tree root) (closes : config.Closes follows path data below) :
    ∃ loaded reading, config = .lowering loaded reading below ∧ reading.path = path
      ∧ reading.data = data ∧ reading.visited = (parser data).sites
      ∧ (step parser tree follows config).readings.length = below.length := by
  obtain ⟨rfl, rfl, last, skipped, made, frames⟩ := closes
  rename_i loaded reading node
  refine ⟨loaded, reading, rfl, rfl, rfl, ?_, ?_⟩
  · have visits := (sound.readings reading List.mem_cons_self).visits
    rw [Reading.remaining, Frame.remaining_of_last last, frames] at visits
    rw [← visits]
    exact (List.append_nil _).symm
  · show (advance tree follows loaded reading below).readings.length = _
    unfold advance deliver
    rw [last, skipped, made, frames]
    cases below <;> rfl

/-- A run that has ended came to the crate of the root file. -/
theorem assemble_eq_of_ended {root : Path} (regular : root.Regular) {count : Nat} {loaded : Loaded}
    {result : Except Failure Node} (ended : runOf parser tree follows root count = .ended loaded result) :
    assemble parser tree follows root = result.map fun node => ⟨loaded.map, node⟩ := by
  have meaning : (runOf parser tree follows root count).meaning parser tree follows = _ :=
    meaning_runOf regular count
  rw [ended] at meaning
  rw [assemble_eq_meaning regular, ← meaning]
  cases result <;> rfl

/-- To load a file fails, or puts its place before those that were loaded. -/
theorem step_calling {loaded : Loaded} {path directory : Path} {below : List Reading}
    (sound : (Config.calling loaded path directory below).Sound parser tree root) :
    (∃ failure, step parser tree follows (.calling loaded path directory below)
        = .ended loaded (.error failure))
      ∨ ((step parser tree follows (.calling loaded path directory below)).loaded.places
            = path.absolute tree.working :: loaded.places
          ∧ path.absolute tree.working ∉ loaded.places
          ∧ ((path = root ∧ below = []) ∨ path.absolute tree.working ∈ tree.filePlaces)) := by
  rw [step]
  cases opened : StateT.run (openFile parser tree path directory) loaded with
  | error failure => exact Or.inl ⟨failure, rfl⟩
  | ok result =>
    obtain ⟨_, _, fresh, last, _⟩ := openFile_eq_ok sound.called.1 opened
    refine Or.inr ⟨?_, fresh, sound.beyond⟩
    show result.2.places = _
    rw [last]

/-- Lowering fails at a module whose file is not found and at a node without a range. -/
theorem lost_or_broken {loaded last : Loaded} {reading : Reading} {below : List Reading}
    {failure : Failure} (based : 0 ≤ reading.base)
    (moves : Moves parser tree follows (.lowering loaded reading below) (.ended last (.error failure))) :
    (∃ directory declaration,
        reading.frame.module? reading.data follows = some (directory, declaration)
          ∧ moduleFile tree reading.path directory declaration = .error failure)
      ∨ ¬ (0 ≤ reading.frame.site.node.head.start
          ∧ reading.frame.site.node.head.start ≤ reading.frame.site.node.head.stop) := by
  cases moves with
  | lost last asked failed => exact Or.inl ⟨_, _, asked, failed⟩
  | broken last skipped failed => exact Or.inr (not_ordered_of_made_eq_error based failed)

/-- A name that ends before it starts, and a block after it. -/
def reversedTree : Syntax.Tree :=
  .node ⟨"source_file", 0, 15, true, false, false, none⟩
    [.node ⟨"identifier", 9, 3, true, false, false, none⟩ [],
     .node ⟨"block", 10, 12, true, false, false, none⟩ []]

def reversedFiles : Files.Tree where
  entries := [(["w"], .directory), (["w", "h.rs"], .file "aaaa\nbbbb\ncccc\n".toUTF8)]
  working := ["w"]

/-- A tree in which nothing but a pipe can be read. -/
def pipeFiles : Files.Tree where
  entries := [(["w"], .directory), (["w", "p"], .special "aaaa\n".toUTF8)]
  working := ["w"]

end UnsafeCensus.Crate
