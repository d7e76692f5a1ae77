/-
**The fault that a refused file is told of.**

A file is refused exactly when its tree holds a fault, or a node of it was said to hold one. It is told of the
first fault in the order of all nodes, tokens included, and of its top where no node is a fault. To pass over what
is below nodes without a fault finds the same node. In a well nested tree no fault starts before it.

* `hasError_iff`: which trees hold a fault;
* `Tree.Tells`, `tells_iff`: the node that a fault is told of;
* `Nested.pairwise_start`: the nodes of a nested tree start one after the other;
* `TellsOf`, `syntaxError_tellsOf`: what is told of it, wherever the file starts;
* `addTree_tells`: a file is added or refused.
-/

import Mathlib
import UnsafeCensus.Proofs.Census.Placement
import UnsafeCensus.Proofs.Syntax.Nested

namespace UnsafeCensus.Syntax

namespace Tree

mutual

/-- A tree holds a fault when one of its nodes is a fault or was said to hold one. -/
theorem hasError_iff :
    (tree : Tree) →
      (tree.hasError = true ↔ ∃ head ∈ tree.heads, head.isFault = true ∨ head.flagged = true)
  | node head children => by
    rw [hasError, heads, Bool.or_eq_true, Bool.or_eq_true, anyHasError_iff children, List.exists_mem_cons_iff]

theorem anyHasError_iff :
    (trees : List Tree) →
      (anyHasError trees = true
        ↔ ∃ head ∈ headsOf trees, head.isFault = true ∨ head.flagged = true)
  | [] => by simp [anyHasError, headsOf]
  | tree :: rest => by
    rw [anyHasError, headsOf, Bool.or_eq_true, hasError_iff tree, anyHasError_iff rest]
    simp only [List.mem_append, or_and_right, exists_or]

end

/-! ### The node that is told of -/

/-- The node that a fault of a tree is told of: the first one that is a fault, or the top where none is. -/
inductive Tells (tree : Tree) : Head → Prop where
  | first {before after : List Head} {head : Head} (split : tree.heads = before ++ head :: after)
      (sound : ∀ other ∈ before, ¬ other.isFault = true) (fault : head.isFault = true) : tree.Tells head
  | top (sound : ∀ other ∈ tree.heads, ¬ other.isFault = true) : tree.Tells tree.head

/-- The search comes to the node that is told of. -/
theorem tells_iff {tree : Tree} {head : Head} :
    tree.Tells head ↔ tree.firstFault?.getD tree.head = head := by
  rw [firstFault?_eq]
  constructor
  · rintro (⟨split, sound, fault⟩ | sound)
    · have found : tree.heads.find? Head.isFault = some head :=
        List.find?_eq_some_iff_append.mpr ⟨fault, _, _, split, fun other member => by
          simpa using sound other member⟩
      rw [found, Option.getD_some]
    · rw [List.find?_eq_none.mpr sound, Option.getD_none]
  · rintro rfl
    cases found : tree.heads.find? Head.isFault with
    | none => exact .top (List.find?_eq_none.mp found)
    | some head =>
      obtain ⟨fault, before, after, split, sound⟩ := List.find?_eq_some_iff_append.mp found
      exact .first split (fun other member => by simpa using sound other member) fault

/-! ### The earliest fault -/

mutual

/-- The nodes of a nested tree start one after the other. -/
theorem Nested.pairwise_start :
    {tree : Tree} → tree.Nested → tree.heads.Pairwise fun first second => first.start ≤ second.start
  | node head children, nested => by
    have inside := nested.inside
    rw [Nested] at nested
    obtain ⟨_, _, chain, below⟩ := nested
    rw [heads, List.pairwise_cons]
    refine ⟨fun other member => ?_, nestedAll_pairwise_start below chain⟩
    exact (inside other (List.mem_cons_of_mem _ member)).2.1

theorem nestedAll_pairwise_start :
    {trees : List Tree} → NestedAll trees →
      trees.IsChain (fun first second => first.head.Before second.head) →
      (headsOf trees).Pairwise fun first second => first.start ≤ second.start
  | [], _, _ => .nil
  | tree :: rest, nested, chain => by
    have apart := nestedAll_apart nested chain
    rw [NestedAll] at nested
    rw [headsOf, List.pairwise_append]
    refine ⟨nested.1.pairwise_start, nestedAll_pairwise_start nested.2 chain.tail, ?_⟩
    intro head member other later
    exact (nested.1.inside head member).1.trans (apart head member other later)

end

/-- In a nested tree no fault starts before the one that is told of. -/
theorem Tells.start_le {tree : Tree} {head : Head} (tells : tree.Tells head) (nested : tree.Nested) :
    ∀ other ∈ tree.heads, other.isFault = true → head.start ≤ other.start := by
  intro other member fault
  cases tells with
  | top sound => exact absurd fault (sound other member)
  | @first before after _ split sound _ =>
    have ascending := nested.pairwise_start
    rw [split, List.pairwise_append] at ascending
    rw [split, List.mem_append, List.mem_cons] at member
    rcases member with earlier | rfl | later
    · exact absurd fault (sound other earlier)
    · exact le_rfl
    · exact (List.pairwise_cons.mp ascending.2.1).1 other later

end Tree

end UnsafeCensus.Syntax

namespace UnsafeCensus.Crate

open Census Outline Source Syntax

/-! ### What is told -/

/-- What a diagnostic tells of a node that stands at a location of a file. -/
structure TellsOf (name : String) (head : Head) (location : Location) (diagnostic : Diagnostic) : Prop where
  family : diagnostic.family = .source
  code : diagnostic.code = .parseFailed
  message : diagnostic.message
    = (if head.missing then "missing " ++ head.type else "syntax error") ++ " at " ++ location.text
  operation : diagnostic.context.operation = some "parse"
  file : diagnostic.context.file = some name
  facts : diagnostic.context.facts = [Json.member "line" (.integer location.line),
    Json.member "column" (.integer location.column)]

variable {data : ByteArray} {tree : Tree}

/-- The same is told of a fault wherever its file starts. -/
theorem syntaxError_tellsOf (name : String) (inRange : tree.InRange data.size) {head : Head}
    (tells : tree.Tells head) :
    ∃ diagnostic, TellsOf name head (located name data head.start.toNat) diagnostic
      ∧ ∀ start : Nat, syntaxError (File.ofData name start data) tree = .ok diagnostic := by
  have found := Tree.tells_iff.mp tells
  have nonnegative := (inRange _ (fault_mem_heads tree)).1
  have there := locate_ofData name 0 data head.start.toNat
  obtain ⟨diagnostic, told, _⟩ := syntaxError_eq_ok name 0 inRange
  refine ⟨diagnostic, ?_, fun start => (syntaxError_ofData inRange start).trans told⟩
  rw [found] at nonnegative
  rw [Int.toNat_of_nonneg nonnegative] at there
  rw [syntaxError, found] at told
  change (File.locate (File.ofData name 0 data) (0 + head.start) >>= _) = _ at told
  rw [there] at told
  cases told
  exact ⟨rfl, rfl, rfl, rfl, rfl, rfl⟩

/-- **A file is added or refused.** It is refused exactly when its tree holds a fault, and told of the first node
that is one, at the location that its file finds for it, whatever files there are before. -/
theorem addTree_tells (name : String) (data : ByteArray) (tree : Tree) (inRange : tree.InRange data.size) :
    (tree.hasError = true ↔ ∃ head ∈ tree.heads, head.isFault = true ∨ head.flagged = true)
      ∧ tree.firstFault? = tree.heads.find? Head.isFault
      ∧ ∃ head location diagnostic, tree.Tells head
        ∧ (tree.Nested → ∀ other ∈ tree.heads, other.isFault = true → head.start ≤ other.start)
        ∧ (∀ start : Nat, (File.ofData name start data).locate (start + head.start) = .ok location)
        ∧ TellsOf name head location diagnostic
        ∧ ∀ files, ∃ result,
          addTree (Map.ofFiles files) name data tree = (Map.ofFiles (files ++ [(name, data)]), result)
            ∧ (tree.hasError = true → result = .error (.diagnosed diagnostic))
            ∧ (tree.hasError = false → ∃ outline, result = .ok outline) := by
  have tells : tree.Tells (tree.firstFault?.getD tree.head) := Tree.tells_iff.mpr rfl
  have nonnegative := (inRange _ (fault_mem_heads tree)).1
  obtain ⟨diagnostic, told, known⟩ := syntaxError_tellsOf name inRange tells
  refine ⟨tree.hasError_iff, tree.firstFault?_eq, _, _, diagnostic, tells, tells.start_le, ?located, told, ?added⟩
  case located =>
    intro start
    have there := locate_ofData name start data (tree.firstFault?.getD tree.head).start.toNat
    rwa [Int.toNat_of_nonneg nonnegative] at there
  case added =>
    intro files
    have here : syntaxError (File.ofData name 0 data) tree = .ok diagnostic := known 0
    refine ⟨_, addTree_ofFiles inRange files, fun faulty => ?_, fun clean => ?_⟩
    · rw [checkTree, faulty, if_pos rfl, here]
      rfl
    · rw [checkTree, clean]
      exact ⟨_, rfl⟩

/-- A statement that was said to hold a fault, a function without a closing parenthesis, and one too many. -/
def faultyText : String :=
  "x;\nfn a( \x7b\x7d\n)\n"

/-- The tree of these constructs. -/
def faultyTree : Tree :=
  .node ⟨"source_file", 0, 14, true, false, false, none⟩
    [.node ⟨"expression_statement", 0, 2, true, false, true, none⟩
      [.node ⟨"identifier", 0, 1, true, false, false, none⟩ [],
       .node ⟨";", 1, 2, false, false, false, none⟩ []],
     .node ⟨"function_item", 3, 11, true, false, false, none⟩
      [.node ⟨"identifier", 6, 7, true, false, false, some "name"⟩ [],
       .node ⟨"parameters", 7, 8, true, false, false, some "parameters"⟩
        [.node ⟨"(", 7, 8, false, false, false, none⟩ [],
         .node ⟨")", 8, 8, false, true, false, none⟩ []],
       .node ⟨"block", 9, 11, true, false, false, some "body"⟩ []],
     .node ⟨"ERROR", 12, 13, true, false, false, none⟩ []]

/-- The first statement is passed by, and the missing token is told of, not the later fault. -/
theorem addTree_tells_missing :
    faultyTree.InRange faultyText.toUTF8.size ∧ faultyTree.Nested
      ∧ ∃ diagnostic,
        addTree (Map.ofFiles [("a.rs", "fn a() \x7b\x7d\n".toUTF8)]) "b.rs" faultyText.toUTF8 faultyTree
            = (Map.ofFiles ([("a.rs", "fn a() \x7b\x7d\n".toUTF8)] ++ [("b.rs", faultyText.toUTF8)]),
              .error (.diagnosed diagnostic))
          ∧ diagnostic.message = "missing ) at b.rs:2:5"
          ∧ ∀ other ∈ faultyTree.heads, other.isFault = true → 8 ≤ other.start := by
  have inRange : faultyTree.InRange faultyText.toUTF8.size := by decide
  have nested : faultyTree.Nested := by decide
  have faulty : faultyTree.hasError = true := by decide
  obtain ⟨-, -, head, location, diagnostic, tells, earliest, there, told, added⟩ :=
    addTree_tells "b.rs" faultyText.toUTF8 faultyTree inRange
  obtain ⟨result, added, refused, -⟩ := added [("a.rs", "fn a() \x7b\x7d\n".toUTF8)]
  -- The node that is told of is the second fault that is held, and its location is found in its own file.
  have missing : head = ⟨")", 8, 8, false, true, false, none⟩ := by
    rw [← Tree.tells_iff.mp tells, Tree.firstFault?_eq]
    decide
  subst missing
  have fifth : location = ⟨"b.rs", 2, 5, by decide⟩ := by
    have found := locate_ofData "b.rs" 0 faultyText.toUTF8 8
    rw [Except.ok.inj ((there 0).symm.trans found)]
    decide +kernel
  subst fifth
  refine ⟨inRange, nested, diagnostic, ?_, told.message.trans ?_, earliest nested⟩
  · rw [added, refused faulty]
  · decide +kernel

end UnsafeCensus.Crate
