/-
**Trees listed with depths.**

A tree may be given by its nodes in order with their depths. A node stands below the nearest earlier one
of smaller depth, and a tree is put together from below, in the order in which its parts end.

* `Open`: a node whose part of the tree has not ended;
* `closeTo`: the parts that end before a node of some depth;
* `build`: the tree of a listing.
-/

namespace UnsafeCensus.Outline.Listing

variable {α β ε : Type}

/-- A node whose part of the tree has not ended, with what was built right below it, the latest
first. -/
structure Open (α β : Type) where
  depth : Int
  item : α
  built : List β

/-- The open nodes, innermost first, and the first tree that ended. -/
structure Progress (α β : Type) where
  opened : List (Open α β)
  done : Option β

/-- Whether a part of some depth ends before a node; the end of the listing ends every part. -/
def ends (limit : Option Int) (depth : Int) : Bool :=
  match limit with
  | some next => next ≤ depth
  | none => true

/-- The parts that end before a node of some depth, each put below the node around it. -/
def closeTo (make : α → List β → Except ε β) (limit : Option Int) (done : Option β) :
    List (Open α β) → Except ε (Progress α β)
  | [] => .ok ⟨[], done⟩
  | [inner] =>
    if ends limit inner.depth then do
      let result ← make inner.item inner.built.reverse
      return ⟨[], done.or (some result)⟩
    else .ok ⟨[inner], done⟩
  | inner :: outer :: rest =>
    if ends limit inner.depth then do
      let result ← make inner.item inner.built.reverse
      closeTo make limit done ({ outer with built := result :: outer.built } :: rest)
    else .ok ⟨inner :: outer :: rest, done⟩
termination_by opened => opened.length

/-- The progress after one more node. -/
def advance (make : α → List β → Except ε β) (progress : Progress α β) (entry : Int × α) :
    Except ε (Progress α β) := do
  let progress ← closeTo make (some entry.1) progress.done progress.opened
  return { progress with opened := ⟨entry.1, entry.2, []⟩ :: progress.opened }

/-- The tree of a listing; each node is made from its item and what is right below it. -/
def build (make : α → List β → Except ε β) (listing : List (Int × α)) : Except ε (Option β) := do
  let progress ← listing.foldlM (advance make) ⟨[], none⟩
  let progress ← closeTo make none progress.done progress.opened
  return progress.done

end UnsafeCensus.Outline.Listing
