/-
**The modules that a file declares.**

A site of a module without a body declares a module. Its files are looked for in the directory of the
modules of its file, followed by the names of the modules around the site. When no module without a body
holds another module, the modules are loaded in the order in which they are written.

* `Site.directory`, `Site.declaration`: where modules declared at a site are looked for, and the module that
  it declares;
* `Tree.modules`: the modules that a tree declares, in the order in which they are written;
* `Tree.Flat`, `Tree.HidesNoModule`: no module without a body holds another, and no macro does so either;
* `perm_declarations`: the modules that are loaded are those that are written;
* `declarations_eq_modules`: they are loaded in this order where the tree is flat.
-/

import Mathlib
import UnsafeCensus.Proofs.Crate.Regions

namespace UnsafeCensus.Syntax

open Crate
open Files (Path)

/-- Where modules that are declared below some nodes, the nearest first, are looked for: the name of each
module among these nodes is a directory further. -/
def directoryBelow (data : ByteArray) (directory : Path) (above : List Tree) : Path :=
  above.foldr
    (fun tree directory =>
      if tree.type == "mod_item" then directory.joinText (nameOf data tree) else directory)
    directory

/-- The module that a site declares in a file whose modules are looked for in a directory. -/
def Site.declaration (data : ByteArray) (directory : Path) (site : Site) : Declaration where
  name := nameOf data site.node
  directory := some (directoryBelow data directory site.above)
  file := pathAttribute? data site.before

/-- The modules among some sites. -/
def modulesAt (data : ByteArray) (directory : Path) (sites : List Site) : List Declaration :=
  (sites.filter fun site => isBodiless site.node).map (Site.declaration data directory)

/-- The modules that a tree declares, in the order in which they are written. -/
def Tree.modules (data : ByteArray) (directory : Path) (tree : Tree) : List Declaration :=
  modulesAt data directory tree.sites

/-- No module without a body holds another module. -/
def Tree.Flat (tree : Tree) : Prop :=
  ∀ site ∈ tree.sites, Covers isBodiless "mod_item" site

/-- No macro and no module without a body holds a module. -/
def Tree.HidesNoModule (tree : Tree) : Prop :=
  ∀ site ∈ tree.sites, Covers hides "mod_item" site

instance (tree : Tree) : Decidable tree.HidesNoModule :=
  inferInstanceAs (Decidable (∀ site ∈ tree.sites, Covers hides "mod_item" site))

/-- What covers macros and modules covers modules. -/
theorem covers_isBodiless {site : Site} (covered : Covers hides "mod_item" site) :
    Covers isBodiless "mod_item" site := by
  intro bodiless
  exact covered (by rw [hides, bodiless, Bool.or_true])

/-- A tree that hides no module has none in another one without a body. -/
theorem Tree.HidesNoModule.flat {tree : Tree} (covered : tree.HidesNoModule) : tree.Flat :=
  fun site member => covers_isBodiless (covered site member)

theorem directoryBelow_cons (data : ByteArray) (directory : Path) (tree : Tree)
    (above : List Tree) :
    directoryBelow data directory (tree :: above)
      = if tree.type == "mod_item" then
          (directoryBelow data directory above).joinText (nameOf data tree)
        else directoryBelow data directory above := rfl

theorem type_of_isBodiless {tree : Tree} (bodiless : isBodiless tree = true) :
    tree.type = "mod_item" := by
  rw [isBodiless, Bool.and_eq_true, beq_iff_eq] at bodiless
  exact bodiless.1

theorem modulesAt_append (data : ByteArray) (directory : Path) (first second : List Site) :
    modulesAt data directory (first ++ second)
      = modulesAt data directory first ++ modulesAt data directory second := by
  simp [modulesAt]

theorem modulesAt_cons (data : ByteArray) (directory : Path) (site : Site) (sites : List Site) :
    modulesAt data directory (site :: sites)
      = (if isBodiless site.node then [site.declaration data directory] else [])
        ++ modulesAt data directory sites := by
  by_cases bodiless : isBodiless site.node = true <;> simp [modulesAt, bodiless]

/-- The modules of a file know where they are looked for. -/
theorem isSome_directory_of_mem_modulesAt {data : ByteArray} {directory : Path}
    {sites : List Site} {declaration : Declaration}
    (member : declaration ∈ modulesAt data directory sites) : declaration.directory.isSome := by
  obtain ⟨site, _, rfl⟩ := List.mem_map.mp member
  rfl

end UnsafeCensus.Syntax

namespace UnsafeCensus.Crate

open Syntax
open Files (Path)

/-- Nothing is declared among sites of which none is a module. -/
theorem modulesAt_eq_nil {data : ByteArray} {directory : Path} {sites : List Site}
    (none : ∀ site ∈ sites, site.node.type ≠ "mod_item") : modulesAt data directory sites = [] := by
  rw [modulesAt, List.map_eq_nil_iff, List.filter_eq_nil_iff]
  exact fun site member bodiless => none site member (type_of_isBodiless bodiless)

/-- What a position knows about its directory is known below it. -/
theorem directory_below {position : Position} {data : ByteArray} {directory : Path} {above : List Tree}
    (located : position.directory = some (directoryBelow data directory above)) (tree : Tree) :
    (position.below data tree).directory = some (directoryBelow data directory (tree :: above)) := by
  rw [directoryBelow_cons, Position.below, located]
  split <;> rfl

mutual

/-- Below some nodes modules are loaded in the order in which they are written. -/
theorem declarations_eq_modulesAt (data : ByteArray) (directory : Path) (above before : List Tree) :
    (position : Position) → (tree : Tree) →
      position.directory = some (directoryBelow data directory above) → position.before = before →
      (∀ site ∈ sitesFrom allOpen above before tree, Covers isBodiless "mod_item" site) →
        declarations data position tree
          = modulesAt data directory (sitesFrom allOpen above before tree)
  | position, .node head children, located, preceded, flat => by
    rw [sitesFrom_allOpen, List.forall_mem_cons] at flat
    have inner := declarationsOf_eq_modulesAt data directory (.node head children :: above) []
      (position.below data (.node head children)) children (directory_below located _) rfl flat.2
    rw [declarations, inner, sitesFrom_allOpen, modulesAt_cons]
    by_cases bodiless : isBodiless (.node head children) = true
    · have nothing : modulesAt data directory
          (sitesBelow allOpen (.node head children :: above) [] children) = [] :=
        modulesAt_eq_nil (flat.1 bodiless)
      rw [if_pos bodiless, if_pos bodiless, nothing]
      simp [declarationOf, Site.declaration, located, preceded]
    · rw [if_neg bodiless, if_neg bodiless, List.append_nil, List.nil_append]

theorem declarationsOf_eq_modulesAt (data : ByteArray) (directory : Path)
    (above before : List Tree) :
    (position : Position) → (trees : List Tree) →
      position.directory = some (directoryBelow data directory above) → position.before = before →
      (∀ site ∈ sitesBelow allOpen above before trees, Covers isBodiless "mod_item" site) →
        declarationsOf data position trees
          = modulesAt data directory (sitesBelow allOpen above before trees)
  | _, [], _, _, _ => rfl
  | position, tree :: rest, located, preceded, flat => by
    rw [sitesBelow] at flat ⊢
    rw [declarationsOf]
    by_cases named : tree.head.named = true
    · rw [if_pos named, List.forall_mem_append] at flat
      rw [if_pos named, if_pos named, modulesAt_append,
        declarations_eq_modulesAt data directory above before position tree located preceded flat.1,
        declarationsOf_eq_modulesAt data directory above (tree :: before) (position.past tree) rest
          located (by rw [Position.past, preceded]) flat.2]
    · rw [if_neg named] at flat
      rw [if_neg named, if_neg named,
        declarationsOf_eq_modulesAt data directory above before position rest located preceded flat]

end

mutual

/-- Below some nodes the modules that are loaded are those that are written, wherever they stand. -/
theorem perm_declarations (data : ByteArray) (directory : Path) (above before : List Tree) :
    (position : Position) → (tree : Tree) →
      position.directory = some (directoryBelow data directory above) → position.before = before →
        (declarations data position tree).Perm
          (modulesAt data directory (sitesFrom allOpen above before tree))
  | position, .node head children, located, preceded => by
    have inner := perm_declarationsOf data directory (.node head children :: above) []
      (position.below data (.node head children)) children (directory_below located _) rfl
    have own : declarationOf data position (.node head children)
        = Site.declaration data directory ⟨above, before, .node head children⟩ := by
      rw [declarationOf, Site.declaration, located, preceded]
    rw [declarations, sitesFrom_allOpen, modulesAt_cons, own]
    exact List.perm_append_comm.trans (inner.append_left _)

theorem perm_declarationsOf (data : ByteArray) (directory : Path) (above before : List Tree) :
    (position : Position) → (trees : List Tree) →
      position.directory = some (directoryBelow data directory above) → position.before = before →
        (declarationsOf data position trees).Perm
          (modulesAt data directory (sitesBelow allOpen above before trees))
  | _, [], _, _ => .nil
  | position, tree :: rest, located, preceded => by
    rw [declarationsOf, sitesBelow]
    by_cases named : tree.head.named = true
    · rw [if_pos named, if_pos named, modulesAt_append]
      exact (perm_declarations data directory above before position tree located preceded).append
        (perm_declarationsOf data directory above (tree :: before) (position.past tree) rest located
          (by rw [Position.past, preceded]))
    · rw [if_neg named, if_neg named]
      exact perm_declarationsOf data directory above before position rest located preceded

end

/-- The modules of a file are loaded in the order in which they are written. -/
theorem declarations_eq_modules {tree : Tree} (flat : tree.Flat) (data : ByteArray)
    (directory : Path) :
    declarations data { directory := some directory } tree = tree.modules data directory :=
  declarations_eq_modulesAt data directory [] [] _ tree rfl rfl flat

end UnsafeCensus.Crate
