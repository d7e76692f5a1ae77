/-
**Kinds and markings of outline nodes.**

* `Kind`: what a node of an outline stands for;
* `Safety`: whether the node itself is marked as unsafe;
* `Kind.countsWhenUnsafe`: the kinds whose marked nodes are regions;
* `Kind.isOpaque`: the kinds below which nothing is looked at.
-/

namespace UnsafeCensus.Outline

/-- What a node of an outline stands for. -/
inductive Kind where
  | crate
  | moduleItem
  | function
  | traitItem
  /-- An implementation of a trait for one of its own parameters. -/
  | blanketImpl
  | implItem
  | block
  /-- A call or a definition of a macro. -/
  | macroCall
  | other
  deriving DecidableEq, Repr

namespace Kind

/-- Every kind. -/
def all : List Kind :=
  [crate, moduleItem, function, traitItem, blanketImpl, implItem, block, macroCall, other]

/-- The name of a kind. -/
def name : Kind → String
  | crate => "crate"
  | moduleItem => "module"
  | function => "fn"
  | traitItem => "trait"
  | blanketImpl => "default_impl"
  | implItem => "impl"
  | block => "block"
  | macroCall => "macro_invocation"
  | other => "other"

/-- The kind of a name. -/
def ofName? (name : String) : Option Kind :=
  all.find? fun kind => kind.name == name

/-- Whether a node of this kind is a region when it is marked as unsafe. -/
def countsWhenUnsafe : Kind → Bool
  | function | traitItem | blanketImpl | implItem | block => true
  | crate | moduleItem | macroCall | other => false

/-- Whether a node of this kind hides everything below it. -/
def isOpaque : Kind → Bool
  | macroCall => true
  | _ => false

/-- Only macros hide what is below them. -/
theorem isOpaque_iff {kind : Kind} : kind.isOpaque = true ↔ kind = .macroCall := by
  cases kind <;> simp [isOpaque]

/-- What hides its contents is no region itself. -/
theorem countsWhenUnsafe_of_isOpaque {kind : Kind} (hidden : kind.isOpaque = true) :
    kind.countsWhenUnsafe = false := by
  cases kind <;> first | rfl | exact absurd hidden (by decide)

end Kind

/-- The marking of a node, apart from the nodes around it. -/
inductive Safety where
  | safe
  | markedUnsafe
  deriving DecidableEq, Repr

namespace Safety

/-- The name of a marking. -/
def name : Safety → String
  | safe => "safe"
  | markedUnsafe => "unsafe"

/-- The marking of a name. -/
def ofName? (name : String) : Option Safety :=
  [safe, markedUnsafe].find? fun safety => safety.name == name

end Safety

end UnsafeCensus.Outline
