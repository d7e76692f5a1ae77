/-
**Kinds and markings of constructs.**

* `safetyOf`: whether a construct is marked as unsafe by a token of its own;
* `isBlanket`: whether an implementation is one of a trait for one of its own parameters;
* `Surroundings.ofAssociated`: whether a construct stands in the body of an implementation or a trait;
* `kindOf`: the kind of a construct.
-/

import UnsafeCensus.Outline.Kind
import UnsafeCensus.Syntax.Tree

namespace UnsafeCensus.Crate

open Outline Syntax

/-- The types of the constructs around one, the nearest first. -/
structure Surroundings where
  parent : Option String := none
  grandparent : Option String := none
  deriving DecidableEq, Repr

namespace Surroundings

/-- The surroundings of what stands right below a construct. -/
def below (around : Surroundings) (type : String) : Surroundings :=
  ⟨some type, around.parent⟩

/-- Whether a construct stands in the body of an implementation or a trait. -/
def ofAssociated (around : Surroundings) : Bool :=
  around.parent == some "declaration_list"
    && (around.grandparent == some "impl_item" || around.grandparent == some "trait_item")

end Surroundings

/-- The marking of a construct. -/
def safetyOf (tree : Tree) : Safety :=
  let marked : Bool :=
    match tree.type with
    | "unsafe_block" => true
    | "function_item" =>
      tree.children.any fun child => child.type == "function_modifiers" && child.hasChild "unsafe"
    | "trait_item" | "impl_item" => tree.hasChild "unsafe"
    | _ => false
  if marked then .markedUnsafe else .safe

/-- The name that a generic parameter declares. -/
def parameterName? (data : ByteArray) (parameter : Tree) : Option String :=
  if parameter.type == "type_identifier" then some (parameter.textOf data)
  else
    match (parameter.childByField? "name").or (parameter.childByField? "left") with
    | some name => if name.type == "type_identifier" then some (name.textOf data) else none
    | none => none

/-- Whether an implementation is one of a trait for one of its own parameters. -/
def isBlanket (data : ByteArray) (tree : Tree) : Bool :=
  match tree.childByField? "trait", tree.childByField? "type",
    tree.childByField? "type_parameters" with
  | some _, some self, some parameters =>
    self.type == "type_identifier"
      && (parameters.namedChildren.filterMap (parameterName? data)).contains (self.textOf data)
  | _, _, _ => false

/-- The kind of a construct. -/
def kindOf (data : ByteArray) (around : Surroundings) (tree : Tree) : Kind :=
  match tree.type with
  | "source_file" => .crate
  | "mod_item" => .moduleItem
  | "function_item" => if around.ofAssociated then .other else .function
  | "trait_item" => .traitItem
  | "impl_item" => if isBlanket data tree then .blanketImpl else .implItem
  | "unsafe_block" | "block" => .block
  | "macro_invocation" | "macro_definition" => .macroCall
  | _ => .other

end UnsafeCensus.Crate
