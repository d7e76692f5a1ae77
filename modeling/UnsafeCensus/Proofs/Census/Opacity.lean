/-
**Macros are opaque.**

What stands on a macro or below it has no part in a census. Two outlines that are the same but for their
macros have the same regions, so they have the same metrics by every resolver. The effects of the resolver are
left open: it may fail as it likes, or keep a list of the offsets it is asked for. It is asked for the same
ones, so none of them comes from a macro.

* `Node.erased`: an outline with nothing kept of its macros but that they are there;
* `regionsBelow_erased`: erasing changes no region;
* `measuredBy_eq_of_erased_eq`: outlines that are the same once erased have the same regions and metrics.
-/

import Mathlib
import UnsafeCensus.Census.Metrics
import UnsafeCensus.Proofs.Crate.Regions

namespace UnsafeCensus.Outline

namespace Node

mutual

/-- The outline with nothing kept of a macro but that it is one. Labels, which are no part of what a node
is compared by, are left out everywhere. -/
def erased : Node → Node
  | mk kind safety extent _ children =>
    if kind = .macroCall then mk .macroCall .safe ⟨0, 0, Nat.le_refl 0⟩ "" []
    else mk kind safety extent "" (erasedAll children)

/-- The same for several outlines. -/
def erasedAll : List Node → List Node
  | [] => []
  | node :: rest => erased node :: erasedAll rest

end

end Node

mutual

/-- Erasing what stands on macros and below them changes no region. -/
theorem regionsBelow_erased : (node : Node) → node.erased.regionsBelow = node.regionsBelow
  | .mk kind safety extent label children => by
    by_cases macroNode : kind = .macroCall
    · subst macroNode
      rfl
    · have shown : ¬ kind.isOpaque = true := fun hidden => macroNode (Kind.isOpaque_iff.mp hidden)
      rw [Node.erased, if_neg macroNode, Node.regionsBelow, Node.regionsBelow, if_neg shown,
        if_neg shown, regionsOfAll_erasedAll children]
      rfl

theorem regionsOfAll_erasedAll :
    (nodes : List Node) → Node.regionsOfAll (Node.erasedAll nodes) = Node.regionsOfAll nodes
  | [] => rfl
  | node :: rest => by
    rw [Node.erasedAll, Node.regionsOfAll, Node.regionsOfAll, regionsBelow_erased node,
      regionsOfAll_erasedAll rest]

end

/-- Outlines that are the same once erased have the same regions. -/
theorem regions_eq_of_erased_eq {first second : Node} (same : first.erased = second.erased) :
    regions first = regions second := by
  calc regions first = first.erased.regionsBelow := by
        rw [Crate.regions_eq, regionsBelow_erased]
    _ = second.erased.regionsBelow := by rw [same]
    _ = regions second := by rw [Crate.regions_eq, regionsBelow_erased]

end UnsafeCensus.Outline

namespace UnsafeCensus.Census

open Outline Source

/-- **Macros are opaque.** Outlines that are the same but for what stands on their macros and below them have
the same regions, and by every resolver, whatever its effects, the same metrics or the same failure. -/
theorem measuredBy_eq_of_erased_eq {first second : Node} (same : first.erased = second.erased) :
    regions first = regions second
      ∧ ∀ {m : Type → Type} [Monad m] [MonadLiftT (Except Failure) m] (resolver : Resolver m),
          Metrics.measuredBy resolver first = Metrics.measuredBy resolver second := by
  have regions := regions_eq_of_erased_eq same
  refine ⟨regions, fun resolver => ?_⟩
  rw [Metrics.measuredBy, Metrics.measuredBy, regions]

/-- A crate of an unsafe function with a macro call in it and an unsafe block after it; some unsafe block
stands below the call. -/
def crateAround (call : Node) : Node :=
  .mk .crate .safe ⟨0, 9, by decide⟩ "source_file"
    [.mk .function .markedUnsafe ⟨0, 5, by decide⟩ "function_item" [call],
     .mk .block .markedUnsafe ⟨6, 8, by decide⟩ "unsafe_block" []]

/-- A macro call that is marked as unsafe itself, reaches beyond all files, and has an unsafe block and a
further call below it. -/
def loudCall : Node :=
  .mk .macroCall .markedUnsafe ⟨1, 400, by decide⟩ "macro_invocation"
    [.mk .block .markedUnsafe ⟨300, 400, by decide⟩ "unsafe_block" [],
     .mk .macroCall .safe ⟨2, 3, by decide⟩ "macro_definition" []]

/-- A macro call with nothing below it. -/
def quietCall : Node :=
  .mk .macroCall .safe ⟨3, 4, by decide⟩ "macro_definition" []

/-- A loud call and a quiet one give the same two rows. -/
theorem measuredBy_eq_of_erased_eq_calls :
    (crateAround loudCall).erased = (crateAround quietCall).erased
      ∧ (regions (crateAround loudCall)).map Crate.boundsOf = [(0, 5), (6, 8)]
      ∧ regions (crateAround loudCall) = regions (crateAround quietCall)
      ∧ Metrics.measuredBy (Map.ofFiles [("a.rs", "abc\ndefgh".toUTF8)]).resolver (crateAround loudCall)
          = Metrics.measuredBy (Map.ofFiles [("a.rs", "abc\ndefgh".toUTF8)]).resolver
              (crateAround quietCall) := by
  have same : (crateAround loudCall).erased = (crateAround quietCall).erased := rfl
  obtain ⟨regions, metrics⟩ := measuredBy_eq_of_erased_eq same
  refine ⟨same, ?_, regions, metrics _⟩
  rw [Crate.regions_eq]
  rfl

end UnsafeCensus.Census
