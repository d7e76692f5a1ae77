/-
**What forms make.**

A derivation says how a form makes trees of the tokens from one index up to another. Whatever is read has one,
however deep rules may call each other, so what holds of all that is read is proved by induction on derivations.

* `Makes`: the derivations;
* `makes_of_readRule`: what a rule makes of some tokens has a derivation;
* `Form.advances`, `Form.firm`: forms that take a token, and forms each node of which does so;
* `Makes.bounds`: the tokens that a form reads;
* `Makes.forall_of_everywhere`: what all trees of a form hold, when a check for it holds everywhere in it.
-/

import Mathlib
import UnsafeCensus.Grammar.Form

namespace UnsafeCensus.Grammar

open Syntax

variable {Rule : Type} {grammar : Rule → Form Rule} {tokens : Array Token} {form : Form Rule}
  {index middle next : Nat} {trees : List Tree}

/-! ### Derivations -/

/-- A form makes trees of the tokens from one index up to another. -/
inductive Makes (grammar : Rule → Form Rule) (tokens : Array Token) :
    Form Rule → Nat → List Tree → Nat → Prop
  | nothing {index : Nat} : Makes grammar tokens .nothing index [] index
  | token {test : Test} {index next : Nat} (passes : test.run tokens index = some next) :
      Makes grammar tokens (.token test) index [] next
  | leaf {test : Test} {type : String} {index next : Nat} (passes : test.run tokens index = some next) :
      Makes grammar tokens (.leaf test type) index [.node (headOf tokens type false index next) []] next
  | both {first second : Form Rule} {index middle next : Nat} {trees others : List Tree}
      (before : Makes grammar tokens first index trees middle)
      (after : Makes grammar tokens second middle others next) :
      Makes grammar tokens (.both first second) index (trees ++ others) next
  | either_first {first second : Form Rule} {index next : Nat} {trees : List Tree}
      (chosen : Makes grammar tokens first index trees next) :
      Makes grammar tokens (.either first second) index trees next
  | either_second {first second : Form Rule} {index next : Nat} {trees : List Tree}
      (chosen : Makes grammar tokens second index trees next) :
      Makes grammar tokens (.either first second) index trees next
  | ahead_present {tests : List Test} {present absent : Form Rule} {index next : Nat}
      {trees : List Tree} (chosen : Makes grammar tokens present index trees next) :
      Makes grammar tokens (.ahead tests present absent) index trees next
  | ahead_absent {tests : List Test} {present absent : Form Rule} {index next : Nat}
      {trees : List Tree} (chosen : Makes grammar tokens absent index trees next) :
      Makes grammar tokens (.ahead tests present absent) index trees next
  | many_done {form : Form Rule} {index : Nat} : Makes grammar tokens (.many form) index [] index
  | many_more {form : Form Rule} {index middle next : Nat} {trees others : List Tree}
      (once : Makes grammar tokens form index trees middle)
      (rest : Makes grammar tokens (.many form) middle others next) :
      Makes grammar tokens (.many form) index (trees ++ others) next
  | node {type : String} {form : Form Rule} {index next : Nat} {trees : List Tree}
      (below : Makes grammar tokens form index trees next) :
      Makes grammar tokens (.node type form) index
        [.node (headOf tokens type true index next) trees] next
  | field {name : String} {form : Form Rule} {index next : Nat} {trees : List Tree}
      (held : Makes grammar tokens form index trees next) :
      Makes grammar tokens (.field name form) index (trees.map (underField name)) next
  | rule {name : Rule} {index next : Nat} {trees : List Tree}
      (called : Makes grammar tokens (grammar name) index trees next) :
      Makes grammar tokens (.rule name) index trees next

theorem makes_of_repeatRead {once : Nat → Outcome}
    (sound : ∀ {index trees next}, once index = some (trees, next) →
      Makes grammar tokens form index trees next) (index left : Nat) :
    Makes grammar tokens (.many form) index (repeatRead once index left).1
      (repeatRead once index left).2 := by
  induction left generalizing index with
  | zero => exact .many_done
  | succ left hypothesis =>
    rw [repeatRead]
    split
    · rename_i trees middle done
      split_ifs
      · exact .many_more (sound done) (hypothesis middle)
      · exact .many_done
    · exact .many_done

/-- What a form makes has a derivation when what the rules make has one. -/
theorem makes_of_read {call : Rule → Nat → Outcome}
    (calls : ∀ {name index trees next}, call name index = some (trees, next) →
      Makes grammar tokens (grammar name) index trees next)
    (done : form.read call tokens index = some (trees, next)) :
    Makes grammar tokens form index trees next := by
  induction form generalizing index trees next with
  | nothing =>
    cases done
    exact .nothing
  | token test =>
    obtain ⟨_, passes, same⟩ := Option.map_eq_some_iff.mp done
    cases same
    exact .token passes
  | leaf test type =>
    obtain ⟨_, passes, same⟩ := Option.map_eq_some_iff.mp done
    cases same
    exact .leaf passes
  | both first second before after =>
    rw [Form.read] at done
    split at done
    · rename_i trees middle one
      split at done
      · rename_i others last two
        cases done
        exact .both (before one) (after two)
      · cases done
    · cases done
  | either first second before after =>
    rw [Form.read] at done
    split at done
    · rename_i one
      cases done
      exact .either_first (before one)
    · exact .either_second (after done)
  | ahead tests present absent before after =>
    rw [Form.read] at done
    split_ifs at done
    · exact .ahead_present (before done)
    · exact .ahead_absent (after done)
  | many form hypothesis =>
    have same := Option.some.inj done
    have made := makes_of_repeatRead (fun done => hypothesis done) index (tokens.size - index)
    rwa [same] at made
  | node type form hypothesis =>
    rw [Form.read] at done
    split at done
    · rename_i trees last one
      cases done
      exact .node (hypothesis one)
    · cases done
  | field name form hypothesis =>
    obtain ⟨⟨_, _⟩, held, same⟩ := Option.map_eq_some_iff.mp done
    cases same
    exact .field (hypothesis held)
  | rule name => exact .rule (calls done)

/-- **What a rule makes has a derivation**, by induction on how deep rules may call each other. -/
theorem makes_of_readRule {depth : Nat} {name : Rule}
    (done : readRule grammar tokens depth name index = some (trees, next)) :
    Makes grammar tokens (grammar name) index trees next := by
  induction depth generalizing name index trees next with
  | zero => cases done
  | succ depth hypothesis => exact makes_of_read (fun called => hypothesis called) done

/-! ### What is read -/

theorem lt_of_markAt? {letter : Char} (found : markAt? tokens index = some letter) :
    index < tokens.size := by
  unfold markAt? at found
  split at found
  · rename_i known
    exact (Array.getElem?_eq_some_iff.mp known).1
  · cases found

theorem inside_of_hasMarks {letters : List Char} (inside : index ≤ tokens.size)
    (found : hasMarks tokens index letters = true) : index + letters.length ≤ tokens.size := by
  induction letters generalizing index with
  | nil => exact inside
  | cons letter rest hypothesis =>
    rw [hasMarks, Bool.and_eq_true, Bool.and_eq_true, beq_iff_eq] at found
    have others := hypothesis (lt_of_markAt? found.1.1) found.2
    rw [List.length_cons]
    omega

theorem inside_of_signAt (inside : index ≤ tokens.size) :
    index + (signAt tokens index).length ≤ tokens.size := by
  unfold signAt
  split
  · rename_i sign found
    exact inside_of_hasMarks inside (List.find?_some found)
  · cases mark : markAt? tokens index with
    | none => exact inside
    | some letter => exact lt_of_markAt? mark

namespace Test

/-- Whether a test takes a token wherever it passes. -/
def advances : Test → Bool
  | sign text => !text.toList.isEmpty
  | finish => false
  | _ => true

theorem bounds_advance {holds : Bool} (below : index < tokens.size)
    (passes : advance index holds = some next) : index < next ∧ next ≤ tokens.size := by
  unfold advance at passes
  split_ifs at passes
  cases passes
  exact ⟨Nat.lt_succ_self _, below⟩

/-- The tokens that a test takes. -/
theorem bounds {test : Test} (inside : index ≤ tokens.size)
    (passes : test.run tokens index = some next) :
    index ≤ next ∧ next ≤ tokens.size ∧ (test.advances = true → index < next) := by
  have taken (bounds : index < next ∧ next ≤ tokens.size) :
      index ≤ next ∧ next ≤ tokens.size ∧ (test.advances = true → index < next) :=
    ⟨bounds.1.le, bounds.2, fun _ => bounds.1⟩
  have one {token : Token} (there : tokens[index]? = some token)
      (passes : some (index + 1) = some next) : index < next ∧ next ≤ tokens.size := by
    cases passes
    exact ⟨Nat.lt_succ_self _, (Array.getElem?_eq_some_iff.mp there).1⟩
  cases test with
  | word texts | nameBut texts =>
    rw [run] at passes
    split at passes
    · rename_i there
      exact taken (bounds_advance (Array.getElem?_eq_some_iff.mp there).1 passes)
    · cases passes
  | whole | literal =>
    rw [run] at passes
    split at passes
    all_goals first | exact taken (one ‹_› passes) | cases passes
  | mark letter =>
    have held : markAt? tokens index = some letter := by
      rw [run, advance] at passes
      split_ifs at passes with found
      exact beq_iff_eq.mp found
    exact taken (bounds_advance (lt_of_markAt? held) passes)
  | sign text =>
    rw [run] at passes
    split_ifs at passes with found
    cases passes
    have read := inside_of_hasMarks inside found
    rw [String.length_toList] at read
    refine ⟨Nat.le_add_right _ _, read, fun some => ?_⟩
    rw [advances, Bool.not_eq_true', List.isEmpty_eq_false_iff, ← List.length_pos_iff,
      String.length_toList] at some
    omega
  | operator texts =>
    rw [run] at passes
    split_ifs at passes with found
    cases passes
    have read := inside_of_signAt inside
    rw [Bool.and_eq_true, Bool.not_eq_true', List.isEmpty_eq_false_iff, ← List.length_pos_iff] at found
    exact taken ⟨by omega, read⟩
  | otherThan letters =>
    rw [run] at passes
    split at passes
    · cases passes
    · cases passes
    · rename_i there
      exact taken (bounds_advance (Array.getElem?_eq_some_iff.mp there).1 passes)
    · exact taken (one ‹_› passes)
  | finish =>
    rw [run] at passes
    split_ifs at passes
    cases passes
    exact ⟨le_rfl, inside, nofun⟩

end Test

namespace Form

/-- Whether a form takes a token wherever it stands, given which rules do so. -/
def advances (rules : Rule → Bool) : Form Rule → Bool
  | nothing => false
  | token test => test.advances
  | leaf test _ => test.advances
  | both first second => advances rules first || advances rules second
  | either first second => advances rules first && advances rules second
  | ahead _ present absent => advances rules present && advances rules absent
  | many _ => false
  | node _ form => advances rules form
  | field _ form => advances rules form
  | rule name => rules name

/-- Whether a check holds of every leaf, every node and every rule in a form. -/
def everywhere (check : Form Rule → Bool) : Form Rule → Bool
  | nothing => true
  | token _ => true
  | leaf test type => check (leaf test type)
  | both first second => everywhere check first && everywhere check second
  | either first second => everywhere check first && everywhere check second
  | ahead _ present absent => everywhere check present && everywhere check absent
  | many form => everywhere check form
  | node type form => check (node type form) && everywhere check form
  | field _ form => everywhere check form
  | rule name => check (rule name)

/-- Whether each node that a form makes takes a token, given which rules do so. -/
def firm (rules : Rule → Bool) : Form Rule → Bool :=
  everywhere fun
    | leaf test _ => test.advances
    | node _ form => advances rules form
    | _ => true

end Form

/-- Each of some rules takes a token wherever it stands, and each node that any rule makes does so. -/
structure Firm (grammar : Rule → Form Rule) (rules : Rule → Bool) : Prop where
  advances : ∀ name, rules name = true → (grammar name).advances rules = true
  nodes : ∀ name, (grammar name).firm rules = true

variable {rules : Rule → Bool}

/-- The tokens that a form reads. -/
theorem Makes.bounds (firm : Firm grammar rules) (makes : Makes grammar tokens form index trees next)
    (inside : index ≤ tokens.size) :
    index ≤ next ∧ next ≤ tokens.size ∧ (form.advances rules = true → index < next) := by
  induction makes with
  | nothing => exact ⟨le_rfl, inside, nofun⟩
  | token passes => exact Test.bounds inside passes
  | leaf passes => exact Test.bounds inside passes
  | both _ _ before after =>
    obtain ⟨forth, within, first⟩ := before inside
    obtain ⟨further, within, second⟩ := after within
    refine ⟨forth.trans further, within, fun advances => ?_⟩
    rw [Form.advances, Bool.or_eq_true] at advances
    exact advances.elim (fun one => (first one).trans_le further) fun two => forth.trans_lt (second two)
  | either_first _ hypothesis | either_second _ hypothesis | ahead_present _ hypothesis
  | ahead_absent _ hypothesis =>
    obtain ⟨forth, within, reads⟩ := hypothesis inside
    refine ⟨forth, within, fun advances => reads ?_⟩
    rw [Form.advances, Bool.and_eq_true] at advances
    first | exact advances.1 | exact advances.2
  | many_done => exact ⟨le_rfl, inside, nofun⟩
  | many_more _ _ once rest =>
    obtain ⟨forth, within, _⟩ := once inside
    obtain ⟨further, within, _⟩ := rest within
    exact ⟨forth.trans further, within, nofun⟩
  | node _ hypothesis | field _ hypothesis => exact hypothesis inside
  | @rule name _ _ _ _ hypothesis =>
    obtain ⟨forth, within, reads⟩ := hypothesis inside
    exact ⟨forth, within, fun advances => reads (firm.advances name advances)⟩

/-! ### What all trees hold -/

/-- What leaves hold, and nodes around trees that hold it, is held by all trees of a form in which the check
for it holds everywhere. -/
theorem Makes.forall_of_everywhere {check : Form Rule → Bool} {Holds : Tree → Prop}
    (leaf : ∀ {test type} index next, check (.leaf test type) = true →
      Holds (.node (headOf tokens type false index next) []))
    (node : ∀ {type form index trees next}, check (.node type form) = true →
      Makes grammar tokens form index trees next → form.everywhere check = true →
      (∀ tree ∈ trees, Holds tree) → Holds (.node (headOf tokens type true index next) trees))
    (field : ∀ {tree} name, Holds tree → Holds (underField name tree))
    (rules : ∀ {name}, check (.rule name) = true → (grammar name).everywhere check = true)
    (makes : Makes grammar tokens form index trees next) (checked : form.everywhere check = true) :
    ∀ tree ∈ trees, Holds tree := by
  induction makes with
  | nothing | token | many_done => exact nofun
  | leaf => exact List.forall_mem_singleton.mpr (leaf _ _ checked)
  | both _ _ before after =>
    rw [Form.everywhere, Bool.and_eq_true] at checked
    exact List.forall_mem_append.mpr ⟨before checked.1, after checked.2⟩
  | either_first _ hypothesis | ahead_present _ hypothesis =>
    rw [Form.everywhere, Bool.and_eq_true] at checked
    exact hypothesis checked.1
  | either_second _ hypothesis | ahead_absent _ hypothesis =>
    rw [Form.everywhere, Bool.and_eq_true] at checked
    exact hypothesis checked.2
  | many_more _ _ once rest => exact List.forall_mem_append.mpr ⟨once checked, rest checked⟩
  | node below hypothesis =>
    rw [Form.everywhere, Bool.and_eq_true] at checked
    exact List.forall_mem_singleton.mpr (node checked.1 below checked.2 (hypothesis checked.2))
  | field _ hypothesis =>
    exact List.forall_mem_map.mpr fun tree member => field _ (hypothesis checked tree member)
  | rule _ hypothesis => exact hypothesis (rules checked)

end UnsafeCensus.Grammar
