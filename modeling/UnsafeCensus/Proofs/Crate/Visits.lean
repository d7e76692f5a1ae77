/-
**The files of a branch by their addresses.**

The address of a file in a branch lists the numbers of the modules on the way to it. A file comes before
another one in the branch exactly when its address does, so the order of a branch is the order of addresses
letter by letter.

* `Branch.visits`: the files of a branch with their addresses;
* `map_snd_visits`: these are the files of the branch in order;
* `pairwise_visits`: the addresses go up;
* `mem_visits_cons_iff`: a file below a module is one of the branch of the module.
-/

import Mathlib
import UnsafeCensus.Proofs.Crate.Branch

namespace UnsafeCensus.Crate.Branch

mutual

/-- The files of a branch with their addresses. -/
def visits : Branch → List (List Nat × Branch)
  | mk path data modules => ([], mk path data modules) :: visitsFrom 0 modules

/-- The files of several branches with their addresses, the first branch being at a number. -/
def visitsFrom (index : Nat) : List Branch → List (List Nat × Branch)
  | [] => []
  | branch :: rest =>
    (visits branch).map (fun visit => (index :: visit.1, visit.2)) ++ visitsFrom (index + 1) rest

end

mutual

/-- The files with addresses are those of the branch in order. -/
theorem map_snd_visits : (branch : Branch) → branch.visits.map Prod.snd = branch.preorder
  | mk path data modules => by
    rw [visits, preorder, List.map_cons, map_snd_visitsFrom 0 modules]

theorem map_snd_visitsFrom (index : Nat) :
    (branches : List Branch) → (visitsFrom index branches).map Prod.snd = preorderAll branches
  | [] => rfl
  | branch :: rest => by
    rw [visitsFrom, preorderAll, List.map_append, List.map_map, map_snd_visitsFrom _ rest,
      ← map_snd_visits branch]
    rfl

end

/-- What is visited among several branches is visited in one of them. -/
theorem mem_visitsFrom_iff {index : Nat} {branches : List Branch} {address : List Nat}
    {inner : Branch} :
    (address, inner) ∈ visitsFrom index branches ↔
      ∃ offset below child, address = (index + offset) :: below ∧ branches[offset]? = some child
        ∧ (below, inner) ∈ child.visits := by
  induction branches generalizing index with
  | nil =>
    rw [visitsFrom]
    exact ⟨nofun, fun ⟨_, _, _, _, impossible, _⟩ => by cases impossible⟩
  | cons branch rest hypothesis =>
    rw [visitsFrom, List.mem_append, hypothesis]
    constructor
    · rintro (first | ⟨offset, below, child, rfl, there, member⟩)
      · obtain ⟨⟨below, _⟩, member, equal⟩ := List.mem_map.mp first
        cases equal
        exact ⟨0, below, branch, rfl, rfl, member⟩
      · exact ⟨offset + 1, below, child, by rw [Nat.add_assoc, Nat.add_comm 1], there, member⟩
    · rintro ⟨offset, below, child, rfl, there, member⟩
      cases offset with
      | zero =>
        cases there
        exact Or.inl (List.mem_map.mpr ⟨(below, inner), member, rfl⟩)
      | succ offset =>
        exact Or.inr ⟨offset, below, child, by rw [Nat.add_assoc, Nat.add_comm 1], there, member⟩

/-- The first file of a branch is the one without an address. -/
theorem mem_visits_nil_iff {branch inner : Branch} : ([], inner) ∈ branch.visits ↔ inner = branch := by
  cases branch with
  | mk path data modules =>
    rw [visits, List.mem_cons, mem_visitsFrom_iff]
    constructor
    · rintro (equal | ⟨_, _, _, impossible, _⟩)
      · exact (Prod.mk.inj equal).2
      · cases impossible
    · rintro rfl
      exact Or.inl rfl

/-- A file below a module is one of the branch of the module. -/
theorem mem_visits_cons_iff {branch inner : Branch} {index : Nat} {address : List Nat} :
    (index :: address, inner) ∈ branch.visits ↔
      ∃ child, branch.modules[index]? = some child ∧ (address, inner) ∈ child.visits := by
  cases branch with
  | mk path data modules =>
    rw [visits, List.mem_cons, mem_visitsFrom_iff]
    constructor
    · rintro (equal | ⟨offset, below, child, equal, there, member⟩)
      · cases equal
      · rw [Nat.zero_add] at equal
        cases equal
        exact ⟨child, there, member⟩
    · rintro ⟨child, there, member⟩
      exact Or.inr ⟨index, address, child, by rw [Nat.zero_add], there, member⟩

mutual

/-- The addresses in a branch go up. -/
theorem pairwise_visits :
    (branch : Branch) → branch.visits.Pairwise fun first second => first.1 < second.1
  | mk path data modules => by
    rw [visits, List.pairwise_cons]
    refine ⟨fun visit member => ?_, pairwise_visitsFrom 0 modules⟩
    obtain ⟨offset, below, _, equal, _⟩ := mem_visitsFrom_iff.mp member
    rw [equal]
    exact List.nil_lt_cons _ _

theorem pairwise_visitsFrom (index : Nat) :
    (branches : List Branch) →
      (visitsFrom index branches).Pairwise fun first second => first.1 < second.1
  | [] => .nil
  | branch :: rest => by
    rw [visitsFrom, List.pairwise_append, List.pairwise_map]
    refine ⟨(pairwise_visits branch).imp fun below => List.cons_lt_cons_self.mpr below,
      pairwise_visitsFrom (index + 1) rest, fun first member second later => ?_⟩
    obtain ⟨visit, _, rfl⟩ := List.mem_map.mp member
    obtain ⟨offset, below, _, equal, _⟩ := mem_visitsFrom_iff.mp later
    rw [equal]
    exact List.Lex.rel (by omega)

end

end UnsafeCensus.Crate.Branch
