/-
**The regions of a file and those of its modules, in one order.**

Along the sites of a file, what its own regions give is interleaved with what its modules without a body
give: each region takes the next of its own, and each such module takes all of the next module.

* `interleave`: the two in one order;
* `Fits`: there is one of its own for each region and one part for each module;
* `interleave_append`, `interleave_rel`, `interleave_perm`: interleaving goes along sites piece by piece,
  keeps what holds of each member, and only changes the order;
* `regionsBelow_weave`: the regions of a woven outline are those of its tree interleaved with those of the
  parts of its modules.
-/

import Mathlib
import UnsafeCensus.Proofs.Crate.Declared
import UnsafeCensus.Proofs.Crate.Regions

namespace UnsafeCensus.Crate

open Outline Source Syntax

/-! ### Interleaving -/

/-- Along some sites, each region takes the next one of its own, and each module without a body takes the next
part. -/
def interleave {α : Type} : List Site → List α → List (List α) → List α
  | [], _, _ => []
  | site :: rest, own, parts =>
    if site.IsRegion then own.take 1 ++ interleave rest own.tail parts
    else if isBodiless site.node then parts.headD [] ++ interleave rest own parts.tail
    else interleave rest own parts

/-- There is one of its own for each region among some sites, and one part for each module without a body. -/
inductive Fits {α β : Type} : List Site → List α → List β → Prop where
  | nil : Fits [] [] []
  | region {site : Site} {rest : List Site} {item : α} {own : List α} {parts : List β}
      (region : site.IsRegion) (fits : Fits rest own parts) : Fits (site :: rest) (item :: own) parts
  | bodiless {site : Site} {rest : List Site} {own : List α} {part : β} {parts : List β}
      (bodiless : isBodiless site.node = true) (fits : Fits rest own parts) :
      Fits (site :: rest) own (part :: parts)
  | other {site : Site} {rest : List Site} {own : List α} {parts : List β}
      (noRegion : ¬ site.IsRegion) (noModule : ¬ isBodiless site.node = true)
      (fits : Fits rest own parts) : Fits (site :: rest) own parts

theorem not_isRegion_of_isBodiless {site : Site} (bodiless : isBodiless site.node = true) :
    ¬ site.IsRegion := by
  simp [Site.IsRegion, type_of_isBodiless bodiless]

theorem not_isBodiless_of_isMacro {tree : Syntax.Tree} (calls : isMacro tree = true) :
    ¬ isBodiless tree = true := by
  intro bodiless
  simp [isMacro, type_of_isBodiless bodiless] at calls

section Laws

variable {α β : Type} {site : Site} {rest : List Site} {own : List α} {parts : List (List α)}

theorem interleave_region (region : site.IsRegion) (item : α) :
    interleave (site :: rest) (item :: own) parts = item :: interleave rest own parts := by
  rw [interleave, if_pos region]
  rfl

theorem interleave_bodiless (bodiless : isBodiless site.node = true) (part : List α) :
    interleave (site :: rest) own (part :: parts) = part ++ interleave rest own parts := by
  rw [interleave, if_neg (not_isRegion_of_isBodiless bodiless), if_pos bodiless]
  rfl

theorem interleave_other (noRegion : ¬ site.IsRegion) (noModule : ¬ isBodiless site.node = true) :
    interleave (site :: rest) own parts = interleave rest own parts := by
  rw [interleave, if_neg noRegion, if_neg noModule]

/-- What fits is as many as there are regions and modules. -/
theorem fits_of_length {sites : List Site} {parts : List β}
    (regions : own.length = sites.countP fun site => site.IsRegion)
    (modules : parts.length = sites.countP fun site => isBodiless site.node) :
    Fits sites own parts := by
  induction sites generalizing own parts with
  | nil =>
    obtain rfl := List.length_eq_zero_iff.mp regions
    obtain rfl := List.length_eq_zero_iff.mp modules
    exact .nil
  | cons site rest hypothesis =>
    rw [List.countP_cons] at regions modules
    by_cases region : site.IsRegion
    · have noModule : ¬ isBodiless site.node = true :=
        fun bodiless => not_isRegion_of_isBodiless bodiless region
      rw [if_pos (decide_eq_true region)] at regions
      rw [if_neg noModule] at modules
      obtain ⟨item, others, rfl⟩ := List.exists_cons_of_length_eq_add_one regions
      exact .region region (hypothesis (Nat.succ.inj regions) modules)
    · rw [if_neg (by simpa using region)] at regions
      by_cases bodiless : isBodiless site.node = true
      · rw [if_pos bodiless] at modules
        obtain ⟨part, others, rfl⟩ := List.exists_cons_of_length_eq_add_one modules
        exact .bodiless bodiless (hypothesis regions (Nat.succ.inj modules))
      · rw [if_neg bodiless] at modules
        exact .other region bodiless (hypothesis regions modules)

/-- What fits still does so when each part is replaced. -/
theorem Fits.map {γ : Type} {sites : List Site} {parts : List β} (fits : Fits sites own parts)
    (replace : β → γ) : Fits sites own (parts.map replace) := by
  induction fits with
  | nil => exact .nil
  | region region _ hypothesis => exact .region region hypothesis
  | bodiless bodiless _ hypothesis => exact .bodiless bodiless hypothesis
  | other noRegion noModule _ hypothesis => exact .other noRegion noModule hypothesis

/-- Interleaving goes along sites piece by piece. -/
theorem interleave_append {first second : List Site} (fits : Fits first own parts) (own' : List α)
    (parts' : List (List α)) :
    interleave (first ++ second) (own ++ own') (parts ++ parts')
      = interleave first own parts ++ interleave second own' parts' := by
  induction fits with
  | nil => rfl
  | region region _ hypothesis =>
    rw [List.cons_append, List.cons_append, interleave_region region, interleave_region region,
      hypothesis, List.cons_append]
  | bodiless bodiless _ hypothesis =>
    rw [List.cons_append, List.cons_append, interleave_bodiless bodiless,
      interleave_bodiless bodiless, hypothesis, List.append_assoc]
  | other noRegion noModule _ hypothesis =>
    rw [List.cons_append, interleave_other noRegion noModule, interleave_other noRegion noModule,
      hypothesis]

/-- Interleaving only changes the order. -/
theorem interleave_perm {sites : List Site} (fits : Fits sites own parts) :
    (interleave sites own parts).Perm (own ++ parts.flatten) := by
  induction fits with
  | nil => rfl
  | region region _ hypothesis =>
    rw [interleave_region region, List.cons_append]
    exact hypothesis.cons _
  | @bodiless _ _ own part parts bodiless _ hypothesis =>
    rw [interleave_bodiless bodiless, List.flatten_cons]
    exact (hypothesis.append_left part).trans (List.perm_append_comm_assoc part own parts.flatten)
  | other noRegion noModule _ hypothesis =>
    rw [interleave_other noRegion noModule]
    exact hypothesis

/-- What relates the members that are interleaved relates the results. -/
theorem interleave_rel {related : α → β → Prop} {sites : List Site} (fits : Fits sites own parts)
    {own' : List β} {parts' : List (List β)} (same : List.Forall₂ related own own')
    (sameParts : List.Forall₂ (List.Forall₂ related) parts parts') :
    List.Forall₂ related (interleave sites own parts) (interleave sites own' parts') := by
  induction fits generalizing own' parts' with
  | nil => exact .nil
  | region region _ hypothesis =>
    cases same with
    | cons first others =>
      rw [interleave_region region, interleave_region region]
      exact .cons first (hypothesis others sameParts)
  | bodiless bodiless _ hypothesis =>
    cases sameParts with
    | cons first others =>
      rw [interleave_bodiless bodiless, interleave_bodiless bodiless]
      exact List.rel_append first (hypothesis same others)
  | other noRegion noModule _ hypothesis =>
    rw [interleave_other noRegion noModule, interleave_other noRegion noModule]
    exact hypothesis same sameParts

end Laws

/-! ### Regions of a woven outline -/

/-- A tree has as many modules without a body as are shown. -/
theorem moduleCount_eq (above before : List Syntax.Tree) (tree : Syntax.Tree)
    (covered : ∀ site ∈ sitesFrom allOpen above before tree, Covers hides "mod_item" site) :
    moduleCount tree
      = (sitesFrom hides above before tree).countP fun site => isBodiless site.node := by
  have kept (site : Site) : isBodiless site.node = true → site.node.type = "mod_item" :=
    type_of_isBodiless
  have shown := filter_sitesFrom_eq kept above before tree covered
  have counted := declarations_eq_modulesAt .empty ⟨.here, []⟩ above before
    { directory := some (directoryBelow .empty ⟨.here, []⟩ above), before } tree rfl rfl
    fun site member => covers_isBodiless (covered site member)
  rw [List.countP_eq_length_filter, shown, ← length_declarations .empty _ tree, counted, modulesAt,
    List.length_map]

theorem length_regionExtents (base : Nat) (sites : List Site) :
    (regionExtents base sites).length = sites.countP fun site => site.IsRegion := by
  rw [regionExtents, List.length_map, List.countP_eq_length_filter]

mutual

/-- The regions of a woven outline are those of its tree with those of its modules in their places. -/
theorem regionsBelow_weave (data : ByteArray) (base : Nat) :
    (parts : List (List Node)) → (above before : List Syntax.Tree) → (tree : Syntax.Tree) →
      (∀ site ∈ sitesFrom allOpen above before tree, Covers hides "mod_item" site) →
      parts.length = moduleCount tree →
      (weave data base (.ofAbove above) parts tree).regionsBelow
        = interleave (sitesFrom hides above before tree)
            (regionExtents base (sitesFrom hides above before tree))
            (parts.map Node.regionsOfAll)
  | parts, above, before, .node head children, covered, length => by
    have own := region?_weave data base above before parts (.node head children)
    have kind : (weave data base (.ofAbove above) parts (.node head children)).kind.isOpaque
        = isMacro (.node head children) := isOpaque_kindOf data _ _
    have counted := moduleCount_eq above before (.node head children) covered
    rw [sitesFrom_allOpen, List.forall_mem_cons] at covered
    rw [sitesFrom] at counted ⊢
    rw [regionExtents_cons]
    by_cases macroTree : isMacro (.node head children) = true
    · have hidden : hides (.node head children) = true := by rw [hides, macroTree, Bool.true_or]
      have noRegion : ¬ (⟨above, before, .node head children⟩ : Site).IsRegion :=
        not_isRegion_of_isMacro macroTree
      rw [regionsBelow_of_isOpaque (kind.trans macroTree), if_pos hidden, if_neg noRegion,
        interleave_other noRegion (not_isBodiless_of_isMacro macroTree)]
      rfl
    · rw [regionsBelow_eq (by rw [kind]; exact macroTree), own, weave, Node.children]
      by_cases bodiless : isBodiless (.node head children) = true
      · have hidden : hides (.node head children) = true := by rw [hides, bodiless, Bool.or_true]
        have noRegion : ¬ (⟨above, before, .node head children⟩ : Site).IsRegion :=
          not_isRegion_of_isBodiless bodiless
        rw [if_pos hidden, List.countP_singleton, if_pos bodiless] at counted
        obtain ⟨part, rfl⟩ := List.length_eq_one_iff.mp (length.trans counted)
        rw [if_pos bodiless, if_pos hidden, if_neg noRegion, List.map_singleton,
          interleave_bodiless bodiless]
        simp [interleave]
      · have shown : ¬ hides (.node head children) = true := by simp [hides, macroTree, bodiless]
        have below := regionsOfAll_weaveAll data base parts (.node head children :: above) []
          children covered.2 (by rw [length, moduleCount, if_neg bodiless, Nat.add_zero])
        have around : (Surroundings.ofAbove above).below head.type
            = .ofAbove (.node head children :: above) := rfl
        rw [if_neg bodiless, if_neg shown, around, below]
        by_cases region : (⟨above, before, .node head children⟩ : Site).IsRegion
        · rw [if_pos region, List.singleton_append, List.singleton_append,
            interleave_region region]
        · rw [if_neg region, List.nil_append, List.nil_append, interleave_other region bodiless]

theorem regionsOfAll_weaveAll (data : ByteArray) (base : Nat) :
    (parts : List (List Node)) → (above before : List Syntax.Tree) → (trees : List Syntax.Tree) →
      (∀ site ∈ sitesBelow allOpen above before trees, Covers hides "mod_item" site) →
      parts.length = moduleCountOf trees →
      Node.regionsOfAll (weaveAll data base (.ofAbove above) parts trees)
        = interleave (sitesBelow hides above before trees)
            (regionExtents base (sitesBelow hides above before trees))
            (parts.map Node.regionsOfAll)
  | _, _, _, [], _, _ => rfl
  | parts, above, before, tree :: rest, covered, length => by
    rw [sitesBelow] at covered
    rw [moduleCountOf] at length
    rw [weaveAll, sitesBelow]
    by_cases named : tree.head.named = true
    · rw [if_pos named, List.forall_mem_append] at covered
      rw [if_pos named] at length
      have first : (parts.take (moduleCount tree)).length = moduleCount tree := by
        rw [List.length_take]
        omega
      have others : (parts.drop (moduleCount tree)).length = moduleCountOf rest := by
        rw [List.length_drop]
        omega
      rw [if_pos named, if_pos named, Node.regionsOfAll, regionExtents_append,
        regionsBelow_weave data base _ above before tree covered.1 first,
        regionsOfAll_weaveAll data base _ above (tree :: before) rest covered.2 others,
        ← interleave_append, ← List.map_append, List.take_append_drop]
      refine fits_of_length (length_regionExtents base _) ?_
      rw [List.length_map, first, moduleCount_eq above before tree covered.1]
    · rw [if_neg named] at covered length
      rw [if_neg named, if_neg named]
      exact regionsOfAll_weaveAll data base parts above before rest covered length

end

/-- The regions of the outline of a file are those it shows, with those of its modules in their places. -/
theorem regionsBelow_weave_shown {tree : Syntax.Tree} (covered : tree.HidesNoModule)
    (data : ByteArray) (base : Nat) {parts : List (List Node)}
    (length : parts.length = tree.shown.countP fun site => isBodiless site.node) :
    (weave data base {} parts tree).regionsBelow
      = interleave tree.shown (regionExtents base tree.shown) (parts.map Node.regionsOfAll) :=
  regionsBelow_weave data base parts [] [] tree covered
    (length.trans (moduleCount_eq [] [] tree covered).symm)

end UnsafeCensus.Crate
