/-
**The rows of a crate are the rows of its files.**

A file measured by itself has a row for each of its regions. A crate has the same rows: along the sites of a
file, its own rows are interleaved with all rows of each module in the place where this module is declared.
So the totals of a crate are the sums of the totals of its files, in whatever order these are declared.

* `metricsAlone`: the metrics of a file measured by itself;
* `Branch.rows`: the rows of a branch, put together from those of its files;
* `ofSource_eq_ok`: a file without a fault can be measured by itself;
* `rel_rows`: each region of a branch has its row;
* `rows_perm`: the rows of a branch are those of its files in another order;
* `ofFile_metrics`: the metrics of a crate.
-/

import Mathlib
import UnsafeCensus.Census.Survey
import UnsafeCensus.Proofs.Crate.Interleave
import UnsafeCensus.Proofs.Crate.Loading

namespace UnsafeCensus.Census

open Crate Outline Source Syntax

/-! ### Rows of one file -/

/-- The row of a node of a file. -/
def rowAt (name : String) (data : ByteArray) (head : Head) : Row :=
  .between (located name data head.start.toNat) (located name data head.stop.toNat)

/-- The rows of the regions of a file. -/
def rowsShown (name : String) (data : ByteArray) (concrete : Syntax.Tree) : List Row :=
  (concrete.shown.filter fun site => site.IsRegion).map fun site => rowAt name data site.node.head

variable {before after : Contents} {name : String} {data : ByteArray}

/-- A region has a row in a map of files. -/
def HasRow (files : Contents) (extent : Extent) (row : Row) : Prop :=
  Row.ofExtent (Map.ofFiles files) extent = .ok row

/-- The row between two distances of a file among others. -/
theorem hasRow_between (before after : Contents) (name : String) {first last : Nat} (ordered : first ≤ last)
    (bounded : last ≤ data.size) :
    HasRow (before ++ (name, data) :: after)
      ⟨span before + first, span before + last, Nat.add_le_add_left ordered _⟩
      (.between (located name data first) (located name data last)) := by
  have start := Map.resolve_ofFiles before after name (ordered.trans bounded)
  have stop := Map.resolve_ofFiles before after name bounded
  exact Row.ofExtent_eq_ok_iff.mpr ⟨_, _, start, stop, rfl⟩

/-- A node in range of a file among others has its row. -/
theorem hasRow_extentFrom {head : Head} (inRange : head.InRange data.size) :
    HasRow (before ++ (name, data) :: after) (extentFrom (span before) head)
      (rowAt name data head) := by
  obtain ⟨nonnegative, ordered, bounded⟩ := inRange
  have greatest : max head.start.toNat head.stop.toNat = head.stop.toNat :=
    Nat.max_eq_right (by omega)
  have within : head.start.toNat ≤ head.stop.toNat := by omega
  simp only [extentFrom, greatest]
  exact hasRow_between before after name within (Int.toNat_le.mpr bounded)

/-- The regions of a file among others have their rows. -/
theorem rel_rowsShown (before after : Contents) (name : String) {concrete : Syntax.Tree}
    (inRange : concrete.InRange data.size) :
    List.Forall₂ (HasRow (before ++ (name, data) :: after))
      (regionExtents (span before) concrete.shown) (rowsShown name data concrete) := by
  rw [regionExtents, rowsShown, List.forall₂_map_left_iff, List.forall₂_map_right_iff,
    List.forall₂_same]
  intro site member
  exact hasRow_extentFrom
    (inRange _ (mem_heads_of_mem_sitesFrom [] [] concrete (List.mem_of_mem_filter member)))

/-- A traversal succeeds exactly with the results of its members. -/
theorem mapM_eq_ok_iff {α β ε : Type} {visit : α → Except ε β} {items : List α} {results : List β} :
    items.mapM visit = .ok results ↔
      List.Forall₂ (fun item result => visit item = .ok result) items results := by
  induction items generalizing results with
  | nil => cases results <;> simp [pure, Except.pure]
  | cons item rest hypothesis =>
    rw [List.mapM_cons]
    cases first : visit item with
    | error failure => cases results <;> simp [bind, Except.bind, first]
    | ok value =>
      cases others : rest.mapM visit with
      | error failure => cases results <;> simp [bind, Except.bind, ← hypothesis, others]
      | ok values =>
        cases results <;>
          simp [bind, Except.bind, pure, Except.pure, first, ← hypothesis, others]

/-- What each item has for itself, all of them have in a list. -/
theorem exists_forall₂ {α β : Type} {tells : α → β → Prop} {items : List α}
    (each : ∀ item ∈ items, ∃ result, tells item result) :
    ∃ results, List.Forall₂ tells items results := by
  induction items with
  | nil => exact ⟨[], .nil⟩
  | cons item rest hypothesis =>
    rw [List.forall_mem_cons] at each
    obtain ⟨result, first⟩ := each.1
    obtain ⟨results, others⟩ := hypothesis each.2
    exact ⟨result :: results, .cons first others⟩

/-- Extents have metrics exactly when each of them has a row. -/
theorem ofRegions_eq_ok_iff {map : Map} {extents : List Extent} {metrics : Metrics} :
    Metrics.ofRegions map extents = .ok metrics ↔
      List.Forall₂ (fun extent row => Row.ofExtent map extent = .ok row) extents metrics.rows
        ∧ metrics.lineCount = some map.lineCount := by
  obtain ⟨rows, lineCount⟩ := metrics
  have resolved (rows : List Row) :
      extents.mapM (Row.resolvedBy map.resolver) = .ok rows ↔
        List.Forall₂ (fun extent row => Row.ofExtent map extent = .ok row) extents rows :=
    mapM_eq_ok_iff
  rw [Metrics.ofRegions, Metrics.resolvedBy, ← resolved]
  cases extents.mapM (Row.resolvedBy map.resolver) with
  | error failure => exact ⟨nofun, nofun⟩
  | ok found =>
    show Metrics.of found (some map.lineCount) = _ ↔ _
    rw [Metrics.of_natCast]
    simp [eq_comm]

/-- An outline has metrics exactly when all its regions have rows. -/
theorem ofOutline_eq_ok_iff {files : Contents} {node : Node} {metrics : Metrics} :
    Metrics.ofOutline (Map.ofFiles files) node = .ok metrics ↔
      List.Forall₂ (HasRow files) node.regionsBelow metrics.rows
        ∧ metrics.lineCount = some (Map.ofFiles files).lineCount := by
  rw [← regions_eq]
  exact ofRegions_eq_ok_iff

/-- Regions that all have rows give metrics. -/
theorem ofOutline_eq_ok {files : Contents} {node : Node} {rows : List Row}
    (same : List.Forall₂ (HasRow files) node.regionsBelow rows) :
    Metrics.ofOutline (Map.ofFiles files) node = .ok ⟨rows, some (Map.ofFiles files).lineCount⟩ :=
  ofOutline_eq_ok_iff.mpr ⟨same, rfl⟩

/-- The bare outline of a file among others has the rows of the file. -/
theorem ofOutline_bareOutline (before after : Contents) (name : String) {concrete : Syntax.Tree}
    (inRange : concrete.InRange data.size) :
    Metrics.ofOutline (Map.ofFiles (before ++ (name, data) :: after))
        (bareOutline data (span before) concrete)
      = .ok ⟨rowsShown name data concrete,
          some (Map.ofFiles (before ++ (name, data) :: after)).lineCount⟩ := by
  have rows := rel_rowsShown before after name inRange
  rw [← regionsBelow_bareOutline] at rows
  exact ofOutline_eq_ok rows

/-- The outline of a file measured by itself. -/
def outlineAlone (parser : Parser) (data : ByteArray) : Node :=
  weave data 0 {} (List.replicate (moduleCount (parser data)) []) (parser data)

/-- **A file without a fault** can be measured by itself. Its modules hold nothing then. -/
theorem ofSource_eq_ok {parser : Parser} (name : String)
    (ranged : ∀ data, (parser data).InRange data.size)
    (sound : (parser data).hasError = false) :
    Survey.ofSource parser name data
      = .ok ⟨⟨Map.ofFiles [(name, data)], outlineAlone parser data⟩,
          ⟨rowsShown name data (parser data), some (Map.ofFiles [(name, data)]).lineCount⟩⟩ := by
  have assembled : assembleSource parser name data
      = .ok ⟨Map.ofFiles [(name, data)], outlineAlone parser data⟩ := by
    have added : StateT.run (addSource parser (fun _ => pure []) name data none) (.ofFiles [] [])
        = .ok (outlineAlone parser data, .ofFiles [(name, data)] []) :=
      (run_addSource_eq_ok_iff ranged).mpr
        ⟨sound, _, by rw [mapM_pure_nil, length_declarations]; rfl, rfl⟩
    show (StateT.run (addSource parser (fun _ => pure []) name data none) (.ofFiles [] [])).map
      Assembly.ofLoaded = _
    rw [added]
    rfl
  have measured : Metrics.ofOutline (Map.ofFiles [(name, data)]) (outlineAlone parser data)
      = .ok ⟨rowsShown name data (parser data), some (Map.ofFiles [(name, data)]).lineCount⟩ :=
    ofOutline_bareOutline [] [] name (ranged data)
  simp only [Survey.ofSource, assembled, bind, Except.bind, Survey.ofAssembly, measured]
  rfl

/-! ### Rows of a branch -/

/-- The metrics of a file measured by itself. -/
def metricsAlone (parser : Parser) (file : String × ByteArray) : Metrics :=
  match Survey.ofSource parser file.1 file.2 with
  | .ok survey => survey.metrics
  | .error _ => ⟨[], none⟩

end UnsafeCensus.Census

namespace UnsafeCensus.Crate.Branch

open Census

mutual

/-- The rows of a branch: along the sites of its first file, the rows of this file by itself with all rows
of each module in its place. -/
def rows (parser : Parser) : Branch → List Row
  | mk path data modules =>
    interleave (parser data).shown (metricsAlone parser (path.text, data)).rows
      (rowsOfAll parser modules)

/-- The rows of several branches. -/
def rowsOfAll (parser : Parser) : List Branch → List (List Row)
  | [] => []
  | branch :: rest => rows parser branch :: rowsOfAll parser rest

end

theorem rowsOfAll_eq_map (parser : Parser) (branches : List Branch) :
    rowsOfAll parser branches = branches.map (rows parser) := by
  induction branches with
  | nil => rfl
  | cons branch rest hypothesis => rw [rowsOfAll, hypothesis, List.map_cons]

end UnsafeCensus.Crate.Branch

namespace UnsafeCensus.Census

open Crate Outline Source Syntax

variable {parser : Parser} {tree : Files.Tree} {before after : Contents}

theorem metricsAlone_eq (name : String) (ranged : ∀ data, (parser data).InRange data.size)
    {data : ByteArray} (sound : (parser data).hasError = false) :
    metricsAlone parser (name, data)
      = ⟨rowsShown name data (parser data), some (Map.ofFiles [(name, data)]).lineCount⟩ := by
  rw [metricsAlone, ofSource_eq_ok name ranged sound]

/-- A file shows as many modules as it declares. -/
theorem countP_shown_eq {data : ByteArray} (covered : (parser data).HidesNoModule)
    (directory : Files.Path) :
    (parser data).shown.countP (fun site => isBodiless site.node)
      = ((parser data).modules data directory).length := by
  rw [← declarations_eq_modules covered.flat, length_declarations]
  exact (moduleCount_eq [] [] (parser data) covered).symm

/-- The rows of a file and of its modules fit its sites. -/
theorem fits_shown (name : String) {data : ByteArray} (covered : (parser data).HidesNoModule)
    {directory file : Files.Path} {branches : List Branch}
    (standing : Branch.StandAll parser tree file ((parser data).modules data directory) branches) :
    Fits (parser data).shown (rowsShown name data (parser data)) branches := by
  refine fits_of_length ?_ ?_
  · rw [rowsShown, List.length_map, List.countP_eq_length_filter]
  · rw [← (Branch.standAll_iff.mp standing).length_eq, countP_shown_eq covered directory]

theorem length_outlines (parser : Parser) (start : Nat) (branches : List Branch) :
    (Branch.outlines parser start branches).length = branches.length := by
  induction branches generalizing start with
  | nil => rfl
  | cons branch rest hypothesis => rw [Branch.outlines, List.length_cons, hypothesis, List.length_cons]

mutual

/-- Each region of a branch that stands has its row. -/
theorem rel_rows (ranged : ∀ data, (parser data).InRange data.size)
    (covered : ∀ data, (parser data).HidesNoModule) (before after : Contents) :
    (directory : Files.Path) → (branch : Branch) → branch.Stands parser tree directory →
      List.Forall₂ (HasRow (before ++ branch.contents ++ after))
        (branch.outline parser (span before)).regionsBelow (branch.rows parser)
  | directory, .mk path data modules, standing => by
    obtain ⟨measurable, standing⟩ := standing
    have own := rel_rowsShown before (Branch.contentsAll modules ++ after) path.text (ranged data)
    have inner := rel_rowsOfAll ranged covered (before ++ [(path.text, data)]) after path
      ((parser data).modules data directory) modules standing
    have count : (Branch.outlines parser (span before + data.size + 1) modules).length
        = (parser data).shown.countP fun site => isBodiless site.node := by
      rw [length_outlines, ← (Branch.standAll_iff.mp standing).length_eq,
        countP_shown_eq (covered data) directory]
    have parts : ((Branch.outlines parser (span before + data.size + 1) modules).map
        fun node => [node]).map Node.regionsOfAll
          = (Branch.outlines parser (span before + data.size + 1) modules).map Node.regionsBelow := by
      rw [List.map_map]
      exact List.map_congr_left fun node _ => regionsOfAll_singleton node
    rw [span_append, span_cons, span_nil] at inner
    rw [Branch.outline, Branch.rows, metricsAlone_eq _ ranged measurable.sound, Branch.contents_mk,
      regionsBelow_weave_shown (covered data) data (span before) (by rw [List.length_map, count]),
      parts]
    refine interleave_rel (fits_of_length (length_regionExtents _ _) ?_) ?_ ?_
    · rw [List.length_map, count]
    · simpa only [List.append_assoc, List.cons_append] using own
    · simpa only [List.append_assoc, List.cons_append, List.nil_append, Nat.add_zero,
        Nat.add_assoc] using inner

theorem rel_rowsOfAll (ranged : ∀ data, (parser data).InRange data.size)
    (covered : ∀ data, (parser data).HidesNoModule) (before after : Contents) (file : Files.Path) :
    (declarations : List Declaration) → (branches : List Branch) →
      Branch.StandAll parser tree file declarations branches →
      List.Forall₂ (List.Forall₂ (HasRow (before ++ Branch.contentsAll branches ++ after)))
        ((Branch.outlines parser (span before) branches).map Node.regionsBelow)
        (Branch.rowsOfAll parser branches)
  | _, [], _ => .nil
  | [], _ :: _, standing => standing.elim
  | _ :: others, branch :: rest, standing => by
    obtain ⟨⟨_, standing⟩, standingRest⟩ := standing
    have first := rel_rows ranged covered before (Branch.contentsAll rest ++ after)
      _ branch standing
    have more := rel_rowsOfAll ranged covered (before ++ branch.contents) after file others rest
      standingRest
    rw [span_append] at more
    rw [Branch.outlines, Branch.rowsOfAll, Branch.contentsAll_cons]
    refine .cons ?_ ?_
    · simpa only [List.append_assoc] using first
    · simpa only [List.append_assoc] using more

end

/-! ### Totals -/

mutual

/-- The rows of a branch that stands are those of its files, in another order. -/
theorem rows_perm (ranged : ∀ data, (parser data).InRange data.size)
    (covered : ∀ data, (parser data).HidesNoModule) :
    (directory : Files.Path) → (branch : Branch) → branch.Stands parser tree directory →
      (branch.rows parser).Perm
        (branch.contents.flatMap fun file => (metricsAlone parser file).rows)
  | directory, .mk path data modules, standing => by
    obtain ⟨measurable, standing⟩ := standing
    have fits := (fits_shown path.text (covered data) standing).map (Branch.rows parser)
    rw [← Branch.rowsOfAll_eq_map] at fits
    rw [Branch.rows, Branch.contents_mk, List.flatMap_cons, metricsAlone_eq _ ranged measurable.sound]
    exact (interleave_perm fits).trans
      ((rowsOfAll_perm ranged covered path _ modules standing).append_left _)

theorem rowsOfAll_perm (ranged : ∀ data, (parser data).InRange data.size)
    (covered : ∀ data, (parser data).HidesNoModule) (file : Files.Path) :
    (declarations : List Declaration) → (branches : List Branch) →
      Branch.StandAll parser tree file declarations branches →
      (Branch.rowsOfAll parser branches).flatten.Perm
        ((Branch.contentsAll branches).flatMap fun file => (metricsAlone parser file).rows)
  | _, [], _ => .refl _
  | [], _ :: _, standing => standing.elim
  | _ :: others, branch :: rest, standing => by
    rw [Branch.rowsOfAll, Branch.contentsAll_cons, List.flatten_cons, List.flatMap_append]
    exact (rows_perm ranged covered _ branch standing.1.2).append
      (rowsOfAll_perm ranged covered file others rest standing.2)

end

/-- The lines of a file measured by itself, and those of its rows. -/
def totalsAlone (parser : Parser) (file : String × ByteArray) : Nat × Nat :=
  ((metricsAlone parser file).lineCount.getD 0, (metricsAlone parser file).unsafeLines)

theorem unsafeLines_eq_sum (metrics : Metrics) :
    metrics.unsafeLines = (metrics.rows.map Row.lineCount).sum := rfl

/-- The lines of the rows of several files are the sum of those of each. -/
theorem sum_lineCount_flatMap (parser : Parser) (files : Contents) :
    ((files.flatMap fun file => (metricsAlone parser file).rows).map Row.lineCount).sum
      = ((files.map (totalsAlone parser)).map Prod.snd).sum := by
  induction files with
  | nil => rfl
  | cons file rest hypothesis =>
    rw [List.flatMap_cons, List.map_append, List.sum_append, hypothesis]
    rfl

/-- A crate is surveyed when it is assembled and its outline is measured. -/
theorem ofFile_eq_ok_iff {follows : Bool} {root : Files.Path} {survey : Survey} :
    Survey.ofFile parser tree follows root = .ok survey ↔
      assemble parser tree follows root = .ok survey.assembly
        ∧ Metrics.ofOutline survey.assembly.map survey.assembly.outline = .ok survey.metrics := by
  obtain ⟨assembly, metrics⟩ := survey
  rw [Survey.ofFile]
  cases assemble parser tree follows root with
  | error failure => exact ⟨nofun, nofun⟩
  | ok found =>
    show Survey.ofAssembly found = .ok ⟨assembly, metrics⟩ ↔ _
    rw [Survey.ofAssembly]
    cases measured : Metrics.ofOutline found.map found.outline with
    | error failure =>
      refine ⟨nofun, ?_⟩
      rintro ⟨⟨⟩, measured'⟩
      rw [measured] at measured'
      cases measured'
    | ok counted =>
      constructor
      · rintro ⟨⟩
        exact ⟨rfl, measured⟩
      · rintro ⟨⟨⟩, measured'⟩
        rw [measured] at measured'
        cases measured'
        rfl

/-- A file of a branch that stands can be measured by itself, with a row for each of its regions and a branch
for each of its modules. -/
theorem alone_of_mem_preorder (inner : Branch) (ranged : ∀ data, (parser data).InRange data.size)
    (covered : ∀ data, (parser data).HidesNoModule) {directory : Files.Path}
    {branch : Branch} (standing : branch.Stands parser tree directory)
    (member : inner ∈ branch.preorder) :
    (∃ alone, Survey.ofSource parser inner.path.text inner.data = .ok alone
        ∧ metricsAlone parser inner.file = alone.metrics)
      ∧ Fits (parser inner.data).shown (metricsAlone parser inner.file).rows inner.modules
      ∧ (metricsAlone parser inner.file).lineCount = some (Map.ofFiles [inner.file]).lineCount := by
  obtain ⟨directory, standing⟩ := Branch.stands_of_mem_preorder directory branch standing member
  cases inner with
  | mk path data modules =>
    obtain ⟨measurable, standing⟩ := standing
    have alone := ofSource_eq_ok path.text ranged measurable.sound
    have metrics : metricsAlone parser (Branch.mk path data modules).file = _ :=
      metricsAlone_eq path.text ranged measurable.sound
    rw [metrics]
    exact ⟨⟨_, alone, rfl⟩, fits_shown _ (covered data) standing, rfl⟩

/-- **The metrics of a crate.** Its rows are those of the files of a branch that stands at the root file, each
measured by itself, with the rows of each module in the place where it is declared. Its totals are the sums of
the totals of these files, in any order. -/
theorem ofFile_metrics (ranged : ∀ data, (parser data).InRange data.size)
    (covered : ∀ data, (parser data).HidesNoModule) {root : Files.Path} {survey : Survey}
    (done : Survey.ofFile parser tree true root = .ok survey) :
    ∃ branch : Branch, branch.path = root ∧ branch.Stands parser tree root.parent
      ∧ survey.assembly.map = Map.ofFiles branch.contents
      ∧ (∀ inner ∈ branch.preorder,
          (∃ alone, Survey.ofSource parser inner.path.text inner.data = .ok alone
            ∧ metricsAlone parser inner.file = alone.metrics)
          ∧ Fits (parser inner.data).shown (metricsAlone parser inner.file).rows inner.modules)
      ∧ survey.metrics.rows = branch.rows parser
      ∧ ∀ totals : List (Nat × Nat), totals.Perm (branch.contents.map (totalsAlone parser)) →
          survey.metrics.lineCount = some (totals.map Prod.fst).sum
            ∧ survey.metrics.unsafeLines = (totals.map Prod.snd).sum := by
  obtain ⟨assembly, metrics⟩ := survey
  obtain ⟨found, measured⟩ := ofFile_eq_ok_iff.mp done
  obtain ⟨branch, rooted, standing, _, _, rfl⟩ :=
    (assemble_eq_ok_iff ranged fun data => (covered data).flat).mp found
  have rows := rel_rows ranged covered [] [] root.parent branch standing
  rw [List.nil_append, List.append_nil, span_nil] at rows
  obtain rfl := Except.ok.inj ((ofOutline_eq_ok rows).symm.trans measured)
  have alone := fun inner => alone_of_mem_preorder inner ranged covered standing
  refine ⟨branch, rooted, standing, rfl, fun inner member => ?_, rfl, fun totals perm => ⟨?_, ?_⟩⟩
  · obtain ⟨measurable, fits, _⟩ := alone inner member
    exact ⟨measurable, fits⟩
  · have lines : branch.contents.map (fun file => (Map.ofFiles [file]).lineCount)
        = (branch.contents.map (totalsAlone parser)).map Prod.fst := by
      rw [Branch.contents, List.map_map, List.map_map, List.map_map]
      refine List.map_congr_left fun inner member => ?_
      obtain ⟨_, _, lines⟩ := alone inner member
      simp [totalsAlone, lines]
    rw [Map.lineCount_ofFiles, lines, (perm.map Prod.fst).sum_eq]
  · rw [unsafeLines_eq_sum, ((rows_perm ranged covered _ branch standing).map Row.lineCount).sum_eq,
      sum_lineCount_flatMap, (perm.map Prod.snd).sum_eq]

/-- The row of the module inside another comes before that of the function after it. -/
theorem ofFile_metrics_nested :
    (∀ data, (nestedParser data).InRange data.size) ∧ (∀ data, (nestedParser data).HidesNoModule) ∧
      ∃ survey, Survey.ofFile nestedParser nestedFiles true (.ofText "main.rs") = .ok survey ∧
        ∃ branch : Branch, branch.contents.map Prod.fst = ["main.rs", "a/b.rs", "c/mod.rs"]
          ∧ survey.metrics.rows = branch.rows nestedParser
          ∧ survey.metrics.rows.map Row.text = ["a/b.rs:1:0-2:1  1", "main.rs:2:0-2:16  1"]
          ∧ survey.metrics.lineCount = some 5 ∧ survey.metrics.unsafeLines = 2 := by
  refine ⟨inRange_nestedParser, hidesNoModule_nestedParser, ?_⟩
  have computed : (Survey.ofFile nestedParser nestedFiles true (.ofText "main.rs")).toOption.map
      (fun survey => (survey.assembly.map.names, survey.metrics.rows.map Row.text,
        survey.metrics.lineCount, survey.metrics.unsafeLines))
      = some (["main.rs", "a/b.rs", "c/mod.rs"], ["a/b.rs:1:0-2:1  1", "main.rs:2:0-2:16  1"],
          some 5, 2) := by
    decide +kernel
  obtain ⟨survey, done, known⟩ := exists_of_toOption_map_eq_some computed
  simp only [Prod.mk.injEq] at known
  obtain ⟨names, texts, lines, unsafeLines⟩ := known
  obtain ⟨branch, _, _, map, _, rows, _⟩ :=
    ofFile_metrics inRange_nestedParser hidesNoModule_nestedParser done
  rw [map, Map.names_ofFiles] at names
  exact ⟨survey, done, branch, names, rows, texts, lines, unsafeLines⟩

end UnsafeCensus.Census
