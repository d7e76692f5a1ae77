/-
**Options and the path after them.**

Options are read in the same way whatever path comes after them, and each is put into an inquiry apart from
the others. So leaving modules out by an option before all others changes nothing else of an inquiry. A limit
that is put into an inquiry is not below zero.

* `Arguments.read_concat`, `Arguments.read_unmixed`: a further argument that is no option comes after all
  others;
* `Arguments.filter_foldl_put`: the options of one kind, apart from the others;
* `Inquiry.foldlM_withGiven`, `Inquiry.foldlM_filter_limit`: the option that leaves modules out, and limits,
  change nothing else of an inquiry;
* `optionsOf_alone`: what it does before all others;
* `ofCommand_eq_elim`, `ofArguments_eq_elim`: help and the version come before all else;
* `ofArguments_concat`, `ofArguments_alone`: what is asked for by some options and a path;
* `Calls`, `ofArguments_eq_measure`: what a request to measure was read from;
* `limitAllowed_of_ofArguments`: the limit of what is asked for;
* `SameButLimit`, `inquiry_eq_of_sameButLimit`: arguments that differ in a limit.
-/

import Mathlib
import UnsafeCensus.Console.Request
import UnsafeCensus.Proofs.Attempt
import UnsafeCensus.Proofs.Console.Effective
import UnsafeCensus.Proofs.Files.Walk

namespace UnsafeCensus.Console

open Files

namespace Arguments

variable {switches : List Switch} {options : List String} {path : String} {given : Arguments}

theorem ne_dashes_of_plain (plain : isOption path = false) : ¬ (path == "--") = true := by
  intro dashes
  rw [beq_iff_eq.mp dashes] at plain
  cases plain

/-- A further argument that is no option comes after all others. -/
theorem read_concat (plain : isOption path = false)
    (done : read switches true options = .ok given) :
    read switches true (options ++ [path]) = .ok { given with rest := given.rest ++ [path] } := by
  fun_induction read switches true options generalizing given with
  | case1 =>
    cases done
    rw [List.nil_append, read, if_neg (ne_dashes_of_plain plain), plain]
    rfl
  | case2 _ rest dashes =>
    cases done
    rw [List.cons_append, read, if_pos dashes]
  | case3 first rest proper option misuse found => cases done
  | case4 first rest proper option some found hypothesis =>
    obtain ⟨others, more, rfl⟩ := map_eq_ok_iff.mp done
    rw [List.cons_append, read, if_neg proper, if_pos option, found]
    exact map_eq_ok_iff.mpr ⟨_, hypothesis more, rfl⟩
  | case5 first proper option some last name found => cases done
  | case6 first proper option some last name found value rest hypothesis =>
    obtain ⟨others, more, rfl⟩ := map_eq_ok_iff.mp done
    rw [List.cons_append, read, if_neg proper, if_pos option, found]
    exact map_eq_ok_iff.mpr ⟨_, hypothesis more, rfl⟩
  | case7 first rest proper argument mixed hypothesis =>
    obtain ⟨others, more, rfl⟩ := map_eq_ok_iff.mp done
    rw [List.cons_append, read, if_neg proper, if_neg argument, if_pos mixed]
    exact map_eq_ok_iff.mpr ⟨_, hypothesis more, rfl⟩
  | case8 first rest proper plain unmixed => exact absurd rfl unmixed

/-- The first argument that is no option ends the options, and all arguments after it are left. -/
theorem read_unmixed {name : String} {more : List String} (plain : isOption name = false)
    (done : read switches false options = .ok given) (bare : given.rest = []) :
    read switches false (options ++ name :: more) = .ok { given with rest := name :: more } := by
  fun_induction read switches false options generalizing given with
  | case1 =>
    cases done
    rw [List.nil_append, read, if_neg (ne_dashes_of_plain plain), plain]
    rfl
  | case2 first rest dashes =>
    cases done
    obtain rfl : rest = [] := bare
    rw [List.cons_append, read, if_pos dashes]
    rfl
  | case3 first rest proper option misuse found => cases done
  | case4 first rest proper option some found hypothesis =>
    obtain ⟨others, more, rfl⟩ := map_eq_ok_iff.mp done
    rw [List.cons_append, read, if_neg proper, if_pos option, found]
    exact map_eq_ok_iff.mpr ⟨_, hypothesis more bare, rfl⟩
  | case5 first proper option some last name found => cases done
  | case6 first proper option some last name found value rest hypothesis =>
    obtain ⟨others, more, rfl⟩ := map_eq_ok_iff.mp done
    rw [List.cons_append, read, if_neg proper, if_pos option, found]
    exact map_eq_ok_iff.mpr ⟨_, hypothesis more bare, rfl⟩
  | case7 first rest proper argument mixed => cases mixed
  | case8 first rest proper argument unmixed =>
    cases done
    cases bare

/-- An option of a flag before all others is read first. -/
theorem read_flag {name : String} {switch : Switch} (proper : ¬ (name == "--") = true)
    (option : isOption name = true)
    (found : Found.ofArgument switches name = .ok (.complete [(switch, "")]))
    (done : read switches true options = .ok given) :
    read switches true (name :: options) = .ok (given.withGiven [(switch, "")]) := by
  rw [read, if_neg proper, if_pos option, found]
  exact map_eq_ok_iff.mpr ⟨given, done, rfl⟩

/-! ### Each option once -/

/-- An option, or another of the same kind in its place. -/
def replaced (entry earlier : Given) : Given :=
  if earlier.1 == entry.1 then entry else earlier

@[simp]
theorem replaced_fst (entry earlier : Given) : (replaced entry earlier).1 = earlier.1 := by
  by_cases same : (earlier.1 == entry.1) = true
  · rw [replaced, if_pos same]
    exact (beq_iff_eq.mp same).symm
  · rw [replaced, if_neg same]

/-- The options after one more, in the place of an earlier one if there is one. -/
def put (done : List Given) (entry : Given) : List Given :=
  if done.any fun earlier => earlier.1 == entry.1 then done.map (replaced entry) else done ++ [entry]

theorem settled_eq_foldl (arguments : Arguments) : arguments.settled = arguments.given.foldl put [] :=
  rfl

/-- Whether an option is of another kind. -/
def isOther (switch : Switch) (entry : Given) : Bool :=
  entry.1 != switch

theorem filter_replaced (switch : Switch) (done : List Given) (entry : Given) :
    (done.map (replaced entry)).filter (isOther switch)
      = (done.filter (isOther switch)).map (replaced entry) := by
  have kind : isOther switch ∘ replaced entry = isOther switch := by
    funext earlier
    rw [Function.comp_apply, isOther, replaced_fst, isOther]
  rw [List.filter_map, kind]

theorem filter_put_self (done : List Given) (entry : Given) :
    (put done entry).filter (isOther entry.1) = done.filter (isOther entry.1) := by
  have kept : (done.filter (isOther entry.1)).map (replaced entry)
      = done.filter (isOther entry.1) := by
    refine (List.map_congr_left fun earlier member => ?_).trans (List.map_id _)
    have other : earlier.1 ≠ entry.1 := by simpa [isOther] using List.of_mem_filter member
    rw [replaced, if_neg (by simpa using other), id]
  rw [put]
  split
  · rw [filter_replaced, kept]
  · simp [isOther]

theorem filter_put_other {switch : Switch} (done : List Given) {entry : Given}
    (other : entry.1 ≠ switch) :
    (put done entry).filter (isOther switch) = put (done.filter (isOther switch)) entry := by
  have known : ((done.filter (isOther switch)).any fun earlier => earlier.1 == entry.1)
      = done.any fun earlier => earlier.1 == entry.1 := by
    have kind (earlier : Given) :
        (isOther switch earlier && (earlier.1 == entry.1)) = (earlier.1 == entry.1) := by
      by_cases same : earlier.1 = entry.1 <;> simp [isOther, same, other]
    rw [List.any_filter]
    exact congrArg (fun holds => done.any holds) (funext kind)
  rw [put, put, known]
  split
  · exact filter_replaced switch done entry
  · simp [isOther, other]

/-- Among the options that were put one after another, those of other kinds are the same wherever an option of
a kind is given. -/
theorem filter_foldl_put (switch : Switch) (done given : List Given) :
    (given.foldl put done).filter (isOther switch)
      = (given.filter (isOther switch)).foldl put (done.filter (isOther switch)) := by
  induction given generalizing done with
  | nil => rfl
  | cons entry rest hypothesis =>
    rw [List.foldl_cons, hypothesis]
    by_cases same : entry.1 = switch
    · subst same
      rw [List.filter_cons_of_neg (by simp [isOther]), filter_put_self]
    · rw [List.filter_cons_of_pos (by simp [isOther, same]), List.foldl_cons,
        filter_put_other done same]

/-- The options of other kinds, each once, are those of the options of other kinds. -/
theorem filter_settled (switch : Switch) (arguments : Arguments) :
    arguments.settled.filter (isOther switch)
      = (arguments.given.filter (isOther switch)).foldl put [] := by
  rw [settled_eq_foldl, filter_foldl_put, List.filter_nil]

theorem any_put {done : List Given} {entry : Given} {switch : Switch}
    (there : (done.any fun earlier => earlier.1 == switch) = true) :
    ((put done entry).any fun earlier => earlier.1 == switch) = true := by
  rw [put]
  split
  · simpa [List.any_map, Function.comp_def] using there
  · rw [List.any_append, there, Bool.true_or]

theorem any_foldl_put {done given : List Given} {switch : Switch}
    (there : (done.any fun earlier => earlier.1 == switch) = true) :
    ((given.foldl put done).any fun earlier => earlier.1 == switch) = true := by
  induction given generalizing done with
  | nil => exact there
  | cons entry rest hypothesis => exact hypothesis (any_put there)

end Arguments

namespace Inquiry

variable {tree : Tree} {command : Command}

/-- A change of an inquiry is up to one kind of option: those of other kinds are put into the inquiry whatever
the change was. -/
def UpTo (switch : Switch) (change : Inquiry → Inquiry) : Prop :=
  ∀ (tree : Tree) (command : Command) (inquiry : Inquiry) (entry : Given), entry.1 ≠ switch →
    withGiven tree command (change inquiry) entry = (withGiven tree command inquiry entry).map change

theorem upTo_withAlone (alone : Bool) : UpTo .alone (withAlone alone) := by
  intro tree command inquiry ⟨switch, value⟩ other
  cases switch with
  | format =>
    show (formatOf command value >>= fun _ => _) = (formatOf command value >>= fun _ => _).map _
    cases formatOf command value <;> rfl
  | limit =>
    show (limitOf command value >>= fun _ => _) = (limitOf command value >>= fun _ => _).map _
    cases limitOf command value <;> rfl
  | settings =>
    show (checkFile tree command _ value true >>= fun _ => _)
      = (checkFile tree command _ value true >>= fun _ => _).map _
    cases checkFile tree command _ value true <;> rfl
  | alone => exact absurd rfl other
  | _ => rfl

theorem upTo_withLimit (limit : Option Binary64) : UpTo .limit (withLimit limit) := by
  intro tree command inquiry ⟨switch, value⟩ other
  cases switch with
  | format =>
    show (formatOf command value >>= fun _ => _) = (formatOf command value >>= fun _ => _).map _
    cases formatOf command value <;> rfl
  | limit => exact absurd rfl other
  | settings =>
    show (checkFile tree command _ value true >>= fun _ => _)
      = (checkFile tree command _ value true >>= fun _ => _).map _
    cases checkFile tree command _ value true <;> rfl
  | _ => rfl

/-- Options of other kinds are put into an inquiry whatever a change that is not up to them was. -/
theorem UpTo.foldlM {switch : Switch} {change : Inquiry → Inquiry} (upTo : UpTo switch change)
    (entries : List Given) (inquiry : Inquiry) :
    (entries.filter (Arguments.isOther switch)).foldlM (withGiven tree command) (change inquiry)
      = ((entries.filter (Arguments.isOther switch)).foldlM (withGiven tree command) inquiry).map
          change := by
  induction entries generalizing inquiry with
  | nil => rfl
  | cons entry rest hypothesis =>
    by_cases same : entry.1 = switch
    · rw [List.filter_cons_of_neg (by simp [Arguments.isOther, same])]
      exact hypothesis inquiry
    · rw [List.filter_cons_of_pos (by simp [Arguments.isOther, same]), List.foldlM_cons,
        List.foldlM_cons, upTo tree command inquiry entry same]
      cases withGiven tree command inquiry entry with
      | error stop => rfl
      | ok changed => exact hypothesis changed

/-- Whether modules are left out is up to one option, and all else up to the others. -/
theorem foldlM_withGiven (entries : List Given) (inquiry : Inquiry) (alone : Bool) :
    entries.foldlM (withGiven tree command) (inquiry.withAlone alone)
      = ((entries.filter (Arguments.isOther .alone)).foldlM (withGiven tree command) inquiry).map
          (withAlone (alone || entries.any fun entry => entry.1 == .alone)) := by
  induction entries generalizing inquiry alone with
  | nil =>
    rw [List.any_nil, Bool.or_false]
    rfl
  | cons entry rest hypothesis =>
    rw [List.foldlM_cons, List.any_cons]
    by_cases left : entry.1 = .alone
    -- From here on modules are left out, whatever is given after it.
    · obtain ⟨switch, value⟩ := entry
      cases left
      rw [List.filter_cons_of_neg (by simp [Arguments.isOther])]
      show rest.foldlM (withGiven tree command) (inquiry.withAlone true) = _
      rw [hypothesis]
      simp
    · rw [List.filter_cons_of_pos (by simp [Arguments.isOther, left]), List.foldlM_cons,
        upTo_withAlone alone tree command inquiry entry left]
      cases withGiven tree command inquiry entry with
      | error stop => rfl
      | ok changed =>
        show rest.foldlM (withGiven tree command) (changed.withAlone alone) = Except.map _ _
        rw [hypothesis, beq_false_of_ne left, Bool.false_or]
        rfl

/-- Limits that are accepted change the limit of an inquiry alone. -/
theorem foldlM_filter_limit {entries : List Given} {inquiry made : Inquiry}
    (done : entries.foldlM (withGiven tree command) inquiry = .ok made) :
    (entries.filter (Arguments.isOther .limit)).foldlM (withGiven tree command) inquiry
      = .ok (made.withLimit inquiry.limit) := by
  induction entries generalizing inquiry with
  | nil =>
    cases done
    rfl
  | cons entry rest hypothesis =>
    rw [List.foldlM_cons] at done
    obtain ⟨changed, first, done⟩ := bind_eq_ok_iff.mp done
    have others := hypothesis done
    by_cases limited : entry.1 = .limit
    · obtain ⟨switch, value⟩ := entry
      cases limited
      rw [List.filter_cons_of_neg (by simp [Arguments.isOther])]
      obtain ⟨limit, _, same⟩ := bind_eq_ok_iff.mp first
      cases same
      -- What the limit before this one was does not matter to the options that are left.
      have before : inquiry = ({ inquiry with limit := some limit } : Inquiry).withLimit inquiry.limit :=
        rfl
      rw [before, (upTo_withLimit inquiry.limit).foldlM, others]
      rfl
    · rw [List.filter_cons_of_pos (by simp [Arguments.isOther, limited]), List.foldlM_cons, first]
      have kept : changed.limit = inquiry.limit := by
        have same := upTo_withLimit inquiry.limit tree command inquiry entry limited
        have whole : inquiry.withLimit inquiry.limit = inquiry := rfl
        rw [whole, first] at same
        have same : changed = changed.withLimit inquiry.limit := Except.ok.inj same
        have limits := congrArg Inquiry.limit same
        exact limits
      rw [kept] at others
      exact others

end Inquiry

/-- The inquiry of some options, without a path. -/
def optionsOf (tree : Tree) (command : Command) (arguments : Arguments) : Except Stop Inquiry :=
  arguments.settled.foldlM (Inquiry.withGiven tree command) {}

/-- An option before all others that leaves modules out does nothing else. -/
theorem optionsOf_alone (tree : Tree) (command : Command) (given : Arguments) (value : String) :
    optionsOf tree command (given.withGiven [(.alone, value)])
      = (optionsOf tree command given).map (Inquiry.withAlone true) := by
  have others : (given.withGiven [(.alone, value)]).settled.filter (Arguments.isOther .alone)
      = given.settled.filter (Arguments.isOther .alone) := by
    rw [Arguments.filter_settled, Arguments.filter_settled]
    rfl
  have left : ((given.withGiven [(.alone, value)]).settled.any fun entry => entry.1 == .alone)
      = true := by
    rw [Arguments.settled_eq_foldl]
    show ((given.given.foldl Arguments.put [(.alone, value)]).any _) = true
    exact Arguments.any_foldl_put rfl
  have empty : ({} : Inquiry) = Inquiry.withAlone false {} := rfl
  rw [optionsOf, optionsOf, empty, Inquiry.foldlM_withGiven, Inquiry.foldlM_withGiven, others, left]
  cases (given.settled.filter (Arguments.isOther .alone)).foldlM (Inquiry.withGiven tree command) {} <;>
    rfl

/-! ### Requests to measure -/

/-- The commands that measure, by their names. -/
inductive Measures : String → Command → Prop
  | count : Measures "count" .count
  | spans : Measures "spans" .spans

variable {tree : Tree} {command : Command} {name path : String} {options : List String}
  {given : Arguments}

/-- A path to what can be read is taken. -/
theorem checkFile_of_read {data : ByteArray} (plain : '\x00' ∉ path.toList)
    (file : tree.read path = .ok data) : checkFile tree command "PATH" path false = .ok () := by
  obtain ⟨place, entry, there, reads⟩ := Tree.read_eq_ok_iff.mp file
  have known : entryAt tree path = .ok (some entry) := by
    rw [entryAt, if_neg (by simpa using plain), there]
    rfl
  rw [checkFile, known]
  cases reads <;> rfl

/-- Before all that a command measures come help and the version. -/
theorem ofCommand_eq_elim (proper : command ≠ .initialise)
    (reads : Arguments.read command.switches true options = .ok given) :
    Request.ofCommand tree command options
      = (Request.early? command given).elim
          ((inquiryOf tree command given).map fun inquiry => .measure inquiry (command = .spans))
          .ok := by
  have arguments : Request.argumentsOf command true options = .ok given := by
    rw [Request.argumentsOf, reads]
    rfl
  rw [Request.ofCommand, arguments]
  simp only [bind, Except.bind]
  cases Request.early? command given with
  | some request => rfl
  | none =>
    simp only [if_neg proper]
    cases inquiryOf tree command given <;> rfl

/-- Before the command that is called come the help and the version of the program. -/
theorem ofArguments_eq_elim {arguments : List String}
    (leads : Arguments.read Command.program.switches false arguments = .ok given)
    (rest : given.rest = name :: options) (called : Command.ofName? name = some command) :
    Request.ofArguments tree arguments
      = (Request.early? .program given).elim (Request.ofCommand tree command options) .ok := by
  have own : Request.argumentsOf .program false arguments = .ok given := by
    rw [Request.argumentsOf, leads]
    rfl
  rw [Request.ofArguments, own]
  simp only [bind, Except.bind, rest]
  cases Request.early? .program given with
  | some request => rfl
  | none => simp only [called, Option.elim]

/-- The request of a command that measures, for options that were read and a path. -/
def requestOf (tree : Tree) (command : Command) (given : Arguments) (path : String) :
    Except Stop Request :=
  (Request.early? command given).elim
    ((optionsOf tree command given).map fun inquiry =>
      .measure { inquiry with path } (command = .spans))
    .ok

theorem inquiryOf_path (taken : path ≠ standardInput → checkFile tree command "PATH" path false = .ok ()) :
    inquiryOf tree command { given with rest := [path] }
      = (optionsOf tree command given).map fun inquiry => { inquiry with path } := by
  rw [inquiryOf]
  show (optionsOf tree command given >>= _) = Except.map _ _
  cases optionsOf tree command given with
  | error stop => rfl
  | ok inquiry =>
    by_cases input : path = standardInput
    · subst input
      rfl
    · have other : (path != standardInput) = true := by simpa using input
      simp only [bind, Except.bind, if_pos other, taken input]
      rfl

/-- What is asked for by a command that measures, by some options and by a path. -/
theorem ofArguments_eq_requestOf (measures : Measures name command)
    (read : Arguments.read command.switches true options = .ok { given with rest := [path] })
    (taken : path ≠ standardInput → checkFile tree command "PATH" path false = .ok ()) :
    Request.ofArguments tree (name :: options) = requestOf tree command given path := by
  have own : Request.ofArguments tree (name :: options) = Request.ofCommand tree command options := by
    cases measures <;> rfl
  have proper : command ≠ .initialise := by cases measures <;> decide
  rw [own, ofCommand_eq_elim proper read, inquiryOf_path taken, requestOf]
  cases optionsOf tree command given <;> rfl

/-- What is asked for when an argument comes after some options. -/
theorem ofArguments_concat (measures : Measures name command)
    (read : Arguments.read command.switches true options = .ok given) (bare : given.rest = [])
    (plain : Arguments.isOption path = false)
    (taken : path ≠ standardInput → checkFile tree command "PATH" path false = .ok ()) :
    Request.ofArguments tree (name :: (options ++ [path])) = requestOf tree command given path := by
  have whole := Arguments.read_concat plain read
  rw [bare] at whole
  exact ofArguments_eq_requestOf measures whole taken

/-- What is asked for when modules are left out before these options. -/
theorem ofArguments_alone (measures : Measures name command)
    (read : Arguments.read command.switches true options = .ok given) (bare : given.rest = [])
    (plain : Arguments.isOption path = false)
    (taken : path ≠ standardInput → checkFile tree command "PATH" path false = .ok ()) :
    Request.ofArguments tree (name :: "--no-follow-modules" :: (options ++ [path]))
      = requestOf tree command (given.withGiven [(.alone, "")]) path := by
  have found : Found.ofArgument command.switches "--no-follow-modules"
      = .ok (.complete [(.alone, "")]) := by
    cases measures <;> rfl
  have whole := Arguments.read_concat plain
    (Arguments.read_flag (by decide) (by decide) found read)
  have rest : (given.withGiven [(.alone, "")]).rest = [] := bare
  rw [rest] at whole
  exact ofArguments_eq_requestOf measures whole taken

/-! ### What is asked for has an allowed limit -/

namespace Inquiry

theorem limitOf_eq_ok {value : String} {limit : Binary64} (done : limitOf command value = .ok limit) :
    (Amount.real limit).below (.whole 0) = false := by
  rw [limitOf] at done
  cases read : Literal.read? value with
  | none =>
    rw [read] at done
    cases done
  | some number =>
    simp only [read] at done
    by_cases below : (Amount.real number).below (.whole 0) = true
    · rw [if_pos below] at done
      cases done
    · rw [if_neg below] at done
      cases done
      exact Bool.eq_false_iff.mpr below

theorem LimitAllowed.withGiven {inquiry changed : Inquiry} {entry : Given}
    (allowed : inquiry.LimitAllowed)
    (done : Inquiry.withGiven tree command inquiry entry = .ok changed) : changed.LimitAllowed := by
  obtain ⟨switch, value⟩ := entry
  cases switch with
  | format =>
    obtain ⟨format, _, same⟩ := bind_eq_ok_iff.mp done
    cases same
    exact allowed
  | limit =>
    obtain ⟨limit, given, same⟩ := bind_eq_ok_iff.mp done
    cases same
    rintro _ ⟨⟩
    exact limitOf_eq_ok given
  | settings =>
    obtain ⟨_, _, same⟩ := bind_eq_ok_iff.mp done
    cases same
    exact allowed
  | _ =>
    cases done
    exact allowed

theorem LimitAllowed.foldlM {entries : List Given} {inquiry changed : Inquiry}
    (allowed : inquiry.LimitAllowed)
    (done : entries.foldlM (Inquiry.withGiven tree command) inquiry = .ok changed) :
    changed.LimitAllowed := by
  induction entries generalizing inquiry with
  | nil =>
    cases done
    exact allowed
  | cons entry rest hypothesis =>
    rw [List.foldlM_cons] at done
    obtain ⟨middle, first, done⟩ := bind_eq_ok_iff.mp done
    exact hypothesis (allowed.withGiven first) done

end Inquiry

/-! ### What a request to measure was read from -/

theorem checkRest_eq_ok_iff {rest : List String} {done : Unit} :
    checkRest command rest = .ok done ↔ rest = [] := by
  cases rest <;> simp [checkRest]

theorem plain_of_checkFile {name : String} {required : Bool}
    (checked : checkFile tree command name path required = .ok ()) : '\x00' ∉ path.toList := by
  intro member
  rw [checkFile, entryAt, if_pos (by simpa using member)] at checked
  cases checked

/-- The inquiry of a command has the options that were given and the one path after them. -/
theorem inquiryOf_eq_ok {inquiry : Inquiry} (done : inquiryOf tree command given = .ok inquiry) :
    ∃ made, optionsOf tree command given = .ok made ∧ given.rest = [inquiry.path]
      ∧ (inquiry.path ≠ standardInput → '\x00' ∉ inquiry.path.toList)
      ∧ inquiry = { made with path := inquiry.path } := by
  rw [inquiryOf] at done
  obtain ⟨made, folded, done⟩ := bind_eq_ok_iff.mp done
  refine ⟨made, folded, ?_⟩
  cases rest : given.rest with
  | nil =>
    rw [rest] at done
    cases done
  | cons path others =>
    have finished (plain : path ≠ standardInput → '\x00' ∉ path.toList)
        (ends : (checkRest command others >>= fun _ => Except.ok { made with path }) = .ok inquiry) :
        path :: others = [inquiry.path]
          ∧ (inquiry.path ≠ standardInput → '\x00' ∉ inquiry.path.toList)
          ∧ inquiry = { made with path := inquiry.path } := by
      obtain ⟨_, alone, same⟩ := bind_eq_ok_iff.mp ends
      cases same
      rw [checkRest_eq_ok_iff.mp alone]
      exact ⟨rfl, plain, rfl⟩
    simp only [rest] at done
    by_cases file : (path != standardInput) = true
    · rw [if_pos file] at done
      obtain ⟨_, checked, ends⟩ := bind_eq_ok_iff.mp done
      exact finished (fun _ => plain_of_checkFile checked) ends
    · rw [if_neg file] at done
      exact finished (fun other => absurd (bne_iff_ne.mpr other) file) done

/-- The arguments of the program call a command, with some arguments of its own. -/
inductive Calls (arguments : List String) (command : Command) (given : Arguments) : Prop
  | named {own : List Given} {name : String} {options : List String}
      (leads : Arguments.read Command.program.switches false arguments
        = .ok { given := own, rest := name :: options })
      (called : Command.ofName? name = some command)
      (reads : Arguments.read command.switches true options = .ok given) : Calls arguments command given

theorem Calls.unique {arguments : List String} {command' : Command} {given' : Arguments}
    (calls : Calls arguments command given) (calls' : Calls arguments command' given') :
    command = command' ∧ given = given' := by
  obtain ⟨leads, called, reads⟩ := calls
  obtain ⟨leads', called', reads'⟩ := calls'
  cases leads.symm.trans leads'
  cases called.symm.trans called'
  cases reads.symm.trans reads'
  exact ⟨rfl, rfl⟩

theorem early?_ne_measure {inquiry : Inquiry} {listsRows : Bool} :
    Request.early? command given ≠ some (.measure inquiry listsRows) := by
  intro early
  obtain ⟨⟨switch, value⟩, _, found⟩ := List.exists_of_findSome?_eq_some early
  cases switch <;> cases found

theorem ofCommand_eq_measure {inquiry : Inquiry} {listsRows : Bool}
    (done : Request.ofCommand tree command options = .ok (.measure inquiry listsRows)) :
    ∃ given, Arguments.read command.switches true options = .ok given
      ∧ inquiryOf tree command given = .ok inquiry ∧ listsRows = (command = .spans : Bool) := by
  obtain ⟨given, reads, done⟩ := bind_eq_ok_iff.mp done
  refine ⟨given, mapError_eq_ok_iff.mp reads, ?_⟩
  cases early : Request.early? command given with
  | some request =>
    simp only [early] at done
    cases done
    exact absurd early early?_ne_measure
  | none =>
    simp only [early] at done
    by_cases initial : command = .initialise
    · rw [if_pos initial] at done
      obtain ⟨_, _, same⟩ := bind_eq_ok_iff.mp done
      cases same
    · rw [if_neg initial] at done
      obtain ⟨asked, made, same⟩ := bind_eq_ok_iff.mp done
      cases same
      exact ⟨made, rfl⟩

theorem withoutCommand_ne_measure {arguments : List String} {inquiry : Inquiry} {listsRows : Bool} :
    Request.withoutCommand name arguments ≠ .ok (.measure inquiry listsRows) := by
  intro done
  rw [Request.withoutCommand] at done
  split at done
  · obtain ⟨again, _, done⟩ := bind_eq_ok_iff.mp done
    cases early : Request.early? .program again with
    | some request =>
      simp only [early] at done
      cases done
      exact early?_ne_measure early
    | none =>
      simp only [early] at done
      cases done
  · cases done

/-- **A request to measure** comes from the arguments of a command that the program was called with. -/
theorem ofArguments_eq_measure {arguments : List String} {inquiry : Inquiry} {listsRows : Bool}
    (done : Request.ofArguments tree arguments = .ok (.measure inquiry listsRows)) :
    ∃ command given, Calls arguments command given ∧ inquiryOf tree command given = .ok inquiry
      ∧ listsRows = (command = .spans : Bool) := by
  obtain ⟨own, leads, done⟩ := bind_eq_ok_iff.mp done
  cases early : Request.early? .program own with
  | some request =>
    simp only [early] at done
    cases done
    exact absurd early early?_ne_measure
  | none =>
    obtain ⟨given, rest⟩ := own
    cases rest with
    | nil =>
      simp only [early] at done
      cases done
    | cons name others =>
      simp only [early] at done
      cases called : Command.ofName? name with
      | some command =>
        simp only [called] at done
        obtain ⟨given, reads, made, lists⟩ := ofCommand_eq_measure done
        exact ⟨command, given, .named (mapError_eq_ok_iff.mp leads) called reads, made, lists⟩
      | none =>
        simp only [called] at done
        exact absurd done withoutCommand_ne_measure

/-- **A limit that is asked for is not below zero.** -/
theorem limitAllowed_of_ofArguments {arguments : List String} {inquiry : Inquiry} {listsRows : Bool}
    (done : Request.ofArguments tree arguments = .ok (.measure inquiry listsRows)) :
    inquiry.LimitAllowed := by
  obtain ⟨command, given, _, made, _⟩ := ofArguments_eq_measure done
  obtain ⟨options, folded, _, _, same⟩ := inquiryOf_eq_ok made
  have none : ({} : Inquiry).LimitAllowed := by
    intro limit given
    cases given
  have allowed : options.LimitAllowed := none.foldlM folded
  rw [same]
  exact allowed

/-- A path that is asked about can be asked for. -/
theorem plain_of_ofArguments {arguments : List String} {inquiry : Inquiry} {listsRows : Bool}
    (done : Request.ofArguments tree arguments = .ok (.measure inquiry listsRows))
    (file : inquiry.path ≠ standardInput) : '\x00' ∉ inquiry.path.toList := by
  obtain ⟨command, given, _, made, _⟩ := ofArguments_eq_measure done
  obtain ⟨_, _, _, plain, _⟩ := inquiryOf_eq_ok made
  exact plain file

/-! ### Requests that differ in a limit -/

/-- The arguments call the same command, with the same path and with the same options but for limits. -/
def SameButLimit (first second : List String) : Prop :=
  ∃ command given given', Calls first command given ∧ Calls second command given'
    ∧ given.given.filter (Arguments.isOther .limit) = given'.given.filter (Arguments.isOther .limit)
    ∧ given.rest = given'.rest

/-- A limit before all other options is one more option. -/
theorem sameButLimit_limit (measures : Measures name command) {value : String}
    (read : Arguments.read command.switches true options = .ok given) :
    SameButLimit (name :: options) (name :: "--fail-above" :: value :: options) := by
  have found : Found.ofArgument command.switches "--fail-above"
      = .ok (.pending [] .limit "--fail-above") := by
    cases measures <;> rfl
  have limited : Arguments.read command.switches true ("--fail-above" :: value :: options)
      = .ok (given.withGiven [(.limit, value)]) := by
    rw [Arguments.read, if_neg (by decide), if_pos (by decide), found]
    exact map_eq_ok_iff.mpr ⟨given, read, rfl⟩
  have called : Command.ofName? name = some command := by cases measures <;> rfl
  have leads (options : List String) : Arguments.read Command.program.switches false (name :: options)
      = .ok { given := [], rest := name :: options } := by
    cases measures <;> rfl
  exact ⟨command, given, _, .named (leads _) called read, .named (leads _) called limited, rfl, rfl⟩

/-- Of arguments that differ in a limit, the inquiries differ in their limit. -/
theorem inquiry_eq_of_sameButLimit {first second : List String} {inquiry inquiry' : Inquiry}
    {listsRows listsRows' : Bool} (same : SameButLimit first second)
    (asked : Request.ofArguments tree first = .ok (.measure inquiry listsRows))
    (asked' : Request.ofArguments tree second = .ok (.measure inquiry' listsRows')) :
    inquiry' = inquiry.withLimit inquiry'.limit ∧ listsRows' = listsRows := by
  obtain ⟨command, given, given', calls, calls', kept, rest⟩ := same
  obtain ⟨_, _, called, made, lists⟩ := ofArguments_eq_measure asked
  obtain ⟨_, _, called', made', lists'⟩ := ofArguments_eq_measure asked'
  obtain ⟨rfl, rfl⟩ := calls.unique called
  obtain ⟨rfl, rfl⟩ := calls'.unique called'
  obtain ⟨options, folded, path, _, inquiry_eq⟩ := inquiryOf_eq_ok made
  obtain ⟨options', folded', path', _, inquiry_eq'⟩ := inquiryOf_eq_ok made'
  have others := Inquiry.foldlM_filter_limit folded
  have others' := Inquiry.foldlM_filter_limit folded'
  rw [Arguments.filter_settled] at others others'
  rw [← kept, others] at others'
  have bare : options.withLimit none = options'.withLimit none := Except.ok.inj others'
  have paths : inquiry.path = inquiry'.path := by
    rw [path, path'] at rest
    exact List.singleton_inj.mp rest
  refine ⟨?_, lists'.trans lists.symm⟩
  rw [inquiry_eq, inquiry_eq', ← paths]
  obtain ⟨_, _, _, _, _, _⟩ := options
  obtain ⟨_, _, _, _, _, _⟩ := options'
  cases bare
  rfl

end UnsafeCensus.Console
