/-
**The settings of a run, field by field.**

What the options of a command say is put over what its variable says, this over what its file says, and this
over the defaults. So each setting comes from the first of these that says it, whatever the others say of
other settings.

* `Inquiry.LimitAllowed`, `Inquiry.layer`: a limit that is not below zero, and what the options say;
* `withOverrides_members_eq_ok_iff`: the options are put over settings when their limit is allowed;
* `Layered`: each setting from the first source that says it;
* `settings_layered`: the settings of a run;
* `settings_layered_nearest`: settings from a variable, the nearer of two files, an option and the defaults.
-/

import Mathlib
import UnsafeCensus.Console.Behaviour
import UnsafeCensus.Proofs.Settings.Refusal
import UnsafeCensus.Proofs.Settings.Store

namespace UnsafeCensus.Console

open Census Settings

namespace Inquiry

/-- The inquiry that leaves modules out, or not. -/
def withAlone (alone : Bool) (inquiry : Inquiry) : Inquiry :=
  { inquiry with alone }

/-- The inquiry with another limit, or without one. -/
def withLimit (limit : Option Binary64) (inquiry : Inquiry) : Inquiry :=
  { inquiry with limit }

/-- The limit of an inquiry is not below zero. -/
def LimitAllowed (inquiry : Inquiry) : Prop :=
  ∀ limit, inquiry.limit = some limit → (Amount.real limit).below (.whole 0) = false

/-- What the options of an inquiry say of the settings. -/
def layer (inquiry : Inquiry) : Layer where
  format := inquiry.format
  followModules := if inquiry.alone then some false else none
  failAbove := inquiry.limit.map some
  document := if inquiry.document then some true else none

/-- What an inquiry says of the settings, without what it leaves open. -/
def givenMembers (inquiry : Inquiry) : List (Json.Text × Json.Value) :=
  inquiry.members.filter fun entry => isGiven entry.2

theorem get?_givenMembers (inquiry : Inquiry) :
    Json.get? inquiry.givenMembers "report_format"
        = inquiry.layer.format.map (fun format => Json.Value.ofString format.name)
      ∧ Json.get? inquiry.givenMembers "follow_modules"
        = inquiry.layer.followModules.map Json.Value.boolean
      ∧ Json.get? inquiry.givenMembers "fail_above" = inquiry.limit.map Json.Value.real
      ∧ Json.get? inquiry.givenMembers "json_output" = inquiry.layer.document.map Json.Value.boolean := by
  obtain ⟨path, format, document, alone, limit, file⟩ := inquiry
  cases format <;> cases document <;> cases alone <;> cases limit <;> exact ⟨rfl, rfl, rfl, rfl⟩

/-- A member that was written for an option says just that option. -/
theorem gives_map_iff {α : Type} {means : Json.Value → α → Prop}
    {members : List (Json.Text × Json.Value)} {name : String} {option said : Option α}
    {write : α → Json.Value} (known : Json.get? members name = option.map write)
    (meaning : ∀ chosen meant, means (write chosen) meant ↔ meant = chosen) :
    Gives means members name said ↔ said = option := by
  cases option <;> cases said <;> simp [Gives, known, meaning]

/-- What an inquiry says of the settings is what its options say, when its limit is allowed. -/
theorem of_givenMembers_iff {inquiry : Inquiry} {layer : Layer} :
    Layer.Of inquiry.givenMembers layer ↔ layer = inquiry.layer ∧ inquiry.LimitAllowed := by
  obtain ⟨format, follow, limit, document⟩ := inquiry.get?_givenMembers
  have formats (said : Option Format) : Gives IsFormat inquiry.givenMembers "report_format" said ↔
      said = inquiry.layer.format :=
    gives_map_iff format fun chosen meant => isFormat_ofString.trans names_name_iff
  have switches {name : String} {option : Option Bool}
      (known : Json.get? inquiry.givenMembers name = option.map .boolean) (said : Option Bool) :
      Gives IsSwitch inquiry.givenMembers name said ↔ said = option :=
    gives_map_iff known fun chosen meant => by simp [IsSwitch, eq_comm]
  -- A limit is checked once more when it is read back, so it stands only when it is allowed.
  have limits (said : Option (Option Binary64)) :
      Gives IsLimit inquiry.givenMembers "fail_above" said ↔
        said = inquiry.layer.failAbove ∧ inquiry.LimitAllowed := by
    rw [Inquiry.layer, LimitAllowed]
    cases chosen : inquiry.limit <;> cases said <;> simp [Gives, limit, chosen, isLimit_real_iff]
  constructor
  · rintro ⟨named, followed, limited, documented⟩
    obtain ⟨limited, allowed⟩ := (limits _).mp limited
    obtain ⟨_, _, _, _⟩ := layer
    cases (formats _).mp named
    cases (switches follow _).mp followed
    cases limited
    cases (switches document _).mp documented
    exact ⟨rfl, allowed⟩
  · rintro ⟨rfl, allowed⟩
    exact ⟨(formats _).mpr rfl, (switches follow _).mpr rfl, (limits _).mpr ⟨rfl, allowed⟩,
      (switches document _).mpr rfl⟩

theorem unknownNames_givenMembers (inquiry : Inquiry) : unknownNames inquiry.givenMembers = [] := by
  refine List.filter_eq_nil_iff.mpr fun name member => ?_
  obtain ⟨entry, kept, rfl⟩ := List.mem_map.mp member
  have written : entry.1 ∈ inquiry.members.map Prod.fst :=
    List.mem_map_of_mem (List.mem_of_mem_filter kept)
  have all : ∀ name ∈ inquiry.members.map Prod.fst, name ∈ Settings.names.map Json.Text.ofString := by
    show ∀ name ∈ ["report_format", "json_output", "follow_modules", "fail_above"].map
      Json.Text.ofString, name ∈ Settings.names.map Json.Text.ofString
    decide
  simpa using all _ written

/-- Over settings, an inquiry puts what its options say, when its limit is allowed. -/
theorem withOverrides_members_eq_ok_iff {inquiry : Inquiry} {settings result : Settings} :
    settings.withOverrides inquiry.members = .ok result ↔
      inquiry.LimitAllowed ∧ result = inquiry.layer.over settings := by
  rw [withOverrides_eq_ok_iff, checked_eq_ok_iff]
  constructor
  · rintro ⟨_, layer, of, rfl⟩
    obtain ⟨rfl, allowed⟩ := of_givenMembers_iff.mp of
    exact ⟨allowed, rfl⟩
  · rintro ⟨allowed, rfl⟩
    exact ⟨inquiry.unknownNames_givenMembers, _, of_givenMembers_iff.mpr ⟨rfl, allowed⟩, rfl⟩

end Inquiry

/-- Each setting from the first source that says it: the options, a variable, a file, the defaults. -/
structure Layered (inquiry : Inquiry) (named : Option Format) (file : Layer)
    (settings : Settings) : Prop where
  format : settings.format = inquiry.format.getD (named.getD (file.format.getD .automatic))
  followModules : settings.followModules =
    if inquiry.alone then false else file.followModules.getD true
  failAbove : settings.failAbove = inquiry.limit.or (file.failAbove.getD none)
  document : settings.document = if inquiry.document then true else file.document.getD false

theorem layered_iff {inquiry : Inquiry} {named : Option Format} {file : Layer}
    {settings : Settings} :
    Layered inquiry named file settings ↔
      settings = inquiry.layer.over (({ format := named } : Layer).over (file.over {})) := by
  obtain ⟨path, format, document, alone, limit, settingsFile⟩ := inquiry
  obtain ⟨format', follow, limit', document'⟩ := settings
  constructor
  · rintro ⟨formats, follows, limits, documents⟩
    cases formats
    cases follows
    cases limits
    cases documents
    cases alone <;> cases limit <;> cases document <;> rfl
  · intro same
    cases same
    refine ⟨rfl, ?_, ?_, ?_⟩
    · cases alone <;> rfl
    · cases limit <;> rfl
    · cases document <;> rfl

variable {host : Host} {inquiry : Inquiry} {settings : Settings}

/-- The settings file that an inquiry chooses. -/
abbrev Inquiry.Chooses (inquiry : Inquiry) (tree : Files.Tree) (path : Option Files.Path) : Prop :=
  Chosen tree inquiry.start (inquiry.settingsFile.map Files.Path.ofText) path

/-- The settings of a run are what its options say over what was loaded before. -/
theorem settings_eq_ok_iff_over :
    (inquiry.settings host).result = .ok settings ↔
      ∃ loaded, (Settings.load host.nesting host.tree inquiry.start (inquiry.settingsFile.map Files.Path.ofText)
            host.format).result = .ok loaded
        ∧ inquiry.LimitAllowed ∧ settings = inquiry.layer.over loaded := by
  rw [Inquiry.settings, Attempt.result_bind, bind_eq_ok_iff]
  refine exists_congr fun loaded => and_congr_right fun _ => ?_
  exact Inquiry.withOverrides_members_eq_ok_iff

theorem settings_eq_ok_iff :
    (inquiry.settings host).result = .ok settings ↔
      ∃ path file named, inquiry.Chooses host.tree path ∧ FileLayer host.nesting host.tree path file
        ∧ VariableNames host.format named ∧ inquiry.LimitAllowed
        ∧ Layered inquiry named file settings := by
  simp only [settings_eq_ok_iff_over, result_load_eq_ok_iff, layered_iff]
  constructor
  · rintro ⟨_, ⟨path, file, named, chosen, layer, names, rfl⟩, allowed, same⟩
    exact ⟨path, file, named, chosen, layer, names, allowed, same⟩
  · rintro ⟨path, file, named, chosen, layer, names, allowed, same⟩
    exact ⟨_, ⟨path, file, named, chosen, layer, names, rfl⟩, allowed, same⟩

/-- Members of other names in the settings file change no setting. -/
theorem settings_eq_ok_of_members {other : Host} (environment : other.format = host.format)
    {path path' : Files.Path} {members members' : List (Json.Text × Json.Value)}
    (chosen : inquiry.Chooses host.tree (some path))
    (reads : readDocument host.nesting host.tree path.text = .ok (.object members))
    (chosen' : inquiry.Chooses other.tree (some path'))
    (reads' : readDocument other.nesting other.tree path'.text = .ok (.object members'))
    (same : ∀ name ∈ Settings.names, Json.get? members name = Json.get? members' name)
    (done : (inquiry.settings host).result = .ok settings) :
    (inquiry.settings other).result = .ok settings := by
  obtain ⟨path₀, file, named, first, layer, names, allowed, layered⟩ := settings_eq_ok_iff.mp done
  cases first.unique chosen
  cases layer with
  | read first of =>
    cases first.symm.trans reads
    refine settings_eq_ok_iff.mpr ⟨_, file, named, chosen', .read reads' (of.congr same), ?_, allowed,
      layered⟩
    rwa [environment]

/-- The options of two inquiries about one crate change no setting but their own. -/
theorem fields_of_options {other : Inquiry} {changed : Settings} (path : other.path = inquiry.path)
    (file : other.settingsFile = inquiry.settingsFile)
    (done : (inquiry.settings host).result = .ok settings)
    (done' : (other.settings host).result = .ok changed) :
    (other.format = inquiry.format → changed.format = settings.format)
      ∧ (other.alone = inquiry.alone → changed.followModules = settings.followModules)
      ∧ (other.limit = inquiry.limit → changed.failAbove = settings.failAbove)
      ∧ (other.document = inquiry.document → changed.document = settings.document) := by
  obtain ⟨loaded, load, _, rfl⟩ := settings_eq_ok_iff_over.mp done
  obtain ⟨loaded', load', _, rfl⟩ := settings_eq_ok_iff_over.mp done'
  have start : other.start = inquiry.start := by rw [Inquiry.start, path, Inquiry.start]
  rw [start, file, load] at load'
  cases load'
  refine ⟨fun format => ?_, fun alone => ?_, fun limit => ?_, fun document => ?_⟩
  · show other.format.getD _ = inquiry.format.getD _
    rw [format]
  · show Option.getD (if other.alone then _ else _) _ = Option.getD (if inquiry.alone then _ else _) _
    rw [alone]
  · show (other.limit.map some).getD _ = (inquiry.limit.map some).getD _
    rw [limit]
  · show Option.getD (if other.document then _ else _) _
      = Option.getD (if inquiry.document then _ else _) _
    rw [document]

/-- **The settings of a run, field by field.** There are settings exactly when the settings file that is
chosen, the variable and the options are in order, and each setting is then what the first of the options,
the variable, the file and the defaults says of it. Members of other names in the file change no setting, and an
option changes none but its own. -/
theorem settings_layered (host : Host) (inquiry : Inquiry) :
    (∀ settings, (inquiry.settings host).result = .ok settings ↔
        ∃ path file named, inquiry.Chooses host.tree path ∧ FileLayer host.nesting host.tree path file
          ∧ VariableNames host.format named ∧ inquiry.LimitAllowed
          ∧ Layered inquiry named file settings)
      ∧ (∀ (other : Host) (path path' : Files.Path) (members members' : List (Json.Text × Json.Value)),
          other.format = host.format → inquiry.Chooses host.tree (some path) →
          readDocument host.nesting host.tree path.text = .ok (.object members) →
          inquiry.Chooses other.tree (some path') →
          readDocument other.nesting other.tree path'.text = .ok (.object members') →
          (∀ name ∈ Settings.names, Json.get? members name = Json.get? members' name) →
          ∀ settings, (inquiry.settings host).result = .ok settings →
            (inquiry.settings other).result = .ok settings)
      ∧ ∀ (other : Inquiry) (settings changed : Settings), other.path = inquiry.path →
          other.settingsFile = inquiry.settingsFile → (inquiry.settings host).result = .ok settings →
          (other.settings host).result = .ok changed →
          (other.format = inquiry.format → changed.format = settings.format)
            ∧ (other.alone = inquiry.alone → changed.followModules = settings.followModules)
            ∧ (other.limit = inquiry.limit → changed.failAbove = settings.failAbove)
            ∧ (other.document = inquiry.document → changed.document = settings.document) :=
  ⟨fun _ => settings_eq_ok_iff, fun _ _ _ _ _ environment chosen reads chosen' reads' same _ done =>
      settings_eq_ok_of_members environment chosen reads chosen' reads' same done,
    fun _ _ _ path file done done' => fields_of_options path file done done'⟩

/-- A settings file beside a crate and another one further up, with a variable that names a format. -/
def layeredHost (text : String) : Host where
  tree := ⟨[(["w"], .directory), (["w", fileName], .file "\x7b\"fail_above\": 5\x7d".toUTF8),
    (["w", "src"], .directory), (["w", "src", fileName], .file text.toUTF8),
    (["w", "src", "a.rs"], .file "fn a() \x7b\x7d\n".toUTF8)], ["w"]⟩
  format := some "COUNT"

/-- Settings of a format and of modules. -/
def plainText : String :=
  "\x7b\"report_format\": \"percentage\", \"follow_modules\": false\x7d"

/-- The same settings after a member that is none. -/
def strangeText : String :=
  "\x7b\"colour\": 1, \"report_format\": \"percentage\", \"follow_modules\": false\x7d"

/-- The members of these settings. -/
def plainMembers : List (Json.Text × Json.Value) :=
  [Json.member "report_format" (.ofString "percentage"), Json.member "follow_modules" (.boolean false)]

theorem readDocument_layeredHost {text : String} {value : Json.Value}
    (read : Json.read none text.toList = .ok value) (same : lineFeeds text.toList = text.toList) :
    readDocument none (layeredHost text).tree (settingsIn ["w", "src"]).text = .ok value := by
  have file : (layeredHost text).tree.read (settingsIn ["w", "src"]).text
      = .ok (String.ofList text.toList).toUTF8 := by
    rw [String.ofList_toList]
    rfl
  rw [readDocument_eq (by decide +kernel) file, characters_toUTF8, same]
  show documentOf none (settingsIn ["w", "src"]).text text.toList = _
  exact documentOf_eq_ok_iff.mpr read

/-- The format comes from the variable, the modules from the nearer file and the document from the options; the
file further up and a strange member change nothing. -/
theorem settings_layered_nearest :
    let inquiry : Inquiry := { path := "src/a.rs", document := true }
    let settings : Settings :=
      { format := .count, followModules := false, failAbove := none, document := true }
    (inquiry.settings (layeredHost plainText)).result = .ok settings
      ∧ (inquiry.settings (layeredHost strangeText)).result = .ok settings := by
  intro inquiry settings
  have chosen : inquiry.Chooses (layeredHost plainText).tree (some (settingsIn ["w", "src"])) :=
    choice_eq_ok_iff.mp (toOption_eq_some_iff.mp (by decide +kernel))
  have chosen' : inquiry.Chooses (layeredHost strangeText).tree (some (settingsIn ["w", "src"])) :=
    choice_eq_ok_iff.mp (toOption_eq_some_iff.mp (by decide +kernel))
  have reads : readDocument none (layeredHost plainText).tree (settingsIn ["w", "src"]).text
      = .ok (.object plainMembers) := readDocument_layeredHost rfl (lineFeeds_eq_self (by decide +kernel))
  have reads' : readDocument none (layeredHost strangeText).tree (settingsIn ["w", "src"]).text
      = .ok (.object (Json.member "colour" (.integer 1) :: plainMembers)) :=
    readDocument_layeredHost rfl (lineFeeds_eq_self (by decide +kernel))
  obtain ⟨layered, members, _⟩ := settings_layered (layeredHost plainText) inquiry
  have done : (inquiry.settings (layeredHost plainText)).result = .ok settings := by
    have file : FileLayer none (layeredHost plainText).tree (some (settingsIn ["w", "src"]))
        { format := some .percentage, followModules := some false } :=
      .read reads ⟨⟨_, rfl, isFormat_ofString.mpr (by rw [Names]; decide)⟩, ⟨_, rfl, rfl⟩, rfl, rfl⟩
    have named : VariableNames (some "COUNT") (some .count) :=
      .named (by decide) (by rw [Names]; decide)
    have allowed : inquiry.LimitAllowed := by
      intro limit given
      cases given
    exact (layered settings).mpr ⟨_, _, _, chosen, file, named, allowed, ⟨rfl, rfl, rfl, rfl⟩⟩
  have same : ∀ name ∈ Settings.names, Json.get? plainMembers name
      = Json.get? (Json.member "colour" (.integer 1) :: plainMembers) name := by
    intro name known
    fin_cases known <;> rfl
  exact ⟨done, members (layeredHost strangeText) _ _ _ _ rfl chosen reads chosen' reads' same
    settings done⟩

end UnsafeCensus.Console
