import TeachingEditor.CommandLine.Run
import TeachingEditor.Proofs.Assistant.Outcome
import TeachingEditor.Proofs.Catalog
import TeachingEditor.Proofs.Completion.Suggestion

/-!
# How a command fails

A command goes through stages, and each of them can fail: the configuration, the
catalogs, the source text, and a cursor that was asked for.  The relation `FailsAt`
says which stage is the first that cannot be passed, by what the stages before it
have come to, without carrying out anything.

**Algorithm.**  What is done for a command is a chain of stages with a print at its
end.  A chain fails with what its first stage fails with, or with what the rest
fails with after that stage (`perform_bind_error_iff`), and printing does not fail.  Two
stages of the program never fail, and so are none of the relation: the configured
theme has been checked with the configuration (`chooseTheme_eq_ok`), and without a
provider a question is answered or has no answer (`respond_of_settings`).

**Results.**
* `run_error_iff`: what is done for an invocation fails exactly with the first stage
  that cannot be passed, and has printed nothing by then.
* `outcome_disciplined`: the exit code, the report and the printed text of every call
  that asks for a command.
-/

namespace TeachingEditor

/-- Whether a command consults the catalogs. -/
def Command.usesCatalogs : Command → Bool
  | .config _ => false
  | _ => true

namespace Config

/-- A configuration that has been read has no problem. -/
theorem problem?_of_parse
    {t : Text} {c : Config}
    (hparse : parse t = .ok c) :
    c.problem? = none := by
  unfold parse checked at hparse
  split at hparse
  · split at hparse
    · cases hparse
    · next hnone =>
        rw [← Except.ok.inj hparse]
        exact hnone
  · cases hparse

theorem theme_mem_of_problem?
    {c : Config}
    (hnone : c.problem? = none) :
    c.highlight.theme ∈ themes := by
  by_contra hunknown
  unfold problem? at hnone
  split at hnone
  · cases hnone
  · simp at hnone

end Config

namespace CommandLine

/-! ## The stages -/

section Stages

variable (read : FileReader) (input : List UInt8)

/-- The configuration in a file, or the default settings where there is no file. -/
def InForce (path : Text) (c : Config) : Prop :=
  if read.finds path then Config.load read path = .ok c else c = {}

/-- The catalogs of the configuration that is in force. -/
def Provides (i : Invocation) (catalogs : Catalogs) : Prop :=
  ∃ c, InForce read i.configPath c ∧ Catalogs.load read c.catalog = .ok catalogs

/-- The text of a source, which is a file or the standard input. -/
def Holds (file source : Text) : Prop :=
  if isStandardInput file then Utf8.decode input = .ok source
  else read.readText file = .ok source

/-- Why a source cannot be read as a text. -/
inductive Unreadable (file : Text) : Failure → Prop
  | input {fault : Utf8.Fault}
      (hdash : isStandardInput file = true)
      (hdecode : Utf8.decode input = .error fault) :
      Unreadable file (.input fault)
  | source {e : FileError}
      (hdash : isStandardInput file = false)
      (hread : read.readText file = .error e) :
      Unreadable file (.source file e)

/-- The first stage of an invocation that cannot be passed, with what is wrong there. -/
inductive FailsAt (i : Invocation) : Failure → Prop
  | config {e : Config.LoadError}
      (hfile : read.finds i.configPath = true)
      (hload : Config.load read i.configPath = .error e) :
      FailsAt i (.config i.configPath e)
  | catalogs {c : Config} {e : CatalogError}
      (hconfig : InForce read i.configPath c)
      (huses : i.command.usesCatalogs = true)
      (hload : Catalogs.load read c.catalog = .error e) :
      FailsAt i (.catalogs e)
  | source {catalogs : Catalogs} {file : Text} {f : Failure}
      (hprovides : Provides read i catalogs)
      (hsource : file ∈ i.command.sources)
      (hread : Unreadable read input file f) :
      FailsAt i f
  | cursor {catalogs : Catalogs} {file source : Text} {cursor : Nat} {e : CursorError}
      (hprovides : Provides read i catalogs)
      (hcommand : i.command = .complete file (some cursor))
      (hholds : Holds read input file source)
      (hword : wordAt source cursor = .error e) :
      FailsAt i (.cursor e)

end Stages

/-! ## Chains of stages -/

section Chains

variable {α : Type} {f : Failure} {printed left : Text}

@[simp] theorem perform_print
    (t printed : Text) :
    perform (print t) printed = (.ok (), printed ++ t) :=
  rfl

theorem perform_bind_ok
    (a : α) (rest : α → Action Unit) (printed : Text) :
    perform (do let x ← (Except.ok a : Except Failure α); rest x) printed =
      perform (rest a) printed :=
  rfl

theorem perform_bind_error
    (f : Failure) (rest : α → Action Unit) (printed : Text) :
    perform (do let x ← (Except.error f : Except Failure α); rest x) printed =
      (.error f, printed) :=
  rfl

/-- A chain fails at its first stage, having printed nothing, or behind it. -/
theorem perform_bind_error_iff
    {stage : Except Failure α} {rest : α → Action Unit} :
    perform (do let x ← stage; rest x) printed = (.error f, left) ↔
      (stage = .error f ∧ left = printed) ∨
        ∃ a, stage = .ok a ∧ perform (rest a) printed = (.error f, left) := by
  cases stage with
  | error g =>
      rw [perform_bind_error]
      simp [eq_comm]
  | ok a =>
      rw [perform_bind_ok]
      simp

end Chains

section Loading

variable {read : FileReader} {input : List UInt8} {f : Failure}

theorem loadConfig_ok_iff
    {path : Text} {c : Config} :
    loadConfig read path = .ok c ↔ InForce read path c := by
  unfold loadConfig InForce
  split
  · cases Config.load read path with
    | ok d => simp
    | error e => simp
  · simp [eq_comm]

theorem loadConfig_error_iff
    {path : Text} :
    loadConfig read path = .error f ↔
      ∃ e, read.finds path = true ∧ Config.load read path = .error e ∧ .config path e = f := by
  unfold loadConfig
  split
  · next hfile =>
      cases Config.load read path with
      | ok d => simp
      | error e => simp [hfile]
  · next hfile => simp [hfile]

theorem loadCatalogs_ok_iff
    {c : Config} {catalogs : Catalogs} :
    loadCatalogs read c = .ok catalogs ↔ Catalogs.load read c.catalog = .ok catalogs := by
  unfold loadCatalogs
  cases Catalogs.load read c.catalog with
  | ok d => simp
  | error e => simp

theorem loadCatalogs_error_iff
    {c : Config} :
    loadCatalogs read c = .error f ↔
      ∃ e, Catalogs.load read c.catalog = .error e ∧ .catalogs e = f := by
  unfold loadCatalogs
  cases Catalogs.load read c.catalog with
  | ok d => simp
  | error e => simp

theorem loadSource_ok_iff
    {file source : Text} :
    loadSource read input file = .ok source ↔ Holds read input file source := by
  unfold loadSource Holds
  split
  · cases Utf8.decode input with
    | ok t => simp
    | error fault => simp
  · cases read.readText file with
    | ok t => simp
    | error e => simp

theorem loadSource_error_iff
    {file : Text} :
    loadSource read input file = .error f ↔ Unreadable read input file f := by
  unfold loadSource
  constructor
  · split
    · next hdash =>
        cases hdecode : Utf8.decode input with
        | ok t => simp
        | error fault =>
            rintro ⟨rfl⟩
            exact Unreadable.input hdash hdecode
    · next hdash =>
        cases hread : read.readText file with
        | ok t => simp
        | error e =>
            rintro ⟨rfl⟩
            exact Unreadable.source (Bool.eq_false_iff.2 hdash) hread
  · intro h
    cases h with
    | input hdash hdecode => simp [hdash, hdecode]
    | source hdash hread => simp [hdash, hread]

end Loading

/-! ## Stages that never fail -/

section Infallible

variable {read : FileReader}

/-- A configuration that is in force has been checked. -/
theorem InForce.problem?_eq_none
    {path : Text} {c : Config}
    (h : InForce read path c) :
    c.problem? = none := by
  unfold InForce at h
  split at h
  · unfold Config.load at h
    split at h
    · cases h
    · next t hread =>
        split at h
        · cases h
        · next d hparse =>
            obtain rfl := Except.ok.inj h
            exact Config.problem?_of_parse hparse
  · rw [h]
    decide

/-- The theme of a checked configuration has a name that is known. -/
theorem chooseTheme_eq_ok
    {c : Config}
    (hnone : c.problem? = none)
    (asked : Option Theme) :
    ∃ theme, chooseTheme c asked = .ok theme := by
  cases asked with
  | some theme => exact ⟨theme, rfl⟩
  | none =>
      have hmem := Config.theme_mem_of_problem? hnone
      unfold chooseTheme
      simp only [Config.themes, List.mem_cons, List.not_mem_nil, or_false] at hmem
      rcases hmem with hdark | hlight
      · rw [hdark, Theme.ofName?_name]
        exact ⟨.dark, rfl⟩
      · rw [hlight, Theme.ofName?_name]
        exact ⟨.light, rfl⟩

/-- Without a provider there is an answer, or none is known. -/
theorem respond_of_settings
    (knowledge : List FaqEntry) (settings : AssistantSettings) (question : Text) :
    (∃ reply, (Assistant.ofSettings knowledge settings).respond question = .ok reply) ∨
      (Assistant.ofSettings knowledge settings).respond question = .error .notConfigured := by
  rcases (Assistant.ofSettings knowledge settings).query_cases (Text.trim question) with
    hblank | ⟨hasks, found, hfound⟩ | ⟨hopen, hclosed⟩ | ⟨p, hpasses⟩
  · exact Or.inl ⟨.empty, Assistant.respond_eq_empty_iff.2 hblank⟩
  · exact Or.inl ⟨.predefined found, Assistant.respond_eq_predefined_iff.2 ⟨hasks, hfound⟩⟩
  · exact Or.inr (Assistant.respond_eq_iff.2 ⟨[], .notConfigured hopen hclosed⟩)
  · exact absurd hpasses.attached (by simp [Assistant.ofSettings])

theorem ask_run
    (catalogs : Catalogs) (settings : AssistantSettings) (question printed : Text) :
    ∃ t, perform (ask catalogs settings question) printed = (.ok (), printed ++ t) := by
  unfold ask
  rcases respond_of_settings catalogs.knowledge settings question with ⟨reply, hreply⟩ | hnone
  · rw [hreply]
    exact ⟨Listing.reply reply, rfl⟩
  · rw [hnone]
    exact ⟨noAnswer, rfl⟩

end Infallible

/-! ## Commands -/

section Commands

variable {read : FileReader} {input : List UInt8} {i : Invocation} {c : Config} {f : Failure}
  {printed left : Text}

/-- Completing fails where no word can be looked for, and nowhere else. -/
theorem complete_error_iff
    {catalogs : Catalogs} {source : Text} {cursor : Nat} :
    perform (complete catalogs source cursor) printed = (.error f, left) ↔
      left = printed ∧ ∃ e, wordAt source cursor = .error e ∧ .cursor e = f := by
  unfold complete
  by_cases hplace : Text.IsBoundary source cursor
  · obtain ⟨before, after, rfl, rfl⟩ := isBoundary_iff.1 hplace
    rw [wordAt_size, suggest_size]
    simp [Except.mapError, perform_bind_ok]
  · rw [wordAt_eq_error hplace]
    simp [Except.mapError, perform_bind_error, eq_comm, and_comm]

/-- The end of a text is a place in it. -/
theorem wordAt_end
    (source : Text) (e : CursorError) :
    wordAt source (Text.size source) ≠ .error e := by
  have hword := wordAt_size source []
  rw [List.append_nil] at hword
  rw [hword]
  simp

theorem perform_run_of_inForce
    (hconfig : InForce read i.configPath c) :
    perform (run read input i) printed =
      perform (runCommand read input i.configPath c i.command) printed := by
  rw [run, loadConfig_ok_iff.2 hconfig, perform_bind_ok]

/-- A chain behind the configuration fails at the catalogs, or with these at hand. -/
theorem failsAt_of_catalogs
    {rest : Catalogs → Action Unit}
    (hconfig : InForce read i.configPath c)
    (huses : i.command.usesCatalogs = true)
    (hfails : perform (do let catalogs ← loadCatalogs read c; rest catalogs) printed =
      (.error f, left))
    (hrest : ∀ catalogs, Provides read i catalogs →
      perform (rest catalogs) printed = (.error f, left) →
      FailsAt read input i f ∧ left = printed) :
    FailsAt read input i f ∧ left = printed := by
  rcases perform_bind_error_iff.1 hfails with ⟨hload, hleft⟩ | ⟨catalogs, hload, hfails⟩
  · obtain ⟨e, herror, rfl⟩ := loadCatalogs_error_iff.1 hload
    exact ⟨FailsAt.catalogs hconfig huses herror, hleft⟩
  · exact hrest catalogs ⟨c, hconfig, loadCatalogs_ok_iff.1 hload⟩ hfails

/-- A chain behind the catalogs fails at the source, or with its text at hand. -/
theorem failsAt_of_source
    {catalogs : Catalogs} {file : Text} {rest : Text → Action Unit}
    (hprovides : Provides read i catalogs)
    (hsource : file ∈ i.command.sources)
    (hfails : perform (do let source ← loadSource read input file; rest source) printed =
      (.error f, left))
    (hrest : ∀ source, Holds read input file source →
      perform (rest source) printed = (.error f, left) →
      FailsAt read input i f ∧ left = printed) :
    FailsAt read input i f ∧ left = printed := by
  rcases perform_bind_error_iff.1 hfails with ⟨hload, hleft⟩ | ⟨source, hload, hfails⟩
  · exact ⟨FailsAt.source hprovides hsource (loadSource_error_iff.1 hload), hleft⟩
  · exact hrest source (loadSource_ok_iff.1 hload) hfails

theorem print_ne_error
    {t : Text} :
    perform (print t) printed ≠ (.error f, left) := by
  rw [perform_print]
  simp

/-- A command that fails has met the first stage that cannot be passed, and printed nothing. -/
theorem failsAt_of_runCommand
    (hconfig : InForce read i.configPath c)
    (hfails : perform (runCommand read input i.configPath c i.command) printed =
      (.error f, left)) :
    FailsAt read input i f ∧ left = printed := by
  obtain ⟨path, command⟩ := i
  cases command with
  | tokenize file json =>
      refine failsAt_of_catalogs hconfig rfl hfails ?_
      intro catalogs hprovides hbehind
      refine failsAt_of_source hprovides (List.mem_singleton_self file) hbehind ?_
      intro source hholds hprint
      exact absurd hprint print_ne_error
  | highlight file asked =>
      obtain ⟨theme, htheme⟩ := chooseTheme_eq_ok hconfig.problem?_eq_none asked
      rw [runCommand, htheme, perform_bind_ok] at hfails
      refine failsAt_of_catalogs hconfig rfl hfails ?_
      intro catalogs hprovides hbehind
      refine failsAt_of_source hprovides (List.mem_singleton_self file) hbehind ?_
      intro source hholds hprint
      exact absurd hprint print_ne_error
  | complete file asked =>
      refine failsAt_of_catalogs hconfig rfl hfails ?_
      intro catalogs hprovides hbehind
      refine failsAt_of_source hprovides (List.mem_singleton_self file) hbehind ?_
      intro source hholds hcomplete
      obtain ⟨hleft, e, hword, rfl⟩ := complete_error_iff.1 hcomplete
      cases asked with
      | none => exact absurd hword (wordAt_end source e)
      | some cursor => exact ⟨FailsAt.cursor hprovides rfl hholds hword, hleft⟩
  | ask question =>
      refine failsAt_of_catalogs hconfig rfl hfails ?_
      intro catalogs hprovides hask
      obtain ⟨t, hanswer⟩ := ask_run catalogs c.assistant question printed
      rw [hanswer] at hask
      cases hask
  | config isShown => exact absurd hfails print_ne_error

/-- Where the catalogs cannot be loaded, every command that uses them fails. -/
theorem runCommand_of_catalogs
    (hconfig : InForce read i.configPath c)
    (huses : i.command.usesCatalogs = true)
    (hload : loadCatalogs read c = .error f) :
    perform (runCommand read input i.configPath c i.command) printed = (.error f, printed) := by
  obtain ⟨path, command⟩ := i
  cases command with
  | tokenize file json => rw [runCommand, hload, perform_bind_error]
  | highlight file asked =>
      obtain ⟨theme, htheme⟩ := chooseTheme_eq_ok hconfig.problem?_eq_none asked
      rw [runCommand, htheme, perform_bind_ok, hload, perform_bind_error]
  | complete file asked => rw [runCommand, hload, perform_bind_error]
  | ask question => rw [runCommand, hload, perform_bind_error]
  | config isShown => cases huses

/-- Where its source cannot be read, a command fails. -/
theorem runCommand_of_source
    {catalogs : Catalogs} {file : Text}
    (hconfig : InForce read i.configPath c)
    (hcatalogs : loadCatalogs read c = .ok catalogs)
    (hsource : file ∈ i.command.sources)
    (hload : loadSource read input file = .error f) :
    perform (runCommand read input i.configPath c i.command) printed = (.error f, printed) := by
  obtain ⟨path, command⟩ := i
  cases command with
  | tokenize other json =>
      obtain rfl := List.mem_singleton.1 hsource
      rw [runCommand, hcatalogs, perform_bind_ok, hload, perform_bind_error]
  | highlight other asked =>
      obtain rfl := List.mem_singleton.1 hsource
      obtain ⟨theme, htheme⟩ := chooseTheme_eq_ok hconfig.problem?_eq_none asked
      rw [runCommand, htheme, perform_bind_ok, hcatalogs, perform_bind_ok, hload,
        perform_bind_error]
  | complete other asked =>
      obtain rfl := List.mem_singleton.1 hsource
      rw [runCommand, hcatalogs, perform_bind_ok, hload, perform_bind_error]
  | ask question => exact absurd hsource List.not_mem_nil
  | config isShown => exact absurd hsource List.not_mem_nil

/-- An invocation fails with the first stage that cannot be passed, and only so. -/
theorem run_error_iff :
    perform (run read input i) printed = (.error f, left) ↔
      FailsAt read input i f ∧ left = printed := by
  constructor
  · intro hfails
    rcases perform_bind_error_iff.1 hfails with ⟨hload, hleft⟩ | ⟨c, hload, hfails⟩
    · obtain ⟨e, hfile, herror, rfl⟩ := loadConfig_error_iff.1 hload
      exact ⟨FailsAt.config hfile herror, hleft⟩
    · exact failsAt_of_runCommand (loadConfig_ok_iff.1 hload) hfails
  · rintro ⟨hstage, rfl⟩
    cases hstage with
    | config hfile hload =>
        rw [run, loadConfig_error_iff.2 ⟨_, hfile, hload, rfl⟩, perform_bind_error]
    | catalogs hconfig huses hload =>
        rw [perform_run_of_inForce hconfig]
        exact runCommand_of_catalogs hconfig huses (loadCatalogs_error_iff.2 ⟨_, hload, rfl⟩)
    | source hprovides hsource hread =>
        obtain ⟨c, hconfig, hload⟩ := hprovides
        rw [perform_run_of_inForce hconfig]
        exact runCommand_of_source hconfig (loadCatalogs_ok_iff.2 hload) hsource
          (loadSource_error_iff.2 hread)
    | cursor hprovides hcommand hholds hword =>
        obtain ⟨c, hconfig, hload⟩ := hprovides
        rw [perform_run_of_inForce hconfig, hcommand, runCommand]
        rw [loadCatalogs_ok_iff.2 hload, perform_bind_ok]
        rw [loadSource_ok_iff.2 hholds, perform_bind_ok]
        exact complete_error_iff.2 ⟨rfl, _, hword, rfl⟩

/-- With the catalogs at hand only the source and the cursor are left to fail. -/
theorem FailsAt.behind_catalogs
    {catalogs : Catalogs}
    (hstage : FailsAt read input i f)
    (hprovides : Provides read i catalogs) :
    (∃ file ∈ i.command.sources, Unreadable read input file f) ∨
      ∃ file cursor source e,
        i.command = .complete file (some cursor) ∧ Holds read input file source ∧
          wordAt source cursor = .error e := by
  obtain ⟨c, hconfig, hload⟩ := hprovides
  cases hstage with
  | config hfile herror =>
      rw [InForce, if_pos hfile, herror] at hconfig
      cases hconfig
  | catalogs hother huses herror =>
      have hsame := (loadConfig_ok_iff.2 hother).symm.trans (loadConfig_ok_iff.2 hconfig)
      rw [Except.ok.inj hsame, hload] at herror
      cases herror
  | source hprovides hsource hread => exact Or.inl ⟨_, hsource, hread⟩
  | cursor hprovides hcommand hholds hword =>
      exact Or.inr ⟨_, _, _, _, hcommand, hholds, hword⟩

/-- A source that holds a text can be read. -/
theorem Unreadable.not_holds
    {file : Text}
    (hread : Unreadable read input file f)
    (source : Text) :
    ¬ Holds read input file source := by
  intro hholds
  rw [← loadSource_ok_iff, loadSource_error_iff.2 hread] at hholds
  cases hholds

end Commands

/-! ## Outcomes -/

/-- What is promised of the outcome of an invocation. -/
structure Disciplined (read : FileReader) (input : List UInt8) (i : Invocation) (o : Outcome) :
    Prop where
  /-- The exit code is 1 where some stage cannot be passed, and 0 otherwise. -/
  failed : o.exitCode = 1 ↔ ∃ f, FailsAt read input i f
  succeeded : o.exitCode = 0 ↔ ¬ ∃ f, FailsAt read input i f
  /-- The first stage that cannot be passed is reported, and there is only one. -/
  reported : ∀ f, FailsAt read input i f → o.report = some f.report
  first : ∀ f g, FailsAt read input i f → FailsAt read input i g → f = g
  unreported : o.exitCode = 0 → o.report = none
  /-- A command that fails prints nothing. -/
  silent : o.exitCode = 1 → o.printed = []
  /-- Highlighting does not fail for its theme, configured or not. -/
  highlighted : ∀ file theme?, i.command = .highlight file theme? →
    ∀ catalogs source, Provides read i catalogs → Holds read input file source → o.exitCode = 0
  /-- Completing at the end of the text does not fail for its cursor. -/
  completed : ∀ file, i.command = .complete file none →
    ∀ catalogs source, Provides read i catalogs → Holds read input file source → o.exitCode = 0
  /-- No question fails. -/
  answered : ∀ question, i.command = .ask question →
    ∀ catalogs, Provides read i catalogs → o.exitCode = 0

section Outcomes

variable {read : FileReader} {input : List UInt8} {i : Invocation} {args : List Text}

/-- The outcome of an invocation, by the first stage that cannot be passed. -/
theorem outcome_cases
    (read : FileReader) (input : List UInt8)
    (hargs : Request.ofArguments? args = some (.run i)) :
    (∃ f, FailsAt read input i f ∧ outcome read input args = ⟨1, [], some f.report⟩) ∨
      ((¬ ∃ f, FailsAt read input i f) ∧
        ∃ t, outcome read input args = ⟨0, t, none⟩) := by
  unfold outcome
  rw [hargs]
  simp only
  cases hrun : perform (run read input i) [] with
  | mk result left =>
      cases result with
      | error f =>
          obtain ⟨hstage, rfl⟩ := run_error_iff.1 hrun
          exact Or.inl ⟨f, hstage, rfl⟩
      | ok done =>
          refine Or.inr ⟨?_, left, rfl⟩
          rintro ⟨f, hstage⟩
          rw [run_error_iff.2 ⟨hstage, rfl⟩] at hrun
          cases hrun

theorem FailsAt.unique
    {f g : Failure}
    (hf : FailsAt read input i f)
    (hg : FailsAt read input i g) :
    f = g := by
  have hrun := run_error_iff.2 (And.intro hf (Eq.refl ([] : Text)))
  rw [run_error_iff.2 ⟨hg, rfl⟩] at hrun
  exact (Except.error.inj (Prod.mk.inj hrun).1).symm

theorem outcome_of_failsAt
    {f : Failure}
    (hargs : Request.ofArguments? args = some (.run i))
    (hstage : FailsAt read input i f) :
    outcome read input args = ⟨1, [], some f.report⟩ := by
  rcases outcome_cases read input hargs with ⟨g, hother, houtcome⟩ | ⟨hnone, -⟩
  · rw [hstage.unique hother]
    exact houtcome
  · exact absurd ⟨f, hstage⟩ hnone

theorem exitCode_eq_zero
    (hargs : Request.ofArguments? args = some (.run i))
    (hnone : ¬ ∃ f, FailsAt read input i f) :
    (outcome read input args).exitCode = 0 := by
  rcases outcome_cases read input hargs with ⟨f, hstage, -⟩ | ⟨-, t, houtcome⟩
  · exact absurd ⟨f, hstage⟩ hnone
  · rw [houtcome]

/-- With the catalogs and the source at hand, only a cursor that was asked for can fail. -/
theorem exitCode_eq_zero_of_provides
    (hargs : Request.ofArguments? args = some (.run i))
    {catalogs : Catalogs}
    (hprovides : Provides read i catalogs)
    (hholds : ∀ file ∈ i.command.sources, ∃ source, Holds read input file source)
    (hcursor : ∀ file cursor, i.command ≠ .complete file (some cursor)) :
    (outcome read input args).exitCode = 0 := by
  refine exitCode_eq_zero hargs ?_
  rintro ⟨f, hstage⟩
  rcases hstage.behind_catalogs hprovides with
    ⟨file, hsource, hread⟩ | ⟨file, cursor, source, e, hcommand, -⟩
  · obtain ⟨source, hsource⟩ := hholds file hsource
    exact hread.not_holds source hsource
  · exact hcursor file cursor hcommand

/--
Whatever the files and the standard input are: a call that asks for a command fails
exactly where a stage cannot be passed, reports the first such stage, and has printed
nothing then.  No theme, no question and no cursor that was not asked for makes it
fail.
-/
theorem outcome_disciplined
    (read : FileReader) (input : List UInt8) {args : List Text} {i : Invocation}
    (hargs : Request.ofArguments? args = some (.run i)) :
    Disciplined read input i (outcome read input args) where
  failed := by
    rcases outcome_cases read input hargs with ⟨f, hstage, houtcome⟩ | ⟨hnone, t, houtcome⟩
    · simp only [houtcome, true_iff]
      exact ⟨f, hstage⟩
    · simp [houtcome, not_exists.1 hnone]
  succeeded := by
    constructor
    · rintro hzero ⟨f, hstage⟩
      rw [outcome_of_failsAt hargs hstage] at hzero
      cases hzero
    · exact exitCode_eq_zero hargs
  reported := by
    intro f hstage
    rw [outcome_of_failsAt hargs hstage]
  first := fun f g hf hg => hf.unique hg
  unreported := by
    intro hzero
    rcases outcome_cases read input hargs with ⟨f, -, houtcome⟩ | ⟨-, t, houtcome⟩
    · rw [houtcome] at hzero
      cases hzero
    · rw [houtcome]
  silent := by
    intro hone
    rcases outcome_cases read input hargs with ⟨f, -, houtcome⟩ | ⟨-, t, houtcome⟩
    · rw [houtcome]
    · rw [houtcome] at hone
      cases hone
  highlighted := by
    intro file theme? hcommand catalogs source hprovides hholds
    refine exitCode_eq_zero_of_provides hargs hprovides ?_ ?_
    · simpa [hcommand, Command.sources] using ⟨source, hholds⟩
    · simp [hcommand]
  completed := by
    intro file hcommand catalogs source hprovides hholds
    refine exitCode_eq_zero_of_provides hargs hprovides ?_ ?_
    · simpa [hcommand, Command.sources] using ⟨source, hholds⟩
    · simp [hcommand]
  answered := by
    intro question hcommand catalogs hprovides
    refine exitCode_eq_zero_of_provides hargs hprovides ?_ ?_
    · simp [hcommand, Command.sources]
    · simp [hcommand]

/-- A cursor inside a character of two bytes on the standard input, without any files. -/
theorem outcome_inside_character :
    Request.ofArguments? ["complete".toList, ['-'], "--cursor=2".toList] =
        some (.run ⟨"aoi.toml".toList, .complete ['-'] (some 2)⟩) ∧
      ∃ o, o = outcome (Directory.ofFiles []).read [0x61, 0xC3, 0xA9]
            ["complete".toList, ['-'], "--cursor=2".toList] ∧
        o.exitCode = 1 ∧ o.printed = [] ∧
        o.report = some "cursor 2 is not on a character boundary".toList := by
  have hargs :
      Request.ofArguments? ["complete".toList, ['-'], "--cursor=2".toList] =
        some (.run ⟨"aoi.toml".toList, .complete ['-'] (some 2)⟩) := by decide
  have hload := Catalogs.load_unset (Directory.ofFiles []).read
  have hholds : Holds (Directory.ofFiles []).read [0x61, 0xC3, 0xA9] ['-'] ['a', 'é'] :=
    loadSource_ok_iff.1 rfl
  have hstage :
      FailsAt (Directory.ofFiles []).read [0x61, 0xC3, 0xA9]
        ⟨"aoi.toml".toList, .complete ['-'] (some 2)⟩ (.cursor (.notCharBoundary 2)) :=
    FailsAt.cursor ⟨{}, loadConfig_ok_iff.1 rfl, hload⟩ rfl hholds (by decide)
  have h := outcome_disciplined (Directory.ofFiles []).read [0x61, 0xC3, 0xA9] hargs
  refine ⟨hargs, _, rfl, h.failed.2 ⟨_, hstage⟩, h.silent (h.failed.2 ⟨_, hstage⟩), ?_⟩
  exact h.reported _ hstage

end Outcomes

end CommandLine
end TeachingEditor
