import TeachingEditor.Proofs.Catalog
import TeachingEditor.Proofs.Text.Utf8

/-!
# Which catalogs are loaded, and which failure is reported

Three settings choose three catalogs, and each of them can fail in several ways.  The
outcome of loading is said here without the program: first what each setting stands
for by itself, then which of the three failures counts.

**Format.**  `Stands` lists what a setting can stand for: the shipped catalog, a file
that cannot be read, a file that is no text, a text that is no such catalog, and a
catalog.  `Loads` puts three settings together; each of its cases names everything that
must have gone well before.

**Algorithm.**  `resolve` gives what a setting stands for (`resolve_eq_iff_stands`),
so a setting stands for one thing only (`Stands.unique`), and the rest is the order in
which the three are looked at.

**Results.**
* `load_eq_iff_loads`: loading gives exactly what the relation allows.
* `load_first_failure`: this together with what follows from it: the check comes last
  and looks at all three, and no setting reaches the catalog of another.
-/

namespace TeachingEditor
namespace Catalogs

/-! ## One setting -/

section Setting

variable {α : Type} {name : CatalogName} {shipped : α} {parse : Text → Except Toml.Fault α}

/-- What a setting stands for; a file is a text if it holds what is written for the text. -/
inductive Stands (read : FileReader) (name : CatalogName) (shipped : α)
    (parse : Text → Except Toml.Fault α) : Option Text → Except CatalogError α → Prop
  | shipped :
      Stands read name shipped parse none (.ok shipped)
  | unreadable {path : Text} {cause : FileError}
      (hfile : read path = .error cause) :
      Stands read name shipped parse (some path) (.error (.unreadable path cause))
  | notText {path : Text} {bytes : List UInt8}
      (hfile : read path = .ok bytes)
      (hbytes : ∀ t, bytes ≠ Utf8.encode t) :
      Stands read name shipped parse (some path) (.error (.unreadable path .notUtf8))
  | unparsable {path t : Text} {fault : Toml.Fault}
      (hfile : read path = .ok (Utf8.encode t))
      (hparse : parse t = .error fault) :
      Stands read name shipped parse (some path) (.error (.unparsable name fault))
  | parsed {path t : Text} {a : α}
      (hfile : read path = .ok (Utf8.encode t))
      (hparse : parse t = .ok a) :
      Stands read name shipped parse (some path) (.ok a)

variable {read : FileReader} {setting : Option Text} {r : Except CatalogError α}

theorem stands_resolve
    (read : FileReader) (name : CatalogName) (shipped : α)
    (parse : Text → Except Toml.Fault α) (setting : Option Text) :
    Stands read name shipped parse setting (resolve read name shipped parse setting) := by
  cases setting with
  | none => exact Stands.shipped
  | some path =>
      cases htext : read.readText path with
      | error cause =>
          simp only [resolve, htext]
          rcases FileReader.readText_eq_error_iff.1 htext with hfile | ⟨rfl, bytes, hfile, hbytes⟩
          · exact Stands.unreadable hfile
          · exact Stands.notText hfile hbytes
      | ok t =>
          have hfile := FileReader.readText_eq_ok_iff.1 htext
          cases hparse : parse t with
          | error fault =>
              simp only [resolve, htext, hparse]
              exact Stands.unparsable hfile hparse
          | ok a =>
              simp only [resolve, htext, hparse]
              exact Stands.parsed hfile hparse

theorem Stands.resolve_eq
    (h : Stands read name shipped parse setting r) :
    resolve read name shipped parse setting = r := by
  cases h with
  | shipped => rfl
  | unreadable hfile =>
      have htext := FileReader.readText_eq_error_iff.2 (Or.inl hfile)
      simp [resolve, htext]
  | notText hfile hbytes =>
      have htext := FileReader.readText_eq_error_iff.2 (Or.inr ⟨rfl, _, hfile, hbytes⟩)
      simp [resolve, htext]
  | unparsable hfile hparse =>
      have htext := FileReader.readText_eq_ok_iff.2 hfile
      simp [resolve, htext, hparse]
  | parsed hfile hparse =>
      have htext := FileReader.readText_eq_ok_iff.2 hfile
      simp [resolve, htext, hparse]

/-- A setting is resolved to what it stands for. -/
theorem resolve_eq_iff_stands :
    resolve read name shipped parse setting = r ↔ Stands read name shipped parse setting r := by
  constructor
  · rintro rfl
    exact stands_resolve read name shipped parse setting
  · exact Stands.resolve_eq

theorem Stands.unique
    {s : Except CatalogError α}
    (hr : Stands read name shipped parse setting r)
    (hs : Stands read name shipped parse setting s) :
    r = s :=
  hr.resolve_eq.symm.trans hs.resolve_eq

/-- A setting is the same for two readers, and so is the file that it names. -/
structure Same (read other : FileReader) (setting setting' : Option Text) : Prop where
  sameSetting : setting' = setting
  sameFile : ∀ path, setting = some path → other path = read path

/-- A setting stands for the same whatever else there is. -/
theorem Stands.of_same
    {other : FileReader} {setting' : Option Text}
    (hsame : Same read other setting setting')
    (h : Stands read name shipped parse setting r) :
    Stands other name shipped parse setting' r := by
  obtain ⟨rfl, hfile⟩ := hsame
  cases h with
  | shipped => exact Stands.shipped
  | unreadable hread => exact Stands.unreadable ((hfile _ rfl).trans hread)
  | notText hread hbytes => exact Stands.notText ((hfile _ rfl).trans hread) hbytes
  | unparsable hread hparse => exact Stands.unparsable ((hfile _ rfl).trans hread) hparse
  | parsed hread hparse => exact Stands.parsed ((hfile _ rfl).trans hread) hparse

theorem Stands.value_eq
    {other : FileReader} {setting' : Option Text} {a b : α}
    (ha : Stands read name shipped parse setting (.ok a))
    (hb : Stands other name shipped parse setting' (.ok b))
    (hsame : Same read other setting setting') :
    b = a :=
  Except.ok.inj (hb.unique (ha.of_same hsame))

end Setting

/-! ## The three settings -/

/-- What the setting of the vocabulary stands for. -/
abbrev VocabularyIs (read : FileReader) : Option Text → Except CatalogError Vocabulary → Prop :=
  Stands read .vocabulary Shipped.vocabulary parseVocabulary

/-- What the setting of the completion items stands for. -/
abbrev CompletionsAre (read : FileReader) :
    Option Text → Except CatalogError (List CompletionItem) → Prop :=
  Stands read .completion Shipped.completions parseCompletions

/-- What the setting of the predefined answers stands for. -/
abbrev KnowledgeIs (read : FileReader) :
    Option Text → Except CatalogError (List FaqEntry) → Prop :=
  Stands read .knowledge Shipped.knowledge parseKnowledge

/-- Each part is what its own setting stands for. -/
structure Chosen (read : FileReader) (paths : CatalogPaths) (c : Catalogs) : Prop where
  vocabulary : VocabularyIs read paths.vocabulary (.ok c.vocabulary)
  completions : CompletionsAre read paths.completions (.ok c.completions)
  knowledge : KnowledgeIs read paths.knowledge (.ok c.knowledge)

/-- What loading gives: the first failure of a setting, and otherwise what the check says. -/
inductive Loads (read : FileReader) (paths : CatalogPaths) : Except CatalogError Catalogs → Prop
  | vocabulary {e : CatalogError}
      (hfails : VocabularyIs read paths.vocabulary (.error e)) :
      Loads read paths (.error e)
  | completions {v : Vocabulary} {e : CatalogError}
      (hvocabulary : VocabularyIs read paths.vocabulary (.ok v))
      (hfails : CompletionsAre read paths.completions (.error e)) :
      Loads read paths (.error e)
  | knowledge {v : Vocabulary} {items : List CompletionItem} {e : CatalogError}
      (hvocabulary : VocabularyIs read paths.vocabulary (.ok v))
      (hcompletions : CompletionsAre read paths.completions (.ok items))
      (hfails : KnowledgeIs read paths.knowledge (.error e)) :
      Loads read paths (.error e)
  | checked {c : Catalogs} {r : Except CatalogError Catalogs}
      (hchosen : Chosen read paths c)
      (hcheck : c.checked = r) :
      Loads read paths r

variable {read : FileReader} {paths : CatalogPaths} {r : Except CatalogError Catalogs}

theorem loads_load
    (read : FileReader) (paths : CatalogPaths) :
    Loads read paths (load read paths) := by
  unfold load
  cases hvocabulary :
      resolve read .vocabulary Shipped.vocabulary parseVocabulary paths.vocabulary with
  | error e => exact Loads.vocabulary (resolve_eq_iff_stands.1 hvocabulary)
  | ok v =>
  rw [resolve_eq_iff_stands] at hvocabulary
  cases hcompletions :
      resolve read .completion Shipped.completions parseCompletions paths.completions with
  | error e => exact Loads.completions hvocabulary (resolve_eq_iff_stands.1 hcompletions)
  | ok items =>
  rw [resolve_eq_iff_stands] at hcompletions
  cases hknowledge :
      resolve read .knowledge Shipped.knowledge parseKnowledge paths.knowledge with
  | error e =>
      exact Loads.knowledge hvocabulary hcompletions (resolve_eq_iff_stands.1 hknowledge)
  | ok entries =>
      rw [resolve_eq_iff_stands] at hknowledge
      exact Loads.checked ⟨hvocabulary, hcompletions, hknowledge⟩ rfl

theorem Loads.load_eq
    (h : Loads read paths r) :
    load read paths = r := by
  unfold load
  cases h with
  | vocabulary hfails =>
      rw [hfails.resolve_eq]
      rfl
  | completions hvocabulary hfails =>
      rw [hvocabulary.resolve_eq, hfails.resolve_eq]
      rfl
  | knowledge hvocabulary hcompletions hfails =>
      rw [hvocabulary.resolve_eq, hcompletions.resolve_eq, hfails.resolve_eq]
      rfl
  | checked hchosen hcheck =>
      rw [hchosen.vocabulary.resolve_eq, hchosen.completions.resolve_eq,
        hchosen.knowledge.resolve_eq]
      exact hcheck

/-- Loading gives exactly what the three settings and the check allow. -/
theorem load_eq_iff_loads :
    load read paths = r ↔ Loads read paths r := by
  constructor
  · rintro rfl
    exact loads_load read paths
  · exact Loads.load_eq

/-! ## The check -/

theorem checked_eq_ok
    {c d : Catalogs}
    (h : c.checked = .ok d) :
    c = d := by
  unfold checked at h
  split at h
  · cases h
  · exact Except.ok.inj h

/-- A setting that fails does so with its file or with its document. -/
theorem Stands.ne_unusable
    {α : Type} {name : CatalogName} {shipped : α} {parse : Text → Except Toml.Fault α}
    {setting : Option Text} {e : CatalogError}
    (h : Stands read name shipped parse setting (.error e))
    (p : Problem) :
    e ≠ .unusable p := by
  cases h <;> simp

theorem load_eq_ok_iff
    {c : Catalogs} :
    load read paths = .ok c ↔ Chosen read paths c ∧ c.checked = .ok c := by
  rw [load_eq_iff_loads]
  constructor
  · intro h
    cases h with
    | checked hchosen hcheck =>
        obtain rfl := checked_eq_ok hcheck
        exact ⟨hchosen, hcheck⟩
  · rintro ⟨hchosen, hcheck⟩
    exact Loads.checked hchosen hcheck

/-- The check is what fails exactly where all settings are resolved and the check fails. -/
theorem load_eq_unusable_iff
    {p : Problem} :
    load read paths = .error (.unusable p) ↔
      ∃ c, Chosen read paths c ∧ c.checked = .error (.unusable p) := by
  rw [load_eq_iff_loads]
  constructor
  · intro h
    cases h with
    | vocabulary hfails => exact absurd rfl (hfails.ne_unusable p)
    | completions hvocabulary hfails => exact absurd rfl (hfails.ne_unusable p)
    | knowledge hvocabulary hcompletions hfails => exact absurd rfl (hfails.ne_unusable p)
    | checked hchosen hcheck => exact ⟨_, hchosen, hcheck⟩
  · rintro ⟨c, hchosen, hcheck⟩
    exact Loads.checked hchosen hcheck

/--
What loading gives, for all settings and all files.

1. The outcome is the failure of the first setting that fails, in the order vocabulary,
   completion items, predefined answers, and otherwise what the check says.
2. The check fails only where all three settings stand for a catalog, and then with what
   it says of these three together.
3. Otherwise the three are given as they are.
4. Each of them stays what it is when the other two settings, or other files, change.
5. Where nothing is set, the outcome is that of the shipped catalogs, which pass the check.
-/
theorem load_first_failure
    (read : FileReader) (paths : CatalogPaths) :
    (∀ r, load read paths = r ↔ Loads read paths r) ∧
      (∀ p, load read paths = .error (.unusable p) ↔
        ∃ c, Chosen read paths c ∧ c.checked = .error (.unusable p)) ∧
      (∀ c, load read paths = .ok c ↔ Chosen read paths c ∧ c.checked = .ok c) ∧
      (∀ c other paths' c', load read paths = .ok c → load other paths' = .ok c' →
        (Same read other paths.vocabulary paths'.vocabulary → c'.vocabulary = c.vocabulary) ∧
        (Same read other paths.completions paths'.completions → c'.completions = c.completions) ∧
        (Same read other paths.knowledge paths'.knowledge → c'.knowledge = c.knowledge)) ∧
      load read {} = builtin ∧ builtin = .ok Shipped.catalogs := by
  refine ⟨fun r => load_eq_iff_loads, fun p => load_eq_unusable_iff, fun c => load_eq_ok_iff,
    ?_, rfl, checked_of_usable usable_shipped⟩
  intro c other paths' c' hload hload'
  obtain ⟨hchosen, -⟩ := load_eq_ok_iff.1 hload
  obtain ⟨hchosen', -⟩ := load_eq_ok_iff.1 hload'
  exact ⟨hchosen.vocabulary.value_eq hchosen'.vocabulary,
    hchosen.completions.value_eq hchosen'.completions,
    hchosen.knowledge.value_eq hchosen'.knowledge⟩

/-- An empty document, which lists no items and no answers, and a file that is no text. -/
def twoFiles : FileReader :=
  Directory.read (.ofFiles [("empty".toList, []), ("latin".toList, [0xE9])])

/-- The first of two bad files is reported, and two good ones leave the vocabulary alone. -/
theorem load_first_failure_twoFiles :
    load twoFiles { completions := some "latin".toList, knowledge := some "none".toList } =
        .error (.unreadable "latin".toList .notUtf8) ∧
      ∃ c c', load twoFiles { completions := some "empty".toList } = .ok c ∧
        load twoFiles { knowledge := some "empty".toList } = .ok c' ∧
        c'.vocabulary = c.vocabulary := by
  constructor
  · have hlatin : twoFiles "latin".toList = .ok [0xE9] := by decide +kernel
    have hbytes : ∀ t, [0xE9] ≠ Utf8.encode t := by
      intro t htext
      cases Utf8.decode_eq_ok_iff.2 htext
    refine ((load_first_failure twoFiles _).1 _).2 (Loads.completions Stands.shipped ?_)
    exact Stands.notText hlatin hbytes
  · have hfile : twoFiles "empty".toList = .ok (Utf8.encode []) := by decide +kernel
    have husable := usable_shipped
    have hitems : load twoFiles { completions := some "empty".toList } =
        .ok ⟨Shipped.vocabulary, [], Shipped.knowledge⟩ :=
      load_eq_ok_iff.2 ⟨⟨Stands.shipped, Stands.parsed hfile rfl, Stands.shipped⟩,
        checked_of_usable ⟨husable.keywords, husable.builtins, by simp, husable.entries⟩⟩
    have hentries : load twoFiles { knowledge := some "empty".toList } =
        .ok ⟨Shipped.vocabulary, Shipped.completions, []⟩ :=
      load_eq_ok_iff.2 ⟨⟨Stands.shipped, Stands.shipped, Stands.parsed hfile rfl⟩,
        checked_of_usable ⟨husable.keywords, husable.builtins, husable.labels, by simp⟩⟩
    have hsame : Same twoFiles twoFiles none none := ⟨rfl, fun _ _ => rfl⟩
    obtain ⟨-, -, -, hindependent, -⟩ :=
      load_first_failure twoFiles { completions := some "empty".toList }
    exact ⟨_, _, hitems, hentries, (hindependent _ twoFiles _ _ hitems hentries).1 hsame⟩

end Catalogs
end TeachingEditor
