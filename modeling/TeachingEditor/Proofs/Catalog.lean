import TeachingEditor.Catalog.Loading
import TeachingEditor.Proofs.Language.Grammar

/-!
# Usable catalogs

A check of catalogs looks at the characters of the reserved words, at the labels and
at the keywords.  What the catalogs are for is said here without it: a reserved word
is one that the reader of tokens gives back as one token of its kind, an item can be
shown, and an entry is selected by something, but not by everything.

**Algorithm.**  A text is a whole word for the reader exactly when it has the shape
that the check looks for (`isIdentifier_iff_wholeWord`), and of a whole word the
reader makes one token of the kind of the word (`readsAs_iff_rule`).  The other two checks
walk along a list and stop at the first element that is not in order; what they find
is said by the elements before it.

**Results.**
* `load_unset`: the shipped catalogs are usable, and are loaded where nothing else is set.
* `checked_ok_iff_usable`: exactly the usable catalogs pass the check, and of other
  catalogs a problem is reported that comes before all problems of a later kind and of
  a later place.
-/

namespace TeachingEditor
namespace Catalogs

/-! ## What the catalogs are for -/

/-- The tokens of a word are one token of a kind, and it covers the word. -/
def ReadsAs (v : Vocabulary) (kind : TokenKind) (word : Text) : Prop :=
  tokenize v word = [⟨kind, word, ⟨0, Text.size word⟩⟩]

/-- A reserved word that is read as something else; a keyword need not be read as a builtin. -/
def IsMisread (v : Vocabulary) (word : Text) : Prop :=
  (word ∈ v.keywords ∧ ¬ ReadsAs v .keyword word) ∨
    (word ∈ v.builtins ∧ word ∉ v.keywords ∧ ¬ ReadsAs v .builtinFunction word)

/-- Some keyword selects the entry, and none is blank. -/
def IsSelective (entry : FaqEntry) : Prop :=
  entry.keywords ≠ [] ∧ ∀ k ∈ entry.keywords, ∃ c ∈ k, Text.isBlank c = false

/-- Catalogs that can be worked with. -/
structure Usable (c : Catalogs) : Prop where
  keywords : ∀ word ∈ c.vocabulary.keywords, ReadsAs c.vocabulary .keyword word
  builtins : ∀ word ∈ c.vocabulary.builtins, word ∉ c.vocabulary.keywords →
    ReadsAs c.vocabulary .builtinFunction word
  labels : ∀ item ∈ c.completions, item.label ≠ []
  entries : ∀ entry ∈ c.knowledge, IsSelective entry

/-- A problem before which no other kind and no other place has one. -/
inductive FirstProblem (c : Catalogs) : Problem → Prop
  | word {word : Text}
      (hword : IsMisread c.vocabulary word) :
      FirstProblem c (.notAnIdentifier word)
  | label {before after : List CompletionItem} {item : CompletionItem}
      (hwords : ∀ word, ¬ IsMisread c.vocabulary word)
      (hitems : c.completions = before ++ item :: after)
      (hbefore : ∀ other ∈ before, other.label ≠ [])
      (hlabel : item.label = []) :
      FirstProblem c (.emptyLabel before.length)
  | noKeywords {before after : List FaqEntry} {entry : FaqEntry}
      (hwords : ∀ word, ¬ IsMisread c.vocabulary word)
      (hlabels : ∀ item ∈ c.completions, item.label ≠ [])
      (hentries : c.knowledge = before ++ entry :: after)
      (hbefore : ∀ other ∈ before, IsSelective other)
      (hnone : entry.keywords = []) :
      FirstProblem c (.noKeywords before.length entry.question)
  | emptyKeyword {before after : List FaqEntry} {entry : FaqEntry} {k : Text}
      (hwords : ∀ word, ¬ IsMisread c.vocabulary word)
      (hlabels : ∀ item ∈ c.completions, item.label ≠ [])
      (hentries : c.knowledge = before ++ entry :: after)
      (hbefore : ∀ other ∈ before, IsSelective other)
      (hmem : k ∈ entry.keywords)
      (hblank : ∀ c ∈ k, Text.isBlank c = true) :
      FirstProblem c (.emptyKeyword before.length entry.question)

/-! ## Reserved words -/

/-- A text is read as one token exactly when it obeys the rule for it, with nothing behind. -/
theorem readsAs_iff_rule
    {v : Vocabulary} {kind : TokenKind} {word : Text} :
    ReadsAs v kind word ↔ TokenRule v word none kind := by
  constructor
  · intro hreads
    have hsplit : tokenize v word = [] ++ [⟨kind, word, ⟨0, Text.size word⟩⟩] := hreads
    exact tokenize_split_rule hsplit
  · intro hrule
    obtain ⟨c, rest, rfl⟩ := List.exists_cons_of_ne_nil hrule.ne_nil
    have hscan : scan v c rest = ⟨kind, c :: rest, []⟩ :=
      scan_eq_of_rule hrule (List.append_nil (c :: rest))
    unfold ReadsAs tokenize
    rw [tokenizeFrom_cons, firstToken, hscan, tokenizeFrom_nil, Nat.zero_add]

theorem readsAs_keyword_iff
    {v : Vocabulary} {word : Text}
    (hmem : word ∈ v.keywords) :
    ReadsAs v .keyword word ↔ isIdentifier word = true := by
  have hclass : v.classify word = .keyword := if_pos hmem
  rw [readsAs_iff_rule, isIdentifier_iff_wholeWord]
  exact and_iff_left hclass

theorem readsAs_builtin_iff
    {v : Vocabulary} {word : Text}
    (hmem : word ∈ v.builtins)
    (hother : word ∉ v.keywords) :
    ReadsAs v .builtinFunction word ↔ isIdentifier word = true := by
  have hclass : v.classify word = .builtinFunction := by
    rw [Vocabulary.classify, if_neg hother, if_pos hmem]
  rw [readsAs_iff_rule, isIdentifier_iff_wholeWord]
  exact and_iff_left hclass

theorem mem_words
    {v : Vocabulary} {word : Text} :
    word ∈ v.words ↔ word ∈ v.keywords ∨ word ∈ v.builtins :=
  List.mem_append

/-- The reserved words that are misread are those without the shape of a word. -/
theorem isMisread_iff
    {v : Vocabulary} {word : Text} :
    IsMisread v word ↔ word ∈ v.words ∧ isIdentifier word = false := by
  rw [mem_words, ← Bool.not_eq_true]
  unfold IsMisread
  by_cases hkeyword : word ∈ v.keywords
  · simp [hkeyword, readsAs_keyword_iff hkeyword]
  · by_cases hbuiltin : word ∈ v.builtins
    · simp [hkeyword, hbuiltin, readsAs_builtin_iff hbuiltin hkeyword]
    · simp [hkeyword, hbuiltin]

theorem wordProblem?_eq_none_iff
    {v : Vocabulary} :
    wordProblem? v = none ↔ ∀ word, ¬ IsMisread v word := by
  simp [wordProblem?, isMisread_iff]

theorem wordProblem?_eq_some
    {v : Vocabulary} {p : Problem}
    (hproblem : wordProblem? v = some p) :
    ∃ word, IsMisread v word ∧ p = .notAnIdentifier word := by
  obtain ⟨word, hfound, rfl⟩ := Option.map_eq_some_iff.1 hproblem
  have hshape : isIdentifier word = false := by simpa using List.find?_some hfound
  exact ⟨word, isMisread_iff.2 ⟨List.mem_of_find?_eq_some hfound, hshape⟩, rfl⟩

/-! ## Items and entries -/

theorem labelProblemFrom?_eq_none_iff
    {index : Nat} {items : List CompletionItem} :
    labelProblemFrom? index items = none ↔ ∀ item ∈ items, item.label ≠ [] := by
  induction items generalizing index with
  | nil => simp [labelProblemFrom?]
  | cons item rest ih =>
      unfold labelProblemFrom?
      by_cases hempty : item.label = []
      · simp [hempty]
      · simp [hempty, ih]

/-- The problem of a label is that of the first item without one. -/
theorem labelProblemFrom?_eq_some
    {index : Nat} {items : List CompletionItem} {p : Problem}
    (hproblem : labelProblemFrom? index items = some p) :
    ∃ before item after,
      items = before ++ item :: after ∧ (∀ other ∈ before, other.label ≠ []) ∧
        item.label = [] ∧ p = .emptyLabel (index + before.length) := by
  induction items generalizing index with
  | nil => cases hproblem
  | cons item rest ih =>
      unfold labelProblemFrom? at hproblem
      split at hproblem
      · next hempty =>
          refine ⟨[], item, rest, rfl, by simp, List.isEmpty_iff.1 hempty, ?_⟩
          exact (Option.some.inj hproblem).symm
      · next hlabel =>
          obtain ⟨before, bad, after, rfl, hbefore, hbad, hp⟩ := ih hproblem
          refine ⟨item :: before, bad, after, rfl, ?_, hbad, ?_⟩
          · rw [List.isEmpty_iff] at hlabel
            exact List.forall_mem_cons.2 ⟨hlabel, hbefore⟩
          · rw [hp, List.length_cons, Nat.add_assoc, Nat.add_comm 1]

/-- What the check asks of an entry is that it is selected by something and not by everything. -/
theorem isSelective_iff
    {entry : FaqEntry} :
    IsSelective entry ↔
      entry.keywords ≠ [] ∧ ∀ k ∈ entry.keywords, Text.trim k ≠ [] := by
  have hkeyword : ∀ k : Text, Text.trim k ≠ [] ↔ ∃ c ∈ k, Text.isBlank c = false := by
    intro k
    rw [Ne, Text.trim_eq_nil_iff]
    simp
  simp only [IsSelective, hkeyword]

theorem keywordProblemFrom?_eq_none_iff
    {index : Nat} {entries : List FaqEntry} :
    keywordProblemFrom? index entries = none ↔ ∀ entry ∈ entries, IsSelective entry := by
  induction entries generalizing index with
  | nil => simp [keywordProblemFrom?]
  | cons entry rest ih =>
      unfold keywordProblemFrom?
      rw [List.forall_mem_cons, isSelective_iff]
      by_cases hnone : entry.keywords = []
      · simp [hnone]
      · by_cases hblank : ∃ k ∈ entry.keywords, Text.trim k = []
        · simp [hnone, hblank]
        · have hkeep : ∀ k ∈ entry.keywords, ¬ Text.trim k = [] :=
            fun k hk hempty => hblank ⟨k, hk, hempty⟩
          simpa [hnone, hblank, ih] using fun _ => hkeep

/-- The problem of an entry is that of the first one that is not selective. -/
theorem keywordProblemFrom?_eq_some
    {index : Nat} {entries : List FaqEntry} {p : Problem}
    (hproblem : keywordProblemFrom? index entries = some p) :
    ∃ before entry after,
      entries = before ++ entry :: after ∧ (∀ other ∈ before, IsSelective other) ∧
        ((entry.keywords = [] ∧ p = .noKeywords (index + before.length) entry.question) ∨
          (entry.keywords ≠ [] ∧ (∃ k ∈ entry.keywords, ∀ c ∈ k, Text.isBlank c = true) ∧
            p = .emptyKeyword (index + before.length) entry.question)) := by
  induction entries generalizing index with
  | nil => cases hproblem
  | cons entry rest ih =>
      unfold keywordProblemFrom? at hproblem
      split at hproblem
      · next hnone =>
          refine ⟨[], entry, rest, rfl, by simp, Or.inl ⟨List.isEmpty_iff.1 hnone, ?_⟩⟩
          exact (Option.some.inj hproblem).symm
      · next hsome =>
          rw [List.isEmpty_iff] at hsome
          split at hproblem
          · next hblank =>
              have hkeyword : ∃ k ∈ entry.keywords, ∀ c ∈ k, Text.isBlank c = true := by
                simpa [Text.trim_eq_nil_iff] using hblank
              refine ⟨[], entry, rest, rfl, by simp, Or.inr ⟨hsome, hkeyword, ?_⟩⟩
              exact (Option.some.inj hproblem).symm
          · next hblank =>
              obtain ⟨before, bad, after, rfl, hbefore, hbad⟩ := ih hproblem
              have hselective : IsSelective entry :=
                isSelective_iff.2 ⟨hsome, by simpa using hblank⟩
              refine ⟨entry :: before, bad, after, rfl, ?_, ?_⟩
              · exact List.forall_mem_cons.2 ⟨hselective, hbefore⟩
              · rw [List.length_cons, Nat.add_comm before.length, ← Nat.add_assoc]
                exact hbad

/-! ## The check -/

theorem problem?_eq_none_iff
    {c : Catalogs} :
    c.problem? = none ↔ Usable c := by
  have husable : Usable c ↔
      (∀ word, ¬ IsMisread c.vocabulary word) ∧
        (∀ item ∈ c.completions, item.label ≠ []) ∧ ∀ entry ∈ c.knowledge, IsSelective entry := by
    constructor
    · intro h
      refine ⟨?_, h.labels, h.entries⟩
      rintro word (⟨hmem, hbad⟩ | ⟨hmem, hother, hbad⟩)
      · exact hbad (h.keywords word hmem)
      · exact hbad (h.builtins word hmem hother)
    · rintro ⟨hwords, hlabels, hentries⟩
      refine ⟨?_, ?_, hlabels, hentries⟩
      · intro word hmem
        by_contra hbad
        exact hwords word (Or.inl ⟨hmem, hbad⟩)
      · intro word hmem hother
        by_contra hbad
        exact hwords word (Or.inr ⟨hmem, hother, hbad⟩)
  rw [husable, problem?, Option.or_eq_none_iff, Option.or_eq_none_iff]
  rw [wordProblem?_eq_none_iff, labelProblemFrom?_eq_none_iff, keywordProblemFrom?_eq_none_iff]

/-- What is reported comes before all problems of a later kind and of a later place. -/
theorem firstProblem_of_problem?
    {c : Catalogs} {p : Problem}
    (hproblem : c.problem? = some p) :
    FirstProblem c p := by
  unfold problem? at hproblem
  rcases Option.or_eq_some_iff.1 hproblem with hword | ⟨hwords, hproblem⟩
  · obtain ⟨word, hmisread, rfl⟩ := wordProblem?_eq_some hword
    exact FirstProblem.word hmisread
  rw [wordProblem?_eq_none_iff] at hwords
  rcases Option.or_eq_some_iff.1 hproblem with hlabel | ⟨hlabels, hentry⟩
  · obtain ⟨before, item, after, hitems, hbefore, hempty, rfl⟩ := labelProblemFrom?_eq_some hlabel
    rw [Nat.zero_add]
    exact FirstProblem.label hwords hitems hbefore hempty
  rw [labelProblemFrom?_eq_none_iff] at hlabels
  obtain ⟨before, entry, after, hentries, hbefore, hbad⟩ := keywordProblemFrom?_eq_some hentry
  rw [Nat.zero_add] at hbad
  rcases hbad with ⟨hnone, rfl⟩ | ⟨hsome, ⟨k, hmem, hblank⟩, rfl⟩
  · exact FirstProblem.noKeywords hwords hlabels hentries hbefore hnone
  · exact FirstProblem.emptyKeyword hwords hlabels hentries hbefore hmem hblank

theorem checked_of_usable
    {c : Catalogs}
    (husable : Usable c) :
    c.checked = .ok c := by
  rw [checked, problem?_eq_none_iff.2 husable]

theorem usable_of_checked
    {c d : Catalogs}
    (hchecked : c.checked = .ok d) :
    Usable c := by
  unfold checked at hchecked
  split at hchecked
  · cases hchecked
  · next hproblem => exact problem?_eq_none_iff.1 hproblem

/-- The shipped catalogs can be worked with. -/
theorem usable_shipped :
    Usable Shipped.catalogs :=
  problem?_eq_none_iff.1 (by decide +kernel)

/-- Where no path is set, the shipped catalogs are loaded. -/
theorem load_unset
    (read : FileReader) :
    load read {} = .ok Shipped.catalogs :=
  checked_of_usable usable_shipped

/--
Exactly the catalogs that can be worked with pass the check.  Of others the first
problem is reported: a misread word before all else, then the first item without a
label, then the first entry that is selected by nothing or by everything.
-/
theorem checked_ok_iff_usable
    (c : Catalogs) :
    (c.checked = .ok c ↔ Usable c) ∧
      (¬ Usable c → ∃ p, c.checked = .error (.unusable p) ∧ FirstProblem c p) := by
  rw [← problem?_eq_none_iff]
  unfold checked
  cases hproblem : c.problem? with
  | none => simp
  | some p => simpa using firstProblem_of_problem? hproblem

end Catalogs
end TeachingEditor
