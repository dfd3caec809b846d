import TeachingEditor.Proofs.Knowledge
import TeachingEditor.Proofs.Text.Sigma

/-!
# Queries that contain a keyword

A query in which a keyword stands as it is written should be answered.  The search
compares lower-case forms, and these agree unless the keyword has a capital sigma of
which its surroundings decide whether it ends a word.

**Algorithm.**  A keyword that occurs is found, as a phrase if it has a space
(`findMatch?_of_occurs`), because the first round sees all phrases and the second sees
all keywords.  Whether a keyword occurs where it stands is a question about lower-casing
a part of a text.

**Results.**
* `contained_keyword_found`: a keyword is found in every query that contains it, in each
  surrounding that leaves its capital sigmas in form; those that all surroundings leave
  in form are the ones that the keyword settles by itself, and every other keyword is
  missed in some query that contains it.
* `capital_sigma_missed`: the smallest keyword that is missed.
-/

namespace TeachingEditor

/-- A keyword that occurs is found, and as a phrase if it is one. -/
theorem findMatch?_of_occurs
    {entries : List FaqEntry} {entry : FaqEntry} {query keyword : Text}
    (hentry : entry ∈ entries)
    (hkeyword : keyword ∈ entry.keywords)
    (hoccurs : Occurs query keyword) :
    ∃ m, findMatch? entries query = some m ∧ (' ' ∈ keyword → m.pass = .phrase) := by
  cases hfound : findMatch? entries query with
  | none =>
      have hnone := placesOf_eq_empty_iff.1 (findMatch?_eq_none_iff.1 hfound)
      exact absurd hoccurs (hnone entry hentry keyword hkeyword)
  | some m =>
      refine ⟨m, rfl, ?_⟩
      intro hspace
      cases findMatch?_eq_some_iff.1 hfound with
      | phrase hpass hfirst => exact hpass
      | keyword hphrases hpass hfirst =>
          have hnone := placesOf_eq_empty_iff.1 hphrases
          exact absurd ⟨hspace, hoccurs⟩ (hnone entry hentry keyword hkeyword)

/-- An entry with one keyword is found only where that occurs. -/
theorem findMatch?_eq_none_of_not_occurs
    {entry : FaqEntry} {query keyword : Text}
    (honly : entry.keywords = [keyword])
    (hmissing : ¬ Occurs query keyword) :
    findMatch? [entry] query = none := by
  rw [findMatch?_eq_none_iff, placesOf_eq_empty_iff]
  simpa [honly] using hmissing

/--
A keyword is found in every query that contains it between two texts which leave its
capital sigmas in form, and as a phrase if it has a space.  All texts do so exactly if the
keyword settles its sigmas by itself.  If it does not, there is a query that contains it
and is not answered by an entry with this keyword alone.
-/
theorem contained_keyword_found
    (keyword : Text) :
    (∀ (entries : List FaqEntry) (entry : FaqEntry) (a b : Text),
      entry ∈ entries →
      keyword ∈ entry.keywords →
      Text.KeepsSigmas a keyword b →
      ∃ m, findMatch? entries (a ++ keyword ++ b) = some m ∧
        (' ' ∈ keyword → m.pass = .phrase)) ∧
    ((∀ a b, Text.KeepsSigmas a keyword b) ↔ Text.HasSettledSigmas keyword) ∧
    (¬ Text.HasSettledSigmas keyword →
      ∃ a b, ∀ entry : FaqEntry, entry.keywords = [keyword] →
        findMatch? [entry] (a ++ keyword ++ b) = none) := by
  refine ⟨?_, Text.keepsSigmas_iff, ?_⟩
  · intro entries entry a b hentry hkeyword hkeeps
    exact findMatch?_of_occurs hentry hkeyword (Text.lowercase_infix_of_keepsSigmas hkeeps)
  · intro hopen
    obtain ⟨a, b, hlost⟩ := Text.exists_not_infix_lowercase hopen
    exact ⟨a, b, fun entry honly => findMatch?_eq_none_of_not_occurs honly hlost⟩

/-- A phrase whose sigma ends a word in front of a space, within a longer word. -/
theorem contained_keyword_found_behind_letter :
    ∃ m,
      findMatch? [⟨[], ["ΤΕΛΟΣ ΒΡΟΧΟΥ".toList], [], none⟩]
          ("α".toList ++ "ΤΕΛΟΣ ΒΡΟΧΟΥ".toList ++ "σ;".toList) = some m ∧
        m.pass = .phrase := by
  have hsettled : Text.HasSettledSigmas "ΤΕΛΟΣ ΒΡΟΧΟΥ".toList := by
    decide
  obtain ⟨hfound, hkeeps, -⟩ := contained_keyword_found "ΤΕΛΟΣ ΒΡΟΧΟΥ".toList
  obtain ⟨m, hmatch, hphrase⟩ :=
    hfound [⟨[], ["ΤΕΛΟΣ ΒΡΟΧΟΥ".toList], [], none⟩] _ "α".toList "σ;".toList
      List.mem_cons_self List.mem_cons_self (hkeeps.2 hsettled _ _)
  exact ⟨m, hmatch, hphrase (by decide)⟩

/-- The keyword `Σ` is not found in `ΑΣ`, where it ends a word. -/
theorem capital_sigma_missed :
    "ΑΣ".toList = "Α".toList ++ "Σ".toList ++ [] ∧
      findMatch? [⟨"sums".toList, ["Σ".toList], "Add up.".toList, none⟩] "ΑΣ".toList = none := by
  decide

end TeachingEditor
