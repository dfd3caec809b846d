import TeachingEditor.Proofs.Assistant.Outcome
import TeachingEditor.Proofs.Catalog
import TeachingEditor.Proofs.Knowledge
import TeachingEditor.Proofs.Text.Lowercase

/-!
# Questions that say nothing

A keyword of blanks would answer questions that say nothing, and an empty keyword would
answer every question.  The check of catalogs looks for such keywords as they are written,
and the search compares lower-case forms.

**Algorithm.**  A character is blank exactly if its lower-case form is
(`Text.isBlank_lowercase_iff`).  So a keyword with another character in it has one in lower
case too, and no blank question has room for that (`not_occurs_of_blank`).  A blank keyword,
on the other hand, is itself a question that it answers.

**Results.**
* `blank_unanswered_iff`: no blank question is answered exactly if no keyword is blank.
* `blank_question_unanswered`: so catalogs that pass the check answer none, and the
  assistant, which does not search for a blank query, passes over no answer.
-/

namespace TeachingEditor

/-- A keyword that is not blank occurs in no blank question. -/
theorem not_occurs_of_blank
    {query keyword : Text}
    (hblank : ∀ x ∈ query, Text.isBlank x = true)
    (hkeyword : ∃ x ∈ keyword, Text.isBlank x = false) :
    ¬ Occurs query keyword := by
  intro hoccurs
  have hlowered := Text.isBlank_lowercase_iff.2 hblank
  have hblank' : ∀ x ∈ keyword, Text.isBlank x = true :=
    Text.isBlank_lowercase_iff.1 fun x hx => hlowered x (hoccurs.subset hx)
  obtain ⟨x, hx, hvisible⟩ := hkeyword
  rw [hblank' x hx] at hvisible
  cases hvisible

/-- No blank question is answered exactly if no keyword is blank. -/
theorem blank_unanswered_iff
    {entries : List FaqEntry} :
    (∀ query, (∀ x ∈ query, Text.isBlank x = true) → findMatch? entries query = none) ↔
      ∀ entry ∈ entries, ∀ k ∈ entry.keywords, ∃ x ∈ k, Text.isBlank x = false := by
  simp only [findMatch?_eq_none_iff, placesOf_eq_empty_iff]
  constructor
  · intro hnone entry hentry k hk
    by_contra hvisible
    have hblank : ∀ x ∈ k, Text.isBlank x = true := by simpa using hvisible
    exact hnone k hblank entry hentry k hk (List.infix_refl _)
  · intro hkeywords query hblank entry hentry k hk
    exact not_occurs_of_blank hblank (hkeywords entry hentry k hk)

namespace Catalogs

/--
Catalogs that pass the check answer no blank question.  An assistant with their knowledge
leaves exactly the blank queries unanswered, and the knowledge has no match for any of
these.  No entry is selected by every question.
-/
theorem blank_question_unanswered
    {c : Catalogs}
    (hchecked : c.checked = .ok c) :
    (∀ query, (∀ x ∈ query, Text.isBlank x = true) → findMatch? c.knowledge query = none) ∧
      (∀ (a : Assistant) (query : Text), a.knowledge = c.knowledge →
        (a.respond query = .ok .empty ↔ ∀ x ∈ query, Text.isBlank x = true) ∧
          (a.respond query = .ok .empty → findMatch? a.knowledge query = none)) ∧
      ∀ entry ∈ c.knowledge, ∃ query, findMatch? [entry] query = none := by
  have hkeywords : ∀ entry ∈ c.knowledge, ∀ k ∈ entry.keywords,
      ∃ x ∈ k, Text.isBlank x = false := by
    intro entry hentry
    exact ((usable_of_checked hchecked).entries entry hentry).2
  have hnone := blank_unanswered_iff.2 hkeywords
  refine ⟨hnone, ?_, ?_⟩
  · intro a query hknowledge
    have hempty : a.respond query = .ok .empty ↔ ∀ x ∈ query, Text.isBlank x = true :=
      Assistant.respond_eq_empty_iff.trans Text.trim_eq_nil_iff
    refine ⟨hempty, ?_⟩
    intro hreply
    rw [hknowledge]
    exact hnone query (hempty.1 hreply)
  · intro entry hentry
    have hentries : ∀ other ∈ [entry], ∀ k ∈ other.keywords, ∃ x ∈ k, Text.isBlank x = false := by
      rw [List.forall_mem_singleton]
      exact hkeywords entry hentry
    exact ⟨[], blank_unanswered_iff.2 hentries [] (List.forall_mem_nil _)⟩

/-- Keywords with blanks around them and inside, and a query of two kinds of blanks. -/
theorem blank_question_unanswered_ideographic :
    let c : Catalogs := ⟨.ofLists [] [], [], [⟨[], [" a  b ".toList, "İ".toList], [], none⟩]⟩
    c.checked = .ok c ∧ findMatch? c.knowledge [' ', '\u3000'] = none := by
  intro c
  have hchecked : c.checked = .ok c :=
    checked_of_usable (problem?_eq_none_iff.1 (by decide +kernel))
  have hblank : ∀ x ∈ [' ', '\u3000'], Text.isBlank x = true := List.all_eq_true.1 rfl
  exact ⟨hchecked, (blank_question_unanswered hchecked).1 [' ', '\u3000'] hblank⟩

end Catalogs
end TeachingEditor
