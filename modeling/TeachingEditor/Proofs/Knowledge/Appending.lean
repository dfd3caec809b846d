import TeachingEditor.Proofs.Knowledge

/-!
# Appending a knowledge base

A site may append entries of its own to a knowledge base.  This module says what is then
found, from what is found in either of the two parts.

**Algorithm.**  One round over both parts is a round over the first and, if that finds
nothing, a round over the second that counts on (`findFrom?_append`); where a round
begins to count only moves what it finds (`findFrom?_add`).  The first rounds over both
parts come before the second rounds, and which round has found a match can be told from
the match (`filter_isPhraseMatch`).

**Results.**  `findMatch?_append`: of the matches in the two parts a phrase is
preferred, and then the first part, so an answer is never lost, and is changed only from
a single word to a phrase of the appended entries.
-/

namespace TeachingEditor

/-- The match with its entry a number of places further behind. -/
def KnowledgeMatch.shift (count : ℕ) (m : KnowledgeMatch) : KnowledgeMatch :=
  { m with index := m.index + count }

/-- Whether a match was found by a phrase. -/
def KnowledgeMatch.isPhraseMatch (m : KnowledgeMatch) : Bool :=
  m.pass = .phrase

/-- The first of two matches if it is by a phrase, then the second, and then either, in order. -/
def preferredMatch (first second : Option KnowledgeMatch) : Option KnowledgeMatch :=
  (first.filter (·.isPhraseMatch)).or
    ((second.filter (·.isPhraseMatch)).or (first.or second))

/-! ## One round -/

section Rounds

variable (query : Text) (pass : MatchPass)

/-- Where a round begins to count only moves what it finds. -/
theorem findFrom?_add
    (count offset : ℕ) (entries : List FaqEntry) :
    findFrom? (Text.lowercase query) pass (offset + count) entries =
      (findFrom? (Text.lowercase query) pass offset entries).map (·.shift count) := by
  induction entries generalizing offset with
  | nil => rfl
  | cons entry rest ih =>
      rw [findFrom?_cons, findFrom?_cons]
      cases entry.keywords.find? fun keyword => pass.Selects query keyword with
      | some keyword => rfl
      | none =>
          rw [Nat.add_right_comm]
          exact ih (offset + 1)

/-- A round over two parts looks at the second if it finds nothing in the first. -/
theorem findFrom?_append
    (offset : ℕ) (entries appended : List FaqEntry) :
    findFrom? (Text.lowercase query) pass offset (entries ++ appended) =
      (findFrom? (Text.lowercase query) pass offset entries).or
        (findFrom? (Text.lowercase query) pass (offset + entries.length) appended) := by
  induction entries generalizing offset with
  | nil => rfl
  | cons entry rest ih =>
      rw [List.cons_append, findFrom?_cons, findFrom?_cons]
      cases entry.keywords.find? fun keyword => pass.Selects query keyword with
      | some keyword => rfl
      | none =>
          rw [List.length_cons, Nat.add_comm rest.length 1, ← Nat.add_assoc]
          exact ih (offset + 1)

end Rounds

/-! ## Both rounds -/

section Matches

variable {entries : List FaqEntry} {query : Text}

/-- A match by a phrase is what the first round has found. -/
theorem filter_isPhraseMatch :
    (findMatch? entries query).filter (·.isPhraseMatch) =
      findFrom? (Text.lowercase query) .phrase 0 entries := by
  rw [findMatch?]
  cases hphrase : findFrom? (Text.lowercase query) .phrase 0 entries with
  | some m =>
      have hpass : m.pass = .phrase := (findFrom?_eq_some hphrase).1
      rw [Option.some_or]
      exact Option.filter_eq_some_iff.2 ⟨rfl, decide_eq_true hpass⟩
  | none =>
      rw [Option.none_or, Option.filter_eq_none_iff]
      intro m hkeyword
      have hpass : m.pass = .keyword := (findFrom?_eq_some hkeyword).1
      simp [KnowledgeMatch.isPhraseMatch, hpass]

end Matches

/-- What is found in two parts is the preferred one of what is found in each. -/
theorem findMatch?_eq_preferred
    (entries appended : List FaqEntry) (query : Text) :
    findMatch? (entries ++ appended) query =
      preferredMatch (findMatch? entries query)
        ((findMatch? appended query).map (·.shift entries.length)) := by
  have hshift :
      ∀ pass,
        findFrom? (Text.lowercase query) pass (0 + entries.length) appended =
          (findFrom? (Text.lowercase query) pass 0 appended).map (·.shift entries.length) :=
    fun pass => findFrom?_add query pass entries.length 0 appended
  have hphrases :
      ((findMatch? appended query).map (·.shift entries.length)).filter (·.isPhraseMatch) =
        (findFrom? (Text.lowercase query) .phrase 0 appended).map (·.shift entries.length) := by
    rw [← filter_isPhraseMatch, Option.filter_map]
    rfl
  rw [preferredMatch, hphrases, filter_isPhraseMatch]
  simp only [findMatch?, findFrom?_append, hshift]
  cases findFrom? (Text.lowercase query) .phrase 0 entries with
  | some m => rfl
  | none =>
      cases findFrom? (Text.lowercase query) .phrase 0 appended with
      | some m => rfl
      | none => rfl

/-- A match in the first part is preferred, unless only the second one is by a phrase. -/
theorem preferredMatch_some
    (m : KnowledgeMatch) (second : Option KnowledgeMatch) :
    preferredMatch (some m) second = some m ∨
      m.pass = .keyword ∧ ∃ n, second = some n ∧ n.pass = .phrase ∧
        preferredMatch (some m) second = some n := by
  unfold preferredMatch
  cases hpass : m.pass with
  | phrase =>
      have hkept : (some m).filter (·.isPhraseMatch) = some m :=
        Option.filter_eq_some_iff.2 ⟨rfl, decide_eq_true hpass⟩
      rw [hkept]
      exact Or.inl rfl
  | keyword =>
      have hdropped : (some m).filter (·.isPhraseMatch) = none := by
        simp [KnowledgeMatch.isPhraseMatch, hpass]
      rw [hdropped, Option.none_or, Option.some_or]
      cases hsecond : second.filter (·.isPhraseMatch) with
      | none => exact Or.inl rfl
      | some n =>
          obtain ⟨hn, hphrase⟩ := Option.filter_eq_some_iff.1 hsecond
          exact Or.inr ⟨rfl, n, hn, of_decide_eq_true hphrase, rfl⟩

/--
A query has in a knowledge base with appended entries the match of the first part if that
is by a phrase, else that of the appended entries if that is by a phrase, else that of the
first part if there is one, and else that of the appended entries, counted on.  So a match
is kept, or a single word gives way to a phrase of the appended entries.
-/
theorem findMatch?_append
    (entries appended : List FaqEntry) (query : Text) :
    findMatch? (entries ++ appended) query =
        preferredMatch (findMatch? entries query)
          ((findMatch? appended query).map (·.shift entries.length)) ∧
      ∀ m, findMatch? entries query = some m →
        findMatch? (entries ++ appended) query = some m ∨
          m.pass = .keyword ∧ ∃ n, findMatch? appended query = some n ∧ n.pass = .phrase ∧
            findMatch? (entries ++ appended) query = some (n.shift entries.length) := by
  have hpreferred := findMatch?_eq_preferred entries appended query
  refine ⟨hpreferred, ?_⟩
  intro m hm
  rw [hpreferred, hm]
  refine (preferredMatch_some m _).imp_right ?_
  rintro ⟨hkeyword, shifted, hshifted, hphrase, hfound⟩
  obtain ⟨n, hn, rfl⟩ := Option.map_eq_some_iff.1 hshifted
  exact ⟨hkeyword, n, hn, hphrase, hfound⟩

/-- A single word of the first part gives way to a phrase of the appended entry. -/
theorem findMatch?_append_phrase :
    let loops : FaqEntry := ⟨"loops".toList, ["loop".toList], [], none⟩
    let endless : FaqEntry := ⟨"endless".toList, ["run".toList, "While loop".toList], [], none⟩
    findMatch? [loops] "a while LOOP".toList = some ⟨0, loops, "loop".toList, .keyword⟩ ∧
      findMatch? ([loops] ++ [endless]) "a while LOOP".toList =
        some ⟨1, endless, "While loop".toList, .phrase⟩ := by
  intro loops endless
  have hfirst :
      findMatch? [loops] "a while LOOP".toList = some ⟨0, loops, "loop".toList, .keyword⟩ := by
    decide
  have hsecond :
      findMatch? [endless] "a while LOOP".toList =
        some ⟨0, endless, "While loop".toList, .phrase⟩ := by
    decide
  obtain ⟨hfound, -⟩ := findMatch?_append [loops] [endless] "a while LOOP".toList
  rw [hfirst, hsecond] at hfound
  exact ⟨hfirst, hfound⟩

end TeachingEditor
