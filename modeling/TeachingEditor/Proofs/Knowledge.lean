import TeachingEditor.Knowledge
import TeachingEditor.Proofs.Text

/-!
# Which predefined answer is found

A knowledge base has its keywords at places: the first number of a place is that of an
entry, the second that of a keyword in it.  Places are in the order in which a reader
comes to them, entry by entry.

**Algorithm.**  One round of the search looks at some of the keywords only and stops at
the first one that occurs in the query.  So what it finds stands at the least place of
the keywords that are looked at and occur (`findFrom?_eq_some`), and it finds nothing
only when there is no such keyword (`findFrom?_eq_none_iff`).  Since a set of places
has one least element, this says which match is found without searching.

**Results.**  `found_at_first_place`: the match is the first phrase that occurs in the
query, in any entry, and only if no phrase does, the first keyword that occurs.
-/

namespace TeachingEditor

/-! ## Keywords and their places -/

/-- A keyword stands somewhere in a query, both in lower case. -/
def Occurs (query keyword : Text) : Prop :=
  Text.lowercase keyword <:+: Text.lowercase query

theorem keywordOccurs_iff
    {query keyword : Text} :
    keywordOccurs (Text.lowercase query) keyword = true ↔ Occurs query keyword :=
  Text.occursIn_iff

instance (query : Text) : DecidablePred (Occurs query) :=
  fun _ => decidable_of_iff _ keywordOccurs_iff

/-- The number of an entry and the number of a keyword in it, compared in this order. -/
abbrev KeywordPlace := ℕ ×ₗ ℕ

/-- The keyword at a place. -/
def keywordAt? (entries : List FaqEntry) (place : KeywordPlace) : Option Text :=
  entries[(ofLex place).1]?.bind fun entry => entry.keywords[(ofLex place).2]?

/-- The places of the keywords with a property. -/
def placesOf (entries : List FaqEntry) (P : Text → Prop) : Set KeywordPlace :=
  {place | ∃ keyword, keywordAt? entries place = some keyword ∧ P keyword}

section Places

variable {P : Text → Prop} {entry : FaqEntry} {rest entries : List FaqEntry} {i j : ℕ}

theorem mem_placesOf_cons_zero :
    toLex (0, j) ∈ placesOf (entry :: rest) P ↔
      ∃ keyword, entry.keywords[j]? = some keyword ∧ P keyword :=
  Iff.rfl

theorem mem_placesOf_cons_succ :
    toLex (i + 1, j) ∈ placesOf (entry :: rest) P ↔ toLex (i, j) ∈ placesOf rest P :=
  Iff.rfl

theorem placesOf_eq_empty_iff :
    placesOf entries P = ∅ ↔ ∀ entry ∈ entries, ∀ keyword ∈ entry.keywords, ¬ P keyword := by
  rw [Set.eq_empty_iff_forall_notMem]
  constructor
  · intro hnone entry hentry keyword hkeyword hP
    obtain ⟨i, hi⟩ := List.mem_iff_getElem?.1 hentry
    obtain ⟨j, hj⟩ := List.mem_iff_getElem?.1 hkeyword
    exact hnone (toLex (i, j)) ⟨keyword, by simp [keywordAt?, hi, hj], hP⟩
  · rintro hnone place ⟨keyword, hat, hP⟩
    obtain ⟨entry, hi, hj⟩ := Option.bind_eq_some_iff.1 hat
    exact hnone entry (List.mem_of_getElem? hi) keyword (List.mem_of_getElem? hj) hP

/-- The first keyword with a property in the first entry stands at the least place. -/
theorem isLeast_placesOf_head
    {keyword : Text}
    (hat : entry.keywords[j]? = some keyword)
    (hP : P keyword)
    (hbefore : ∀ k < j, ∀ other, entry.keywords[k]? = some other → ¬ P other) :
    IsLeast (placesOf (entry :: rest) P) (toLex (0, j)) := by
  refine ⟨mem_placesOf_cons_zero.2 ⟨keyword, hat, hP⟩, ?_⟩
  intro place hplace
  obtain ⟨i, k, rfl⟩ : ∃ i k, place = toLex (i, k) := ⟨_, _, rfl⟩
  rw [Prod.Lex.toLex_le_toLex]
  cases i with
  | succ i => exact Or.inl (Nat.succ_pos i)
  | zero =>
      obtain ⟨other, hother, hholds⟩ := mem_placesOf_cons_zero.1 hplace
      refine Or.inr ⟨rfl, Nat.le_of_not_lt ?_⟩
      intro hlt
      exact hbefore k hlt other hother hholds

/-- Without such a keyword in the first entry, the least place is that of the others. -/
theorem isLeast_placesOf_tail
    (hnone : ∀ keyword ∈ entry.keywords, ¬ P keyword)
    (hleast : IsLeast (placesOf rest P) (toLex (i, j))) :
    IsLeast (placesOf (entry :: rest) P) (toLex (i + 1, j)) := by
  refine ⟨mem_placesOf_cons_succ.2 hleast.1, ?_⟩
  intro place hplace
  obtain ⟨i', k, rfl⟩ : ∃ i' k, place = toLex (i', k) := ⟨_, _, rfl⟩
  cases i' with
  | zero =>
      obtain ⟨other, hother, hholds⟩ := mem_placesOf_cons_zero.1 hplace
      exact absurd hholds (hnone other (List.mem_of_getElem? hother))
  | succ i' =>
      have hle := hleast.2 (mem_placesOf_cons_succ.1 hplace)
      rw [Prod.Lex.toLex_le_toLex] at hle ⊢
      rcases hle with hlt | ⟨rfl, hle⟩
      · exact Or.inl (Nat.succ_lt_succ hlt)
      · exact Or.inr ⟨rfl, hle⟩

end Places

/-! ## One round -/

/-- The keywords that a round may stop at. -/
def MatchPass.Selects (query : Text) : MatchPass → Text → Prop
  | .phrase, t => ' ' ∈ t ∧ Occurs query t
  | .keyword, t => Occurs query t

instance (query : Text) (pass : MatchPass) (t : Text) : Decidable (pass.Selects query t) :=
  match pass with
  | .phrase => inferInstanceAs (Decidable (' ' ∈ t ∧ Occurs query t))
  | .keyword => inferInstanceAs (Decidable (Occurs query t))

/-- What a round finds: a keyword at the least of the places where it may stop. -/
structure IsFirst (entries : List FaqEntry) (query : Text) (m : KnowledgeMatch) (number : ℕ) :
    Prop where
  entry_eq : entries[m.index]? = some m.entry
  keyword_eq : m.entry.keywords[number]? = some m.keyword
  least : IsLeast (placesOf entries (m.pass.Selects query)) (toLex (m.index, number))

theorem IsFirst.selects
    {entries : List FaqEntry} {query : Text} {m : KnowledgeMatch} {number : ℕ}
    (h : IsFirst entries query m number) :
    m.pass.Selects query m.keyword := by
  obtain ⟨keyword, hat, hselects⟩ := h.least.1
  have hkeyword : keywordAt? entries (toLex (m.index, number)) = some m.keyword := by
    simp [keywordAt?, h.entry_eq, h.keyword_eq]
  obtain rfl : keyword = m.keyword := Option.some.inj (hat.symm.trans hkeyword)
  exact hselects

/-- A round has one result only. -/
theorem IsFirst.unique
    {entries : List FaqEntry} {query : Text} {m m' : KnowledgeMatch} {number number' : ℕ}
    (h : IsFirst entries query m number)
    (h' : IsFirst entries query m' number')
    (hpass : m.pass = m'.pass) :
    m = m' := by
  have hleast := h.least
  rw [hpass] at hleast
  obtain ⟨hindex, rfl⟩ := Prod.mk.inj (toLex.injective (hleast.unique h'.least))
  have hentry : m.entry = m'.entry :=
    Option.some.inj (h.entry_eq.symm.trans (hindex ▸ h'.entry_eq))
  have hkeyword : m.keyword = m'.keyword :=
    Option.some.inj (h.keyword_eq.symm.trans (hentry ▸ h'.keyword_eq))
  cases m
  cases m'
  simp_all

/-- A round stops at the first entry with a keyword that it may stop at. -/
theorem findFrom?_cons
    (query : Text) (pass : MatchPass) (offset : ℕ) (entry : FaqEntry) (rest : List FaqEntry) :
    findFrom? (Text.lowercase query) pass offset (entry :: rest) =
      match entry.keywords.find? fun keyword => pass.Selects query keyword with
      | some keyword => some ⟨offset, entry, keyword, pass⟩
      | none => findFrom? (Text.lowercase query) pass (offset + 1) rest := by
  cases pass with
  | phrase =>
      have hfind :
          entry.phrases.find? (keywordOccurs (Text.lowercase query)) =
            entry.keywords.find? fun keyword => MatchPass.phrase.Selects query keyword := by
        simp [FaqEntry.phrases, List.find?_filter, isPhrase, MatchPass.Selects,
          ← keywordOccurs_iff]
      rw [← hfind]
      rfl
  | keyword =>
      have hfind :
          entry.keywords.find? (keywordOccurs (Text.lowercase query)) =
            entry.keywords.find? fun keyword => MatchPass.keyword.Selects query keyword := by
        simp [MatchPass.Selects, ← keywordOccurs_iff]
      rw [← hfind]
      rfl

/-- What a round over entries that are counted from a number on finds. -/
theorem findFrom?_eq_some
    {entries : List FaqEntry} {query : Text} {pass : MatchPass} {offset : ℕ}
    {m : KnowledgeMatch}
    (h : findFrom? (Text.lowercase query) pass offset entries = some m) :
    m.pass = pass ∧
      ∃ index number, m.index = offset + index ∧
        entries[index]? = some m.entry ∧
        m.entry.keywords[number]? = some m.keyword ∧
        IsLeast (placesOf entries (pass.Selects query)) (toLex (index, number)) := by
  -- The search counts on from the offset, while the places of the rest begin at zero again.
  induction entries generalizing offset with
  | nil => simp [findFrom?] at h
  | cons entry rest ih =>
      rw [findFrom?_cons] at h
      cases hfind : entry.keywords.find? fun keyword => pass.Selects query keyword with
      | some keyword =>
          simp only [hfind, Option.some.injEq] at h
          subst h
          obtain ⟨hselects, number, hnumber, hat, hbefore⟩ :=
            List.find?_eq_some_iff_getElem.1 hfind
          refine ⟨rfl, 0, number, rfl, rfl, List.getElem?_eq_some_iff.2 ⟨hnumber, hat⟩, ?_⟩
          refine isLeast_placesOf_head (List.getElem?_eq_some_iff.2 ⟨hnumber, hat⟩)
            (of_decide_eq_true hselects) ?_
          intro k hk other hother
          obtain ⟨hlength, rfl⟩ := List.getElem?_eq_some_iff.1 hother
          simpa using hbefore k hk
      | none =>
          simp only [hfind] at h
          obtain ⟨hpass, index, number, hindex, hentry, hkeyword, hleast⟩ := ih h
          refine ⟨hpass, index + 1, number, by omega, hentry, hkeyword, ?_⟩
          refine isLeast_placesOf_tail ?_ hleast
          intro keyword hkeyword
          simpa using List.find?_eq_none.1 hfind keyword hkeyword

theorem findFrom?_eq_none_iff
    {entries : List FaqEntry} {query : Text} {pass : MatchPass} (offset : ℕ) :
    findFrom? (Text.lowercase query) pass offset entries = none ↔
      ∀ entry ∈ entries, ∀ keyword ∈ entry.keywords, ¬ pass.Selects query keyword := by
  induction entries generalizing offset with
  | nil => simp [findFrom?]
  | cons entry rest ih =>
      rw [findFrom?_cons, List.forall_mem_cons, ← ih (offset + 1)]
      cases hfind : entry.keywords.find? fun keyword => pass.Selects query keyword with
      | some keyword =>
          have hmem := List.mem_of_find?_eq_some hfind
          have hselects := List.find?_some hfind
          simp only [reduceCtorEq, false_iff, not_and]
          intro hnone
          exact absurd (of_decide_eq_true hselects) (hnone keyword hmem)
      | none =>
          have hnone : ∀ keyword ∈ entry.keywords, ¬ pass.Selects query keyword := by
            simpa using List.find?_eq_none.1 hfind
          exact (and_iff_right hnone).symm

/-- A round finds what stands at the least of the places where it may stop. -/
theorem findFrom?_eq_some_iff
    {entries : List FaqEntry} {query : Text} {pass : MatchPass} {m : KnowledgeMatch} :
    findFrom? (Text.lowercase query) pass 0 entries = some m ↔
      m.pass = pass ∧ ∃ number, IsFirst entries query m number := by
  have hfirst : ∀ found, findFrom? (Text.lowercase query) pass 0 entries = some found →
      found.pass = pass ∧ ∃ number, IsFirst entries query found number := by
    intro found hfound
    obtain ⟨hpass, index, number, hindex, hentry, hkeyword, hleast⟩ := findFrom?_eq_some hfound
    obtain rfl : found.index = index := by omega
    exact ⟨hpass, number, hentry, hkeyword, hpass ▸ hleast⟩
  refine ⟨hfirst m, ?_⟩
  rintro ⟨hpass, number, hm⟩
  cases hfound : findFrom? (Text.lowercase query) pass 0 entries with
  | none =>
      have hnone := (findFrom?_eq_none_iff 0).1 hfound m.entry (List.mem_of_getElem? hm.entry_eq)
        m.keyword (List.mem_of_getElem? hm.keyword_eq)
      exact absurd (hpass ▸ hm.selects) hnone
  | some found =>
      obtain ⟨hpass', number', hfirst'⟩ := hfirst found hfound
      rw [hm.unique hfirst' (hpass.trans hpass'.symm)]

/-! ## Both rounds -/

/--
The match that a knowledge base has for a query: the first phrase that occurs in the
query, and if no phrase does, the first keyword.
-/
inductive Answers (entries : List FaqEntry) (query : Text) : KnowledgeMatch → Prop
  | phrase {m : KnowledgeMatch} {number : ℕ}
      (hpass : m.pass = .phrase)
      (hfirst : IsFirst entries query m number) :
      Answers entries query m
  | keyword {m : KnowledgeMatch} {number : ℕ}
      (hphrases : placesOf entries (MatchPass.phrase.Selects query) = ∅)
      (hpass : m.pass = .keyword)
      (hfirst : IsFirst entries query m number) :
      Answers entries query m

section Rounds

variable {entries : List FaqEntry} {query : Text} {m : KnowledgeMatch}

theorem findMatch?_eq_some_iff :
    findMatch? entries query = some m ↔ Answers entries query m := by
  rw [findMatch?, Option.or_eq_some_iff, findFrom?_eq_some_iff, findFrom?_eq_some_iff]
  rw [findFrom?_eq_none_iff, ← placesOf_eq_empty_iff]
  constructor
  · rintro (⟨hpass, number, hfirst⟩ | ⟨hphrases, hpass, number, hfirst⟩)
    · exact Answers.phrase hpass hfirst
    · exact Answers.keyword hphrases hpass hfirst
  · rintro (⟨hpass, hfirst⟩ | ⟨hphrases, hpass, hfirst⟩)
    · exact Or.inl ⟨hpass, _, hfirst⟩
    · exact Or.inr ⟨hphrases, hpass, _, hfirst⟩

/-- A phrase that occurs is a keyword that occurs, so the second round decides. -/
theorem findMatch?_eq_none_iff :
    findMatch? entries query = none ↔ placesOf entries (Occurs query) = ∅ := by
  rw [findMatch?, Option.or_eq_none_iff, findFrom?_eq_none_iff, findFrom?_eq_none_iff]
  rw [placesOf_eq_empty_iff]
  refine and_iff_right_of_imp ?_
  intro hnone entry hentry keyword hkeyword hphrase
  exact hnone entry hentry keyword hkeyword hphrase.2

/-- What the second round finds is a single word. -/
theorem Answers.not_phrase
    (h : Answers entries query m)
    (hpass : m.pass = .keyword) :
    ' ' ∉ m.keyword := by
  cases h with
  | phrase hphrase => simp [hphrase] at hpass
  | keyword hphrases _ hfirst =>
      intro hspace
      have hoccurs := hfirst.selects
      rw [hpass] at hoccurs
      exact placesOf_eq_empty_iff.1 hphrases m.entry (List.mem_of_getElem? hfirst.entry_eq)
        m.keyword (List.mem_of_getElem? hfirst.keyword_eq) ⟨hspace, hoccurs⟩

end Rounds

/--
A query has the match that `Answers` describes, and none exactly if no keyword occurs in
it: a phrase of any entry comes before all single words, and among keywords of one kind
the place decides.  A match of the second round holds no space.  The answer to the query
is the entry of the match.
-/
theorem found_at_first_place
    (entries : List FaqEntry) (query : Text) :
    (∀ m, findMatch? entries query = some m ↔ Answers entries query m) ∧
      (findMatch? entries query = none ↔ placesOf entries (Occurs query) = ∅) ∧
      (∀ m, ¬ (findMatch? entries query = some m ∧ m.pass = .keyword ∧ ' ' ∈ m.keyword)) ∧
      (∀ entry, findAnswer? entries query = some entry ↔
        ∃ m, Answers entries query m ∧ m.entry = entry) ∧
      (findAnswer? entries query = none ↔ findMatch? entries query = none) := by
  refine ⟨fun m => findMatch?_eq_some_iff, findMatch?_eq_none_iff, ?_, ?_, ?_⟩
  · rintro m ⟨hfound, hpass, hspace⟩
    exact (findMatch?_eq_some_iff.1 hfound).not_phrase hpass hspace
  · intro entry
    simp only [findAnswer?, Option.map_eq_some_iff, findMatch?_eq_some_iff]
  · rw [findAnswer?, Option.map_eq_none_iff]

/-- A phrase of the last entry wins over single words in front of it. -/
example :
    findMatch?
        [⟨[], ["Sort".toList], [], none⟩,
          ⟨[], ["bubble".toList, "merge sort".toList], [], none⟩]
        "Bubble or MERGE SORT?".toList =
      some ⟨1, ⟨[], ["bubble".toList, "merge sort".toList], [], none⟩, "merge sort".toList,
        .phrase⟩ := by
  decide

end TeachingEditor
