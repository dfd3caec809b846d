import TeachingEditor.Completion.Cursor
import TeachingEditor.Proofs.Language.Grammar

/-!
# Cursors and the words before them

A cursor is a number, but the text around it is two texts.  Everything about a
cursor is said here by the text before it and the text after it, so that no proof
about an operation at a cursor has to count bytes again.

**Format.**  A word at a cursor is a letter or underscore, followed by letters,
digits, underscores and dashes.

**Results.**
* `splitAtCursor_size`, `splitAtCursor_eq_error`: which cursors are accepted, and what
  is said of the others.
* `suffix_trailingWord`: the word before a cursor is the longest one, since every
  other word that ends there is a part of it.
* `wordAt_eq_ok`, `replaceIn?_between`: where the word stands in the text, and what
  a replacement does to the text around it.
-/

namespace TeachingEditor

/-! ## Accepted cursors -/

theorem splitAtCursor_size
    (before after : Text) :
    splitAtCursor (before ++ after) (Text.size before) = .ok (before, after) := by
  simp [splitAtCursor]

/-- What is wrong with a cursor that is no place in a text. -/
def cursorError (t : Text) (cursor : Nat) : CursorError :=
  if Text.size t < cursor then .outOfBounds cursor (Text.size t) else .notCharBoundary cursor

theorem splitAtCursor_eq_error
    {t : Text} {cursor : Nat}
    (hbad : ¬ Text.IsBoundary t cursor) :
    splitAtCursor t cursor = .error (cursorError t cursor) := by
  unfold splitAtCursor cursorError
  split
  · rfl
  · split
    · next parts hcut => exact absurd ⟨parts.1, parts.2, hcut⟩ hbad
    · rfl

/-- The places in a text are the sizes of the texts that it begins with. -/
theorem isBoundary_iff
    {t : Text} {cursor : Nat} :
    Text.IsBoundary t cursor ↔ ∃ before after, t = before ++ after ∧ cursor = Text.size before := by
  constructor
  · rintro ⟨before, after, hcut⟩
    exact ⟨before, after, (Text.append_eq_of_cut? hcut).symm, (Text.size_eq_of_cut? hcut).symm⟩
  · rintro ⟨before, after, rfl, rfl⟩
    exact Text.isBoundary_size before after

/-- The texts around a cursor are the parts of the cut there. -/
theorem parts_of_cut?
    {t before after upTo behind : Text} {cursor : Nat}
    (htext : t = before ++ after)
    (hcursor : cursor = Text.size before)
    (hcut : Text.cut? t cursor = some (upTo, behind)) :
    before = upTo ∧ after = behind := by
  rw [htext, hcursor, Text.cut?_size_append] at hcut
  exact Prod.mk.inj (Option.some.inj hcut)

theorem textBefore_size
    (before after : Text) :
    textBefore (before ++ after) (Text.size before) = .ok before := by
  simp [textBefore, splitAtCursor_size, Except.map]

theorem textBefore_eq_error
    {t : Text} {cursor : Nat}
    (hbad : ¬ Text.IsBoundary t cursor) :
    textBefore t cursor = .error (cursorError t cursor) := by
  simp [textBefore, splitAtCursor_eq_error hbad, Except.map]

/-! ## The word before a cursor -/

/-- The shape of a word at a cursor. -/
def IsCursorWord (word : Text) : Prop :=
  ∃ c rest, word = c :: rest ∧ IsLetter c ∧ ∀ d ∈ rest, IsLetter d ∨ IsDigit d ∨ d = '-'

theorem isCursorWordPart_iff
    (c : Char) :
    isCursorWordPart c = true ↔ IsLetter c ∨ IsDigit c ∨ c = '-' := by
  rw [isCursorWordPart, Bool.or_eq_true, isWordPart_iff, decide_eq_true_iff, or_assoc]

theorem isCursorWord_iff
    {word : Text} :
    IsCursorWord word ↔
      (∃ c ∈ word.head?, isWordStart c = true) ∧ ∀ c ∈ word, isCursorWordPart c = true := by
  cases word with
  | nil => simp [IsCursorWord]
  | cons first rest =>
      constructor
      · rintro ⟨c, tail, hcons, hletter, htail⟩
        obtain ⟨rfl, rfl⟩ := List.cons.inj hcons
        refine ⟨⟨first, rfl, (isWordStart_iff first).2 hletter⟩, ?_⟩
        intro d hd
        rw [isCursorWordPart_iff]
        rcases List.mem_cons.1 hd with rfl | hd
        · exact Or.inl hletter
        · exact htail d hd
      · rintro ⟨⟨c, hc, hstart⟩, hparts⟩
        obtain rfl : first = c := Option.some.inj hc
        refine ⟨first, rest, rfl, (isWordStart_iff first).1 hstart, ?_⟩
        intro d hd
        exact (isCursorWordPart_iff d).1 (hparts d (List.mem_cons_of_mem first hd))

instance (word : Text) : Decidable (IsCursorWord word) :=
  decidable_of_iff ((word.head?.any isWordStart && word.all isCursorWordPart) = true) (by
    rw [isCursorWord_iff, Bool.and_eq_true, Option.any_eq_true, List.all_eq_true]
    rfl)

theorem IsCursorWord.parts
    {word : Text}
    (hword : IsCursorWord word) :
    ∀ c ∈ word, isCursorWordPart c = true :=
  (isCursorWord_iff.1 hword).2

theorem IsCursorWord.of_prefix
    {word first : Text}
    (hword : IsCursorWord word)
    (hbegins : first <+: word)
    (hne : first ≠ []) :
    IsCursorWord first := by
  obtain ⟨hstart, hparts⟩ := isCursorWord_iff.1 hword
  refine isCursorWord_iff.2 ⟨?_, fun c hc => hparts c (hbegins.subset hc)⟩
  obtain ⟨rest, rfl⟩ := hbegins
  rwa [List.head?_append_of_ne_nil first hne] at hstart

theorem trailingWord_eq
    (before : Text) :
    trailingWord before =
      (before.rtakeWhile isCursorWordPart).dropWhile fun c => ! isWordStart c :=
  rfl

theorem trailingWord_suffix
    (before : Text) :
    trailingWord before <:+ before := by
  rw [trailingWord_eq]
  exact (List.dropWhile_suffix _).trans (List.rtakeWhile_suffix _ _)

theorem trailingWord_parts
    (before : Text) :
    ∀ c ∈ trailingWord before, isCursorWordPart c = true := by
  intro c hc
  rw [trailingWord_eq] at hc
  exact List.mem_rtakeWhile_imp ((List.dropWhile_suffix _).subset hc)

/-- What is found before a cursor is a word, or nothing. -/
theorem isCursorWord_trailingWord
    {before : Text}
    (hne : trailingWord before ≠ []) :
    IsCursorWord (trailingWord before) := by
  refine isCursorWord_iff.2 ⟨?_, trailingWord_parts before⟩
  obtain ⟨c, rest, hword⟩ := List.exists_cons_of_ne_nil hne
  have hhead := List.head?_dropWhile_not (fun c => ! isWordStart c)
    (before.rtakeWhile isCursorWordPart)
  rw [← trailingWord_eq, hword] at hhead
  rw [hword]
  exact ⟨c, rfl, by simpa using hhead⟩

/-- Every word that ends at a cursor is a part of the one that is found there. -/
theorem suffix_trailingWord
    {before word : Text}
    (hsuffix : word <:+ before)
    (hword : IsCursorWord word) :
    word <:+ trailingWord before := by
  obtain ⟨lead, hrun⟩ := Text.suffix_rtakeWhile hsuffix hword.parts
  obtain ⟨c, rest, rfl, hletter, -⟩ := hword
  rw [trailingWord_eq, ← hrun]
  have hkeep : (c :: rest).dropWhile (fun c => ! isWordStart c) = c :: rest := by
    simp [(isWordStart_iff c).2 hletter]
  rw [List.dropWhile_append, hkeep]
  split
  · exact List.suffix_refl (c :: rest)
  · exact List.suffix_append _ (c :: rest)

/-! ## The word in its text -/

theorem wordAt_size
    (before after : Text) :
    wordAt (before ++ after) (Text.size before) =
      .ok ⟨Text.size before - Text.size (trailingWord before), trailingWord before⟩ := by
  simp [wordAt, textBefore_size, Except.map]

theorem wordAt_eq_error
    {t : Text} {cursor : Nat}
    (hbad : ¬ Text.IsBoundary t cursor) :
    wordAt t cursor = .error (cursorError t cursor) := by
  simp [wordAt, textBefore_eq_error hbad, Except.map]

/-- The word at a cursor stands between a text before it and the text after the cursor. -/
theorem wordAt_eq_ok
    {t : Text} {cursor : Nat} {w : CursorWord}
    (h : wordAt t cursor = .ok w) :
    ∃ lead after,
      t = lead ++ w.word ++ after ∧
      w.start = Text.size lead ∧
      cursor = Text.size lead + Text.size w.word ∧
      w.word = trailingWord (lead ++ w.word) := by
  have hplace : Text.IsBoundary t cursor := by
    by_contra hbad
    rw [wordAt_eq_error hbad] at h
    cases h
  obtain ⟨before, after, rfl, rfl⟩ := isBoundary_iff.1 hplace
  rw [wordAt_size] at h
  obtain rfl := Except.ok.inj h
  obtain ⟨lead, hlead⟩ := trailingWord_suffix before
  refine ⟨lead, after, ?_, ?_, ?_, ?_⟩
  · simp only [hlead]
  · have hsize := congrArg Text.size hlead
    rw [Text.size_append] at hsize
    simp only
    omega
  · rw [← Text.size_append, hlead]
  · simp only [hlead]

/-- A word between two texts is replaced by what is put between them. -/
theorem replaceIn?_between
    {w : CursorWord} {lead : Text}
    (hstart : w.start = Text.size lead)
    (after replacement : Text) :
    w.replaceIn? (lead ++ w.word ++ after) replacement = some (lead ++ replacement ++ after) := by
  have hbegin : Text.cut? (lead ++ w.word ++ after) w.span.start = some (lead, w.word ++ after) := by
    rw [List.append_assoc, CursorWord.span, hstart]
    exact Text.cut?_size_append lead (w.word ++ after)
  have hend : Text.cut? (lead ++ w.word ++ after) w.span.stop = some (lead ++ w.word, after) := by
    rw [CursorWord.span, hstart]
    simp only
    rw [← Text.size_append]
    exact Text.cut?_size_append (lead ++ w.word) after
  unfold CursorWord.replaceIn?
  rw [hbegin, hend]

end TeachingEditor
