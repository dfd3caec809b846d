import TeachingEditor.Catalog.Shipped
import TeachingEditor.Completion.Suggestion
import TeachingEditor.Proofs.Completion.Cursor
import TeachingEditor.Proofs.Text.Lowercase

/-!
# What is suggested for and what is replaced

Suggestions are found for everything behind the last separator before the cursor,
in lower case.  An accepted suggestion takes the place of the word at the cursor,
which is found by the shape of its characters.  These are two different texts: a
segment such as `x=va` is longer than the word at its end.

**Algorithm.**  A suggestion is offered only when its label begins with the
segment, both in lower case.  Where labels have the shape of words, so has the
lower-case segment (`isCursorWord_currentWord`), and then the segment had it before
lower-casing, since the classes of letters and word characters are closed under
lower-casing in both directions in ASCII (`isCursorWord_of_lowercase`).  The Kelvin
sign is the one character outside ASCII that lower-cases into it, and in a segment
with this sign the word at the cursor is shorter.

**Results.**
* `isLastSegment_lastSegment`: the segment that suggestions are found for is the
  longest one without a separator.
* `replaced_word_is_segment`: whenever something is suggested, the word that would be
  replaced is the whole segment, unless the segment holds the Kelvin sign.
* `kelvin_sign_stays`: with the Kelvin sign a part of the segment is left standing.
-/

namespace TeachingEditor

/-! ## Offered items -/

theorem suggest_size
    (items : List CompletionItem) (before after : Text) :
    suggest items (before ++ after) (Text.size before) =
      .ok (suggestionsFor items (currentWord before)) := by
  simp [suggest, textBefore_size, Except.map]

theorem suggest_eq_error
    (items : List CompletionItem) {t : Text} {cursor : Nat}
    (hbad : ¬ Text.IsBoundary t cursor) :
    suggest items t cursor = .error (cursorError t cursor) := by
  simp [suggest, textBefore_eq_error hbad, Except.map]

/-- An item is offered only if its label begins with a word that is not empty. -/
theorem mem_suggestionsFor
    {items : List CompletionItem} {word : Text} {item : CompletionItem}
    (hmem : item ∈ suggestionsFor items word) :
    item ∈ items ∧ word ≠ [] ∧ word <+: Text.lowercase item.label := by
  unfold suggestionsFor at hmem
  split at hmem
  · cases hmem
  · next hne =>
      have hsorted := List.mem_of_mem_take hmem
      have hfiltered := (List.mergeSort_perm _ _).mem_iff.1 hsorted
      obtain ⟨hitem, hoffered⟩ := List.mem_filter.1 hfiltered
      refine ⟨hitem, ?_, ?_⟩
      · rwa [List.isEmpty_iff] at hne
      · exact List.isPrefixOf_iff_prefix.1 hoffered

theorem suggestionsFor_singleton
    {item : CompletionItem} {word : Text}
    (hne : word ≠ [])
    (hbegins : word <+: Text.lowercase item.label) :
    suggestionsFor [item] word = [item] := by
  have hoffered : item.isOffered word = true := List.isPrefixOf_iff_prefix.2 hbegins
  simp [suggestionsFor, hne, hoffered, maxSuggestions]

/-! ## Lower-casing words -/

theorem isAscii_of_cursorWordPart
    {c : Char}
    (hpart : isCursorWordPart c = true) :
    Text.IsAscii c := by
  rw [isCursorWordPart_iff, IsLetter, IsDigit] at hpart
  simp only [Char.le_def, UInt32.le_iff_toNat_le] at hpart
  have hbigZ : 'Z'.val.toNat = 90 := rfl
  have hsmallZ : 'z'.val.toNat = 122 := rfl
  have hnine : '9'.val.toNat = 57 := rfl
  rw [Text.IsAscii, Char.toNat]
  rcases hpart with (⟨-, hle⟩ | ⟨-, hle⟩ | rfl) | ⟨-, hle⟩ | rfl
  · omega
  · omega
  · decide
  · omega
  · decide

/-- Lower-casing keeps a character of ASCII in its classes, and out of the others. -/
theorem lowercaseChar_classes
    {c : Char}
    (hascii : Text.IsAscii c) :
    ∃ d, Text.lowercaseChar c = [d] ∧
      isCursorWordPart d = isCursorWordPart c ∧ isWordStart d = isWordStart c := by
  have hclasses : ((Text.lowercaseChar c).all fun d =>
      isCursorWordPart d == isCursorWordPart c && isWordStart d == isWordStart c) = true :=
    Text.ascii_forall
      (p := fun c => (Text.lowercaseChar c).all fun d =>
        isCursorWordPart d == isCursorWordPart c && isWordStart d == isWordStart c)
      (by decide +kernel) hascii
  obtain ⟨d, hd⟩ := List.length_eq_one_iff.1 (Text.length_lowercaseChar_of_ascii hascii)
  refine ⟨d, hd, ?_⟩
  simpa [hd] using hclasses

/-- No character of a word is a separator. -/
theorem not_isSeparator_of_cursorWordPart
    {c : Char}
    (hpart : isCursorWordPart c = true) :
    isSeparator c = false := by
  have hexcludes : (! isCursorWordPart c || ! isSeparator c) = true :=
    Text.ascii_forall
      (p := fun c => ! isCursorWordPart c || ! isSeparator c)
      (by decide +kernel) (isAscii_of_cursorWordPart hpart)
  simpa [hpart] using hexcludes

theorem IsCursorWord.isAscii
    {word : Text}
    (hword : IsCursorWord word) :
    ∀ c ∈ word, Text.IsAscii c := by
  intro c hc
  exact isAscii_of_cursorWordPart (hword.parts c hc)

/-- The lower-case form of a word is a word. -/
theorem IsCursorWord.lowercase
    {word : Text}
    (hword : IsCursorWord word) :
    IsCursorWord (Text.lowercase word) := by
  have hascii := hword.isAscii
  rw [Text.lowercase_of_ascii hascii]
  obtain ⟨⟨first, hfirst, hstart⟩, hparts⟩ := isCursorWord_iff.1 hword
  refine isCursorWord_iff.2 ⟨?_, ?_⟩
  · obtain ⟨rest, rfl⟩ := List.head?_eq_some_iff.1 hfirst
    obtain ⟨d, hd, -, hclass⟩ := lowercaseChar_classes (hascii first List.mem_cons_self)
    exact ⟨d, by simp [hd], hclass.trans hstart⟩
  · intro d hd
    obtain ⟨c, hc, hd⟩ := List.mem_flatMap.1 hd
    obtain ⟨e, he, hclass, -⟩ := lowercaseChar_classes (hascii c hc)
    rw [he, List.mem_singleton] at hd
    rw [hd, hclass]
    exact hparts c hc

/-- Without the Kelvin sign, what lower-cases to a word is a word. -/
theorem isCursorWord_of_lowercase
    {t : Text}
    (hword : IsCursorWord (Text.lowercase t))
    (hkelvin : Text.kelvinSign ∉ t) :
    IsCursorWord t := by
  obtain ⟨hstart, hparts⟩ := isCursorWord_iff.1 hword
  have hforms : ∀ c ∈ t, Text.IsAscii c ∧ isCursorWordPart c = true := by
    intro c hc
    obtain ⟨before, following, hsubset⟩ := Text.mem_lowercase hc
    have hform : ∀ d ∈ Text.lowercaseBetween before c following, isCursorWordPart d = true :=
      fun d hd => hparts d (hsubset hd)
    have hascii : Text.IsAscii c := by
      have hforms := fun d hd => isAscii_of_cursorWordPart (hform d hd)
      refine (Text.ascii_of_lowercaseBetween hforms).resolve_right ?_
      rintro rfl
      exact hkelvin hc
    obtain ⟨d, hd, hclass, -⟩ := lowercaseChar_classes hascii
    rw [Text.lowercaseBetween_of_ascii hascii, hd] at hform
    exact ⟨hascii, hclass ▸ hform d List.mem_cons_self⟩
  refine isCursorWord_iff.2 ⟨?_, fun c hc => (hforms c hc).2⟩
  rw [Text.lowercase_of_ascii fun c hc => (hforms c hc).1] at hstart
  cases t with
  | nil =>
      obtain ⟨c, hc, -⟩ := hstart
      cases hc
  | cons first rest =>
      obtain ⟨d, hd, -, hclass⟩ := lowercaseChar_classes (hforms first List.mem_cons_self).1
      obtain ⟨e, he, hstart⟩ := hstart
      rw [List.flatMap_cons, hd] at he
      obtain rfl : d = e := Option.some.inj he
      exact ⟨first, rfl, hclass ▸ hstart⟩

/-! ## Segments and words -/

theorem lastSegment_eq
    (before : Text) :
    lastSegment before = before.rtakeWhile fun c => ! isSeparator c :=
  rfl

/-- The longest text without a separator at the end of a text. -/
structure IsLastSegment (before segment : Text) : Prop where
  suffix : segment <:+ before
  unbroken : ∀ c ∈ segment, isSeparator c = false
  longest :
    ∀ other, other <:+ before → (∀ c ∈ other, isSeparator c = false) → other <:+ segment

theorem isLastSegment_lastSegment
    (before : Text) :
    IsLastSegment before (lastSegment before) where
  suffix := by
    rw [lastSegment_eq]
    exact List.rtakeWhile_suffix _ before
  unbroken := by
    intro c hc
    rw [lastSegment_eq] at hc
    simpa using List.mem_rtakeWhile_imp hc
  longest := by
    intro other hsuffix hunbroken
    rw [lastSegment_eq]
    refine Text.suffix_rtakeWhile hsuffix ?_
    intro c hc
    simp [hunbroken c hc]

/-- The word before a cursor lies in the last segment. -/
theorem trailingWord_suffix_lastSegment
    (before : Text) :
    trailingWord before <:+ lastSegment before := by
  refine (isLastSegment_lastSegment before).longest _ (trailingWord_suffix before) ?_
  intro c hc
  exact not_isSeparator_of_cursorWordPart (trailingWord_parts before c hc)

/-- A segment that is a word is the word before the cursor. -/
theorem trailingWord_eq_lastSegment
    {before : Text}
    (hword : IsCursorWord (lastSegment before)) :
    trailingWord before = lastSegment before := by
  have hlonger := suffix_trailingWord (isLastSegment_lastSegment before).suffix hword
  exact (trailingWord_suffix_lastSegment before).eq_of_length_le hlonger.length_le

/-- Where something is offered, the word being typed begins a label. -/
theorem isCursorWord_currentWord
    {items : List CompletionItem} {before : Text}
    (hlabels : ∀ item ∈ items, IsCursorWord item.label)
    (hoffered : suggestionsFor items (currentWord before) ≠ []) :
    IsCursorWord (currentWord before) := by
  obtain ⟨item, hmem⟩ := List.exists_mem_of_ne_nil _ hoffered
  obtain ⟨hitem, hne, hbegins⟩ := mem_suggestionsFor hmem
  exact (hlabels item hitem).lowercase.of_prefix hbegins hne

/-- With the Kelvin sign in the segment, the word before the cursor is shorter in lower case. -/
theorem lowercase_trailingWord_ne
    {before : Text}
    (hkelvin : Text.kelvinSign ∈ lastSegment before) :
    Text.lowercase (trailingWord before) ≠ currentWord before := by
  have hascii : ∀ c ∈ trailingWord before, Text.IsAscii c := by
    intro c hc
    exact isAscii_of_cursorWordPart (trailingWord_parts before c hc)
  have hsuffix := trailingWord_suffix_lastSegment before
  have hshorter : (trailingWord before).length ≠ (lastSegment before).length := by
    intro hlength
    rw [← hsuffix.eq_of_length hlength] at hkelvin
    exact absurd (hascii _ hkelvin) (by decide)
  intro heq
  have hlength := congrArg List.length heq
  rw [Text.length_lowercase_of_ascii hascii, currentWord] at hlength
  have hgrows := Text.length_le_lowercase (lastSegment before)
  have hle := hsuffix.length_le
  omega

/--
The labels that come with the editor are words.  Whenever something is suggested
from a catalog of such labels, the word at the cursor is the typed segment up to
letter case, unless the segment holds the Kelvin sign.  Then the word is the segment
itself, and a replacement leaves nothing of the segment in front of the new text.
-/
theorem replaced_word_is_segment :
    (∀ item ∈ Shipped.completions, IsCursorWord item.label) ∧
    ∀ (items : List CompletionItem) (t : Text) (cursor : Nat) (w : CursorWord)
      (offered : List CompletionItem),
      (∀ item ∈ items, IsCursorWord item.label) →
      wordAt t cursor = .ok w →
      suggest items t cursor = .ok offered →
      offered ≠ [] →
      ∃ before after,
        t = before ++ after ∧
        cursor = Text.size before ∧
        (Text.lowercase w.word = currentWord before ↔
          Text.kelvinSign ∉ lastSegment before) ∧
        (Text.kelvinSign ∉ lastSegment before →
          w.word = lastSegment before ∧
          ∃ lead, before = lead ++ lastSegment before ∧
            ∀ replacement, w.replaceIn? t replacement = some (lead ++ replacement ++ after)) := by
  refine ⟨by rw [← List.all_iff_forall_prop]; decide, ?_⟩
  intro items t cursor w offered hlabels haccepted hsuggest hne
  obtain ⟨lead, after, htext, hstart, hcursor, hword⟩ := wordAt_eq_ok haccepted
  have hsize : cursor = Text.size (lead ++ w.word) := by
    rw [hcursor, Text.size_append]
  rw [htext, hsize, suggest_size] at hsuggest
  rw [← Except.ok.inj hsuggest] at hne
  have hsegment : Text.kelvinSign ∉ lastSegment (lead ++ w.word) →
      w.word = lastSegment (lead ++ w.word) := by
    intro hkelvin
    have hshape := isCursorWord_of_lowercase (isCursorWord_currentWord hlabels hne) hkelvin
    rw [← trailingWord_eq_lastSegment hshape]
    exact hword
  refine ⟨lead ++ w.word, after, htext, hsize, ⟨?_, ?_⟩, ?_⟩
  · intro hsame hkelvin
    refine lowercase_trailingWord_ne hkelvin ?_
    rw [← hword]
    exact hsame
  · intro hkelvin
    rw [currentWord, ← hsegment hkelvin]
  · intro hkelvin
    refine ⟨hsegment hkelvin, lead, ?_, ?_⟩
    · rw [← hsegment hkelvin]
    · intro replacement
      rw [htext]
      exact replaceIn?_between hstart after replacement

/-- An item that inserts its own label. -/
def plainItem (label : Text) : CompletionItem :=
  ⟨label, label, [], .keyword, none⟩

/-- A segment in mixed case, with a dash in it and characters of several bytes around it. -/
theorem replaced_word_is_segment_mixed :
    wordAt "é;For-Lo→".toList 9 = .ok ⟨3, "For-Lo".toList⟩ ∧
      suggest [plainItem "for-loop".toList] "é;For-Lo→".toList 9 =
        .ok [plainItem "for-loop".toList] ∧
      Text.lowercase "For-Lo".toList = currentWord "é;For-Lo".toList ∧
      "For-Lo".toList = lastSegment "é;For-Lo".toList := by
  have haccepted : wordAt "é;For-Lo→".toList 9 = .ok ⟨3, "For-Lo".toList⟩ := by decide
  have hsuggest :
      suggest [plainItem "for-loop".toList] "é;For-Lo→".toList 9 =
        .ok [plainItem "for-loop".toList] := by
    refine (suggest_size _ "é;For-Lo".toList ['→']).trans (congrArg Except.ok ?_)
    exact suggestionsFor_singleton (by decide) (by decide)
  have hlabels : ∀ item ∈ [plainItem "for-loop".toList], IsCursorWord item.label := by
    rw [List.forall_mem_singleton]
    decide
  obtain ⟨before, after, htext, hcursor, hsame, hwhole⟩ :=
    replaced_word_is_segment.2 _ _ _ _ _ hlabels haccepted hsuggest (List.cons_ne_nil _ _)
  have hcut : Text.cut? "é;For-Lo→".toList 9 = some ("é;For-Lo".toList, ['→']) := by decide
  obtain ⟨rfl, -⟩ := parts_of_cut? htext hcursor hcut
  have hkelvin : Text.kelvinSign ∉ lastSegment "é;For-Lo".toList := by decide
  exact ⟨haccepted, hsuggest, hsame.2 hkelvin, (hwhole hkelvin).1⟩

/--
The Kelvin sign and an e are suggested a label that begins with k, but only the e is
a word: the sign stays in front of the inserted text.
-/
theorem kelvin_sign_stays :
    (∀ item ∈ [plainItem "key".toList], IsCursorWord item.label) ∧
      wordAt [Text.kelvinSign, 'e'] 4 = .ok ⟨3, ['e']⟩ ∧
      suggest [plainItem "key".toList] [Text.kelvinSign, 'e'] 4 =
        .ok [plainItem "key".toList] ∧
      Text.lowercase ['e'] ≠ currentWord [Text.kelvinSign, 'e'] ∧
      (CursorWord.mk 3 ['e']).replaceIn? [Text.kelvinSign, 'e'] "key".toList =
        some (Text.kelvinSign :: "key".toList) := by
  refine ⟨by rw [List.forall_mem_singleton]; decide, by decide, ?_, by decide, by decide⟩
  refine (suggest_size _ [Text.kelvinSign, 'e'] []).trans (congrArg Except.ok ?_)
  exact suggestionsFor_singleton (by decide) (by decide)

end TeachingEditor
