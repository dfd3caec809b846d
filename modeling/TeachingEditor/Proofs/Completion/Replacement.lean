import TeachingEditor.Proofs.Completion.LongestWord

/-!
# Replacing the word at a cursor

The word at a cursor is a view of the text, and a replacement writes through it.  What is
written is seen again, writing what is seen changes nothing, and of two writings the
second one counts.

**Algorithm.**  All of this depends on the text in front of the word only.  No word ends
there, since together with the word at the cursor it would be a longer one
(`EndsWith.lead`).  Digits and dashes may well stand there, but they begin no word, so a
word that is put behind them is not made longer by them (`EndsWith.append`).

**Results.**  `replacement_lens`: the three laws, for every word or nothing as the first
text and any text as the second one.
-/

namespace TeachingEditor

/-! ## In front of a word -/

theorem not_isCursorWord_nil :
    ¬ IsCursorWord [] := by
  rintro ⟨c, rest, hcons, -⟩
  cases hcons

theorem IsCursorWord.append
    {word more : Text}
    (hword : IsCursorWord word)
    (hmore : ∀ c ∈ more, isCursorWordPart c = true) :
    IsCursorWord (word ++ more) := by
  obtain ⟨c, rest, rfl, hletter, hrest⟩ := hword
  refine ⟨c, rest ++ more, rfl, hletter, ?_⟩
  intro d hd
  rcases List.mem_append.1 hd with hd | hd
  · exact hrest d hd
  · exact (isCursorWordPart_iff d).1 (hmore d hd)

/-- A text that ends with nothing ends with no word at all. -/
theorem endsWith_nil_iff
    {lead : Text} :
    EndsWith lead [] ↔ ∀ other, other <:+ lead → ¬ IsCursorWord other := by
  constructor
  · intro hnothing
    cases hnothing with
    | word _ hword _ => exact absurd hword not_isCursorWord_nil
    | nothing hnone => exact hnone
  · exact EndsWith.nothing

/-- In front of the longest word no word ends. -/
theorem EndsWith.lead
    {lead word : Text}
    (h : EndsWith (lead ++ word) word) :
    EndsWith lead [] := by
  refine endsWith_nil_iff.2 ?_
  intro other hother hword
  obtain ⟨front, rfl⟩ := hother
  have hsuffix : other ++ word <:+ front ++ other ++ word := by
    rw [List.append_assoc]
    exact List.suffix_append front (other ++ word)
  cases h with
  | word _ hlast hlongest =>
      have hlonger := hlongest (other ++ word) hsuffix (hword.append hlast.parts)
      have hempty : other = [] := by
        rw [List.length_append] at hlonger
        exact List.length_eq_zero_iff.1 (by omega)
      exact not_isCursorWord_nil (hempty ▸ hword)
  | nothing hnone => exact hnone other (by simp) hword

/-- A word behind a text with no word at its end is found by itself. -/
theorem EndsWith.append
    {lead word : Text}
    (h : EndsWith lead [])
    (hword : word = [] ∨ IsCursorWord word) :
    EndsWith (lead ++ word) word := by
  rcases hword with rfl | hword
  · rwa [List.append_nil]
  · refine EndsWith.word (List.suffix_append lead word) hword ?_
    intro other hother hlonger
    -- A longer word would begin with a word that ends where this one starts.
    by_contra hlength
    have hends : word <:+ other :=
      List.suffix_of_suffix_length_le (List.suffix_append lead word) hother (by omega)
    obtain ⟨front, rfl⟩ := hends
    have hfront : front <:+ lead := List.suffix_append_self_iff.1 hother
    have hne : front ≠ [] := by
      rintro rfl
      simp at hlength
    have hbegins : front <+: front ++ word := List.prefix_append front word
    exact endsWith_nil_iff.1 h front hfront (hlonger.of_prefix hbegins hne)

/-! ## The laws -/

/--
At a cursor with a word: the word in its own place leaves the text as it is; a word or
nothing in its place is the word at the end of what has been put there; and a second
text in place of that one gives what it would have given at once.  No replacement falls
outside the text.
-/
theorem replacement_lens
    {t : Text} {cursor : ℕ} {w : CursorWord}
    (haccepted : wordAt t cursor = .ok w) :
    w.replaceIn? t w.word = some t ∧
      ∀ first, first = [] ∨ IsCursorWord first →
        ∃ replaced,
          w.replaceIn? t first = some replaced ∧
          wordAt replaced (w.start + Text.size first) = .ok ⟨w.start, first⟩ ∧
          ∀ second, ∃ result,
            w.replaceIn? t second = some result ∧
              (CursorWord.mk w.start first).replaceIn? replaced second = some result := by
  obtain ⟨lead, after, rfl, hstart, -, hword⟩ := wordAt_eq_ok haccepted
  refine ⟨replaceIn?_between hstart after w.word, ?_⟩
  intro first hfirst
  refine ⟨lead ++ first ++ after, replaceIn?_between hstart after first, ?_, ?_⟩
  · have hlead : EndsWith lead [] := (endsWith_iff.2 hword).lead
    have hput : first = trailingWord (lead ++ first) := endsWith_iff.1 (hlead.append hfirst)
    rw [hstart, ← Text.size_append, wordAt_size, ← hput, Text.size_append, Nat.add_sub_cancel]
  · intro second
    refine ⟨lead ++ second ++ after, replaceIn?_between hstart after second, ?_⟩
    exact replaceIn?_between (w := ⟨w.start, first⟩) hstart after second

/-- Behind a digit and a dash, and in front of a character of several bytes. -/
theorem replacement_lens_behind_dash :
    wordAt "é7-ab→".toList 6 = .ok ⟨4, "ab".toList⟩ ∧
      IsCursorWord "x-1".toList ∧
      ∃ replaced,
        (CursorWord.mk 4 "ab".toList).replaceIn? "é7-ab→".toList "x-1".toList = some replaced ∧
          replaced = "é7-x-1→".toList ∧
          wordAt replaced 7 = .ok ⟨4, "x-1".toList⟩ := by
  have haccepted : wordAt "é7-ab→".toList 6 = .ok ⟨4, "ab".toList⟩ := by decide
  have hfirst : IsCursorWord "x-1".toList := by decide
  obtain ⟨replaced, hreplaced, hfound, -⟩ :=
    (replacement_lens haccepted).2 _ (Or.inr hfirst)
  have htext : (CursorWord.mk 4 "ab".toList).replaceIn? "é7-ab→".toList "x-1".toList =
      some "é7-x-1→".toList := by
    decide
  exact ⟨haccepted, hfirst, replaced, hreplaced, Option.some.inj (hreplaced.symm.trans htext),
    hfound⟩

end TeachingEditor
