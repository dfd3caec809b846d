import TeachingEditor.Proofs.Completion.LongestWord

/-!
# Replacing the bytes of any word

A word carries the offset at which it starts, and anybody may make one with any offset.
Its bytes are then looked for in a text that may be too short for them, or has characters
across one of their two ends.

**Algorithm.**  Two offsets that lie on boundaries cut a text into three parts
(`exists_parts`), so a replacement is made exactly where both do.  The offset behind the word
is a sum.  In 64 bits it may be too large, and then the program stops or takes a far smaller
offset instead; but a start from which this can happen lies behind the end of every text
that is in memory together with the word, so it is never a boundary (`replaceIn64?_eq`).

**Results.**  `replaceIn?_decided`: when a replacement is made, and what comes of it.
-/

namespace TeachingEditor

namespace Text

theorem cut?_eq_none_iff
    {t : Text} {offset : ℕ} :
    cut? t offset = none ↔ ¬ IsBoundary t offset := by
  cases hcut : cut? t offset with
  | none => simp [IsBoundary, hcut]
  | some parts => simpa using ⟨parts.1, parts.2, hcut⟩

/-- Two boundaries cut a text into three parts. -/
theorem exists_parts
    {t : Text} {start length : ℕ}
    (hstart : IsBoundary t start)
    (hstop : IsBoundary t (start + length)) :
    ∃ before old after, t = before ++ old ++ after ∧ size before = start ∧ size old = length := by
  obtain ⟨before, rest, rfl, rfl⟩ := isBoundary_iff.1 hstart
  obtain ⟨upTo, after, hparts, hsize⟩ := isBoundary_iff.1 hstop
  rcases List.append_eq_append_iff.1 hparts with ⟨old, rfl, rfl⟩ | ⟨old, rfl, rfl⟩
  · rw [size_append] at hsize
    exact ⟨before, old, after, (List.append_assoc before old after).symm, rfl, by omega⟩
  · -- The second boundary is not in front of the first one, so nothing lies between them.
    rw [size_append] at hsize
    obtain rfl : old = [] := size_eq_zero_iff.1 (by omega)
    exact ⟨upTo, [], rest, by simp, by simp, by simp at hsize ⊢; omega⟩

/-- A boundary lies within the text and inside no character. -/
theorem not_isBoundary_iff
    {t : Text} {offset : ℕ} :
    ¬ IsBoundary t offset ↔ size t < offset ∨ IsInside t offset := by
  rw [isInside_iff]
  by_cases hpast : size t < offset
  · simp [hpast, not_isBoundary_of_lt hpast]
  · simp [hpast, Nat.le_of_not_lt hpast]

end Text

/-! ## Replacing between two offsets -/

section Replacement

variable {w : CursorWord} {t replacement : Text}

theorem replaceIn?_eq_none_iff :
    w.replaceIn? t replacement = none ↔
      ¬ Text.IsBoundary t w.start ∨ ¬ Text.IsBoundary t (w.start + Text.size w.word) := by
  rw [← Text.cut?_eq_none_iff, ← Text.cut?_eq_none_iff]
  unfold CursorWord.replaceIn? CursorWord.span
  cases Text.cut? t w.start with
  | none => simp
  | some parts => cases Text.cut? t (w.start + Text.size w.word) <;> simp

/-- The bytes of a word in a text are replaced by what is put between the texts around them. -/
theorem replaceIn?_parts
    {before old after : Text}
    (hstart : Text.size before = w.start)
    (hlength : Text.size old = Text.size w.word) :
    w.replaceIn? (before ++ old ++ after) replacement = some (before ++ replacement ++ after) := by
  have hold : CursorWord.replaceIn? ⟨w.start, old⟩ (before ++ old ++ after) replacement =
      some (before ++ replacement ++ after) :=
    replaceIn?_between (w := ⟨w.start, old⟩) hstart.symm after replacement
  -- Of the word only its size counts.
  rw [← hold]
  unfold CursorWord.replaceIn? CursorWord.span
  rw [hlength]

/-- What comes of a replacement is determined by the three parts of the text. -/
theorem replaceIn?_eq_some_iff
    {result : Text} :
    w.replaceIn? t replacement = some result ↔
      ∃ before old after, t = before ++ old ++ after ∧ Text.size before = w.start ∧
        Text.size old = Text.size w.word ∧ result = before ++ replacement ++ after := by
  constructor
  · intro hresult
    have hplaces : Text.IsBoundary t w.start ∧
        Text.IsBoundary t (w.start + Text.size w.word) := by
      by_contra hbad
      rw [replaceIn?_eq_none_iff.2 (not_and_or.1 hbad)] at hresult
      cases hresult
    obtain ⟨before, old, after, rfl, hstart, hlength⟩ :=
      Text.exists_parts hplaces.1 hplaces.2
    rw [replaceIn?_parts hstart hlength] at hresult
    exact ⟨before, old, after, rfl, hstart, hlength, (Option.some.inj hresult).symm⟩
  · rintro ⟨before, old, after, rfl, hstart, hlength, rfl⟩
    exact replaceIn?_parts hstart hlength

theorem size_of_replaceIn?
    {result : Text}
    (hresult : w.replaceIn? t replacement = some result) :
    Text.size w.word ≤ Text.size t ∧
      Text.size result = Text.size t - Text.size w.word + Text.size replacement := by
  obtain ⟨before, old, after, rfl, -, hlength, rfl⟩ := replaceIn?_eq_some_iff.1 hresult
  simp only [Text.size_append]
  omega

end Replacement

/-! ## Offsets of 64 bits -/

/-- What becomes of a sum that does not fit in 64 bits. -/
inductive Overflow where
  | stops
  | wraps
  deriving DecidableEq, Repr

/-- The sum of two numbers of 64 bits; nothing when the program stops at it. -/
def Overflow.add? : Overflow → UInt64 → UInt64 → Option UInt64
  | stops, a, b => if a.toNat + b.toNat < 2 ^ 64 then some (a + b) else none
  | wraps, a, b => some (a + b)

/-- Replace the bytes of a word where offsets have 64 bits. -/
def replaceIn64? (overflow : Overflow) (start : UInt64) (word t replacement : Text) :
    Option Text :=
  match overflow.add? start (UInt64.ofNat (Text.size word)) with
  | none => none
  | some stop =>
      match Text.cut? t start.toNat, Text.cut? t stop.toNat with
      | some (before, _), some (_, after) => some (before ++ replacement ++ after)
      | _, _ => none

/-- A sum that fits is the same in both ways. -/
theorem Overflow.add?_of_lt
    {a b : UInt64}
    (overflow : Overflow)
    (hfits : a.toNat + b.toNat < 2 ^ 64) :
    ∃ sum, overflow.add? a b = some sum ∧ sum.toNat = a.toNat + b.toNat := by
  have hsum : (a + b).toNat = a.toNat + b.toNat := by
    rw [UInt64.toNat_add, Nat.mod_eq_of_lt hfits]
  cases overflow with
  | stops => exact ⟨a + b, if_pos hfits, hsum⟩
  | wraps => exact ⟨a + b, rfl, hsum⟩

/-- With a text and a word that are in memory together, 64 bits are enough. -/
theorem replaceIn64?_eq
    {word t : Text}
    (hmemory : Text.size t + Text.size word < 2 ^ 64)
    (overflow : Overflow) (start : UInt64) (replacement : Text) :
    replaceIn64? overflow start word t replacement =
      (CursorWord.mk start.toNat word).replaceIn? t replacement := by
  have hword : (UInt64.ofNat (Text.size word)).toNat = Text.size word :=
    UInt64.toNat_ofNat_of_lt' ((Nat.le_add_left _ _).trans_lt hmemory)
  by_cases hfits : start.toNat + Text.size word < 2 ^ 64
  · rw [← hword] at hfits
    obtain ⟨stop, hadd, hstop⟩ := overflow.add?_of_lt hfits
    rw [hword] at hstop
    have hcut : Text.cut? t stop.toNat = Text.cut? t (start.toNat + Text.size word) := by
      rw [hstop]
    unfold replaceIn64? CursorWord.replaceIn? CursorWord.span
    rewrite [hadd, ← hcut]
    rfl
  · have hpast : ¬ Text.IsBoundary t start.toNat := not_isBoundary_of_lt (by omega)
    have hnone := Text.cut?_eq_none_iff.2 hpast
    rw [replaceIn?_eq_none_iff.2 (Or.inl hpast)]
    unfold replaceIn64?
    cases overflow.add? start (UInt64.ofNat (Text.size word)) with
    | none => rfl
    | some stop => simp only [hnone]

/--
A replacement falls outside the text exactly if one of the two ends of the word lies past
the end of the text or inside a character, and offsets of 64 bits make no difference to this.
Otherwise the parts of the text around the word are kept, with the replacement between them.
A word that was found at a cursor of the text never falls outside.
-/
theorem replaceIn?_decided
    (w : CursorWord) (t replacement : Text) :
    (w.replaceIn? t replacement = none ↔
        (Text.size t < w.start ∨ Text.IsInside t w.start) ∨
          Text.size t < w.start + Text.size w.word ∨
            Text.IsInside t (w.start + Text.size w.word)) ∧
      (∀ result, w.replaceIn? t replacement = some result ↔
        ∃ before old after, t = before ++ old ++ after ∧ Text.size before = w.start ∧
          Text.size old = Text.size w.word ∧ result = before ++ replacement ++ after) ∧
      (∀ result, w.replaceIn? t replacement = some result →
        Text.size w.word ≤ Text.size t ∧
          Text.size result = Text.size t - Text.size w.word + Text.size replacement) ∧
      (∀ (overflow : Overflow) (start : UInt64), w.start = start.toNat →
        Text.size t + Text.size w.word < 2 ^ 64 →
        replaceIn64? overflow start w.word t replacement = w.replaceIn? t replacement) ∧
      ∀ cursor, wordAt t cursor = .ok w → ∃ result, w.replaceIn? t replacement = some result := by
  refine ⟨?_, fun result => replaceIn?_eq_some_iff, fun result => size_of_replaceIn?, ?_, ?_⟩
  · rw [replaceIn?_eq_none_iff, Text.not_isBoundary_iff, Text.not_isBoundary_iff]
  · intro overflow start hstart hmemory
    rw [replaceIn64?_eq hmemory, ← hstart]
  · intro cursor haccepted
    obtain ⟨lead, after, rfl, hstart, -, -⟩ := wordAt_eq_ok haccepted
    exact ⟨lead ++ replacement ++ after, replaceIn?_between hstart after replacement⟩

/-- A start at the end of the 64 bits, from which the sum would come back into the text. -/
theorem replaceIn?_decided_wrapped :
    Text.size "aé".toList + Text.size "b→".toList < 2 ^ 64 ∧
      Overflow.wraps.add? (2 ^ 64 - 1) (UInt64.ofNat (Text.size "b→".toList)) = some 3 ∧
      replaceIn64? .wraps (2 ^ 64 - 1) "b→".toList "aé".toList [] = none ∧
      wordAt "aé_b".toList 5 = .ok ⟨3, "_b".toList⟩ ∧
      ∃ result, (CursorWord.mk 3 "_b".toList).replaceIn? "aé_b".toList [] = some result := by
  have hmemory : Text.size "aé".toList + Text.size "b→".toList < 2 ^ 64 := by decide
  have hnone : (CursorWord.mk (2 ^ 64 - 1 : UInt64).toNat "b→".toList).replaceIn?
      "aé".toList [] = none := by
    refine (replaceIn?_decided _ _ _).1.2 (Or.inl (Or.inl ?_))
    decide +kernel
  have hsame := (replaceIn?_decided ⟨(2 ^ 64 - 1 : UInt64).toNat, "b→".toList⟩
    "aé".toList []).2.2.2.1 .wraps (2 ^ 64 - 1) rfl hmemory
  have haccepted : wordAt "aé_b".toList 5 = .ok ⟨3, "_b".toList⟩ := by decide
  exact ⟨hmemory, by decide +kernel, hsame.trans hnone, haccepted,
    (replaceIn?_decided _ _ []).2.2.2.2 5 haccepted⟩

end TeachingEditor
