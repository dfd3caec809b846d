import TeachingEditor.Text.Blank
import TeachingEditor.Text.Lowercase
import Mathlib

/-!
# Lower-casing, ASCII and blanks

What is compared after lower-casing is often known to be ASCII, and then only ASCII
can have stood there before, with one exception: the Kelvin sign has the letter k as
its lower-case form.  Blanks have no exception: each has itself as its form, and no
other character has a blank in its form.

**Algorithm.**  A row of the table sends its code points to code points from its
image on (`lowercaseCodePoint_cases`), so every question about all characters is a
check of the rows.  For characters in ASCII it is a check of all 128 of them
(`ascii_forall`).

**Results.**
* `ascii_of_lowercaseBetween`: a character with a lower-case form in ASCII is in
  ASCII, or the Kelvin sign.
* `lowercase_of_ascii`: the characters of an ASCII text are lower-cased one by one.
* `mem_lowercase`: the forms of all characters are parts of the lower-case text.
* `length_le_lowercase`, `length_lowercase_of_ascii`: no character is lost, and
  none is added in ASCII.
* `isBlank_lowercase_iff`: the blank texts are those with a blank lower-case form.
-/

namespace TeachingEditor
namespace Text

/-! ## Characters in ASCII -/

/-- The characters in ASCII. -/
def IsAscii (c : Char) : Prop :=
  c.toNat < 128

instance (c : Char) : Decidable (IsAscii c) :=
  inferInstanceAs (Decidable (c.toNat < 128))

/-- A property of all characters in ASCII, checked one by one. -/
theorem ascii_forall
    {p : Char → Bool}
    (hall : (List.range 128).all (fun n => p (Char.ofNat n)) = true)
    {c : Char}
    (hascii : IsAscii c) :
    p c = true := by
  have hc := List.all_eq_true.1 hall c.toNat (List.mem_range.2 hascii)
  rwa [Char.ofNat_toNat] at hc

/-- The sign for the unit kelvin, whose lower-case form is an ordinary k. -/
def kelvinSign : Char := '\u212a'

/-! ## The table -/

/-- A code point stays as it is, or a row gives its lower-case form. -/
theorem lowercaseCodePoint_cases
    (rows : List CaseRow) (n : Nat) :
    lowercaseCodePoint rows n = n ∨
      ∃ row ∈ rows,
        row.first ≤ n ∧ n ≤ row.last ∧
          lowercaseCodePoint rows n = row.image + (n - row.first) := by
  induction rows with
  | nil => exact Or.inl rfl
  | cons row rest ih =>
      unfold lowercaseCodePoint
      split
      · exact Or.inl rfl
      · next hfirst =>
          split
          · next hlast =>
              exact Or.inr ⟨row, List.mem_cons_self, Nat.le_of_not_lt hfirst, hlast.1, rfl⟩
          · rcases ih with hsame | ⟨other, hmem, hplace⟩
            · exact Or.inl hsame
            · exact Or.inr ⟨other, List.mem_cons_of_mem row hmem, hplace⟩

/-- The images of the rows are code points of characters. -/
theorem lowercaseRows_valid :
    ∀ row ∈ lowercaseRows,
      row.image + (row.last - row.first) < 0xD800 ∨
        (0xDFFF < row.image ∧ row.image + (row.last - row.first) < 0x110000) := by
  decide +kernel

/-- The rows that lead into ASCII. -/
theorem lowercaseRows_ascii :
    ∀ row ∈ lowercaseRows,
      row.image < 128 →
        row.last < 128 ∨ (row.first = kelvinSign.toNat ∧ row.last = kelvinSign.toNat) := by
  decide +kernel

theorem lowercaseCodePoint_valid
    (c : Char) :
    (lowercaseCodePoint lowercaseRows c.toNat).isValidChar := by
  rcases lowercaseCodePoint_cases lowercaseRows c.toNat with hsame | ⟨row, hmem, -, hlast, himage⟩
  · rw [hsame]
    exact c.valid
  · rw [himage]
    rcases lowercaseRows_valid row hmem with hlow | ⟨hhigh, hbound⟩
    · exact Or.inl (by omega)
    · exact Or.inr ⟨by omega, by omega⟩

theorem lowercaseCodePoint_lt
    {n : Nat}
    (hascii : lowercaseCodePoint lowercaseRows n < 128) :
    n < 128 ∨ n = kelvinSign.toNat := by
  rcases lowercaseCodePoint_cases lowercaseRows n with hsame | ⟨row, hmem, hfirst, hlast, himage⟩
  · rw [hsame] at hascii
    exact Or.inl hascii
  · rcases lowercaseRows_ascii row hmem (by omega) with hrow | ⟨hbegin, hend⟩
    · exact Or.inl (by omega)
    · exact Or.inr (by omega)

/-! ## One character -/

/-- The form of a character other than the capital I with a dot has one character. -/
theorem lowercaseChar_eq
    {c : Char}
    (hdotted : c ≠ 'İ') :
    ∃ d, lowercaseChar c = [d] ∧ d.toNat = lowercaseCodePoint lowercaseRows c.toNat := by
  refine ⟨_, if_neg hdotted, ?_⟩
  rw [Char.toNat_ofNat, if_pos (lowercaseCodePoint_valid c)]

/-- Where the lower-case form is in ASCII, the character was, or it was the Kelvin sign. -/
theorem ascii_of_lowercaseBetween
    {preceding following : Text} {c : Char}
    (hform : ∀ d ∈ lowercaseBetween preceding c following, IsAscii d) :
    IsAscii c ∨ c = kelvinSign := by
  unfold lowercaseBetween at hform
  split at hform
  · exact absurd (hform 'ς' (by simp)) (by decide)
  · by_cases hdotted : c = 'İ'
    · subst hdotted
      exact absurd (hform '\u0307' (by simp [lowercaseChar])) (by decide)
    · obtain ⟨d, hchar, hd⟩ := lowercaseChar_eq hdotted
      have hascii : IsAscii d := hform d (by simp [hchar])
      rw [IsAscii, hd] at hascii
      rcases lowercaseCodePoint_lt hascii with hlow | hkelvin
      · exact Or.inl hlow
      · exact Or.inr (Char.toNat_inj.1 hkelvin)

theorem lowercaseBetween_of_ascii
    {c : Char}
    (hascii : IsAscii c)
    (preceding following : Text) :
    lowercaseBetween preceding c following = lowercaseChar c := by
  have hsigma : c ≠ 'Σ' := by
    rintro rfl
    exact absurd hascii (by decide)
  simp [lowercaseBetween, hsigma]

theorem one_le_length_lowercaseBetween
    (preceding : Text) (c : Char) (following : Text) :
    1 ≤ (lowercaseBetween preceding c following).length := by
  unfold lowercaseBetween lowercaseChar
  split
  · simp
  · split
    · simp
    · simp

theorem length_lowercaseChar_of_ascii
    {c : Char}
    (hascii : IsAscii c) :
    (lowercaseChar c).length = 1 := by
  have hdotted : c ≠ 'İ' := by
    rintro rfl
    exact absurd hascii (by decide)
  obtain ⟨d, hchar, -⟩ := lowercaseChar_eq hdotted
  rw [hchar, List.length_singleton]

/-! ## Texts -/

theorem lowercaseAfter_of_ascii
    {t : Text}
    (hascii : ∀ c ∈ t, IsAscii c)
    (preceding : Text) :
    lowercaseAfter preceding t = t.flatMap lowercaseChar := by
  induction t generalizing preceding with
  | nil => rfl
  | cons c t ih =>
      rw [lowercaseAfter, lowercaseBetween_of_ascii (hascii c List.mem_cons_self)]
      rw [ih fun d hd => hascii d (List.mem_cons_of_mem c hd)]
      rfl

/-- In ASCII the neighbours of a character do not matter. -/
theorem lowercase_of_ascii
    {t : Text}
    (hascii : ∀ c ∈ t, IsAscii c) :
    lowercase t = t.flatMap lowercaseChar :=
  lowercaseAfter_of_ascii hascii []

theorem mem_lowercaseAfter
    {t : Text} {c : Char}
    (hmem : c ∈ t)
    (preceding : Text) :
    ∃ before following,
      lowercaseBetween before c following ⊆ lowercaseAfter preceding t := by
  induction t generalizing preceding with
  | nil => cases hmem
  | cons e t ih =>
      rw [lowercaseAfter]
      rcases List.mem_cons.1 hmem with rfl | hmem
      · exact ⟨preceding, t, List.subset_append_left _ _⟩
      · obtain ⟨before, following, hsubset⟩ := ih hmem (e :: preceding)
        exact ⟨before, following, List.subset_append_of_subset_right _ hsubset⟩

/-- Each character leaves its form in the lower-case text. -/
theorem mem_lowercase
    {t : Text} {c : Char}
    (hmem : c ∈ t) :
    ∃ before following, lowercaseBetween before c following ⊆ lowercase t :=
  mem_lowercaseAfter hmem []

theorem length_le_lowercaseAfter
    (preceding t : Text) :
    t.length ≤ (lowercaseAfter preceding t).length := by
  induction t generalizing preceding with
  | nil => exact Nat.le_refl 0
  | cons c t ih =>
      have hone := one_le_length_lowercaseBetween preceding c t
      have hrest := ih (c :: preceding)
      rw [lowercaseAfter, List.length_append, List.length_cons]
      omega

theorem length_le_lowercase
    (t : Text) :
    t.length ≤ (lowercase t).length :=
  length_le_lowercaseAfter [] t

theorem length_lowercase_of_ascii
    {t : Text}
    (hascii : ∀ c ∈ t, IsAscii c) :
    (lowercase t).length = t.length := by
  rw [lowercase_of_ascii hascii]
  induction t with
  | nil => rfl
  | cons c t ih =>
      rw [List.flatMap_cons, List.length_append, List.length_cons]
      rw [length_lowercaseChar_of_ascii (hascii c List.mem_cons_self)]
      rw [ih fun d hd => hascii d (List.mem_cons_of_mem c hd)]
      exact Nat.add_comm 1 t.length

/-! ## Blanks -/

theorem covers_eq_false
    {ranges : CodePointRanges} {n : Nat}
    (hout : ∀ range ∈ ranges, n < range.1 ∨ range.2 < n) :
    ranges.covers n = false := by
  induction ranges with
  | nil => rfl
  | cons range rest ih =>
      obtain ⟨hrange, hrest⟩ := List.forall_mem_cons.1 hout
      obtain ⟨first, last⟩ := range
      unfold CodePointRanges.covers
      split
      · rfl
      · next hfirst =>
          rw [if_neg (by omega)]
          exact ih hrest

/-- The rows keep away from blanks, with their code points and with the images of these. -/
theorem lowercaseRows_blank :
    ∀ row ∈ lowercaseRows, ∀ range ∈ blankRanges,
      (row.last < range.1 ∨ range.2 < row.first) ∧
        (row.image + (row.last - row.first) < range.1 ∨ range.2 < row.image) := by
  decide +kernel

theorem covers_lowercaseCodePoint
    (n : Nat) :
    blankRanges.covers (lowercaseCodePoint lowercaseRows n) = blankRanges.covers n := by
  rcases lowercaseCodePoint_cases lowercaseRows n with hsame | ⟨row, hmem, hfirst, hlast, himage⟩
  · rw [hsame]
  · have hsource : blankRanges.covers n = false := by
      refine covers_eq_false fun range hrange => ?_
      have hrow := (lowercaseRows_blank row hmem range hrange).1
      omega
    have htarget : blankRanges.covers (row.image + (n - row.first)) = false := by
      refine covers_eq_false fun range hrange => ?_
      have hrow := (lowercaseRows_blank row hmem range hrange).2
      omega
    rw [himage, hsource, htarget]

/-- The form of a blank is blank, and that of another character has no blank. -/
theorem isBlank_of_mem_lowercaseBetween
    {preceding following : Text} {c d : Char}
    (hd : d ∈ lowercaseBetween preceding c following) :
    isBlank d = isBlank c := by
  unfold lowercaseBetween at hd
  split at hd
  · next hsigma =>
      obtain rfl := List.mem_singleton.1 hd
      rw [hsigma.1]
      decide
  · by_cases hdotted : c = 'İ'
    · subst hdotted
      have hform : lowercaseChar 'İ' = ['i', '\u0307'] := if_pos rfl
      rw [hform] at hd
      rcases List.mem_cons.1 hd with rfl | hd
      · decide
      · obtain rfl := List.mem_singleton.1 hd
        decide
    · obtain ⟨e, hchar, he⟩ := lowercaseChar_eq hdotted
      rw [hchar] at hd
      obtain rfl := List.mem_singleton.1 hd
      rw [isBlank, he]
      exact covers_lowercaseCodePoint c.toNat

theorem exists_of_mem_lowercaseAfter
    {preceding t : Text} {d : Char}
    (hd : d ∈ lowercaseAfter preceding t) :
    ∃ c ∈ t, ∃ before following, d ∈ lowercaseBetween before c following := by
  induction t generalizing preceding with
  | nil => cases hd
  | cons c t ih =>
      rw [lowercaseAfter] at hd
      rcases List.mem_append.1 hd with hd | hd
      · exact ⟨c, List.mem_cons_self, preceding, t, hd⟩
      · obtain ⟨e, he, hform⟩ := ih hd
        exact ⟨e, List.mem_cons_of_mem c he, hform⟩

/-- Lower-casing neither makes a text blank nor fills a blank one. -/
theorem isBlank_lowercase_iff
    {t : Text} :
    (∀ d ∈ lowercase t, isBlank d = true) ↔ ∀ c ∈ t, isBlank c = true := by
  constructor
  · intro hblank c hc
    obtain ⟨before, following, hsubset⟩ := mem_lowercase hc
    obtain ⟨d, hd⟩ := List.exists_mem_of_length_pos
      (one_le_length_lowercaseBetween before c following)
    rw [← isBlank_of_mem_lowercaseBetween hd]
    exact hblank d (hsubset hd)
  · intro hblank d hd
    obtain ⟨c, hc, before, following, hform⟩ := exists_of_mem_lowercaseAfter hd
    rw [isBlank_of_mem_lowercaseBetween hform]
    exact hblank c hc

end Text
end TeachingEditor
