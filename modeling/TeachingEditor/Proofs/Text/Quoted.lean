import TeachingEditor.Text.Quoted
import Mathlib

/-!
# Quoted texts are read back

A quoted text is read as the text that was written, whatever stands behind its
closing quote, and no character of it is hidden.

**Algorithm.**  Each character is written in one of three forms: by a letter behind a
backslash, by its number, or as itself.  The reader is back in its plain state behind
each of them (`unquoteFrom?_quotedChar`), so reading goes along with writing.  The
digits of a number are read from the left while the number is taken apart from the
right, so what is proved of them is proved by adding digits on the right
(`hexDigits_induction`).

**Results.**
* `unquoted?_quoted`: a quoted text is read back and stops at its closing quote.
* `isHidden_of_mem_quoted`: a quoted text shows every character, so it is all on one
  line (`isHidden_of_mem_lineBreaks`).
-/

namespace TeachingEditor
namespace Text

/-! ## Characters that are shown -/

/-- The characters at which a text may be broken into lines. -/
def lineBreaks : List Char :=
  ['\n', '\x0b', '\x0c', '\r', '\u0085', '\u2028', '\u2029']

theorem isHidden_of_mem_lineBreaks
    {c : Char}
    (hc : c ∈ lineBreaks) :
    isHidden c = true := by
  have hline : hiddenRanges.covers 0x2028 = true := by decide +kernel
  have hparagraph : hiddenRanges.covers 0x2029 = true := by decide +kernel
  simp only [lineBreaks, List.mem_cons, List.not_mem_nil, or_false] at hc
  rcases hc with rfl | rfl | rfl | rfl | rfl | rfl | rfl
  · decide
  · decide
  · decide
  · decide
  · decide
  · exact hline
  · exact hparagraph

/-- The characters between the controls at the low end and the delete character. -/
def IsPrintable (c : Char) : Prop :=
  0x20 ≤ c.toNat ∧ c.toNat < 0x7F

instance : DecidablePred IsPrintable :=
  fun c => inferInstanceAs (Decidable (0x20 ≤ c.toNat ∧ c.toNat < 0x7F))

/-- They stand between the first two ranges of the table. -/
theorem IsPrintable.isHidden
    {c : Char}
    (hc : IsPrintable c) :
    isHidden c = false := by
  have hranges : hiddenRanges = (0x0, 0x1F) :: (0x7F, 0xA0) :: hiddenRanges.drop 2 := rfl
  have hfirst : ¬ c.toNat ≤ 0x1F := Nat.not_le_of_lt hc.1
  rw [Text.isHidden, hranges]
  simp [CodePointRanges.covers, hfirst, hc.2]

/-! ## Letters behind a backslash -/

/-- The characters that are written by a letter, and their letters. -/
def escapes : List (Char × Char) :=
  [('\x00', '0'), ('\t', 't'), ('\n', 'n'), ('\r', 'r'), ('"', '"'), ('\\', '\\')]

theorem escapeLetter?_mem
    {c letter : Char}
    (hletter : escapeLetter? c = some letter) :
    (c, letter) ∈ escapes := by
  unfold escapeLetter? at hletter
  split_ifs at hletter with hnul htab hfeed hreturn hquote hbackslash
  · cases hletter
    subst hnul
    decide
  · cases hletter
    subst htab
    decide
  · cases hletter
    subst hfeed
    decide
  · cases hletter
    subst hreturn
    decide
  · cases hletter
    subst hquote
    decide
  · cases hletter
    subst hbackslash
    decide

theorem escapes_read :
    ∀ escape ∈ escapes, escapedChar? escape.2 = some escape.1 := by
  decide

theorem escapes_printable :
    ∀ escape ∈ escapes, IsPrintable escape.2 := by
  decide

/-- A character without a letter may stand for itself. -/
theorem escapeLetter?_none
    {c : Char}
    (hnone : escapeLetter? c = none) :
    c ≠ '"' ∧ c ≠ '\\' := by
  constructor
  · rintro rfl
    cases hnone
  · rintro rfl
    cases hnone

theorem unquoteFrom?_letter
    {letter c : Char}
    (hletter : escapedChar? letter = some c)
    (rest : Text) :
    unquoteFrom? .plain ('\\' :: letter :: rest) =
      (unquoteFrom? .plain rest).map fun (t, after) => (c :: t, after) := by
  have hmark : letter ≠ 'u' := by
    rintro rfl
    cases hletter
  simp [unquoteFrom?, hmark, hletter]

/-! ## Numbers in braces -/

/-- Digits are one digit, or the digits of a smaller number with one more behind them. -/
theorem hexDigits_induction
    {P : Nat → Text → Prop}
    (first : ∀ d < 16, P d [Nat.digitChar d])
    (next : ∀ n digits, P n digits → ∀ d < 16, P (16 * n + d) (digits ++ [Nat.digitChar d]))
    (n : Nat) :
    P n (Nat.toDigits 16 n) := by
  induction n using Nat.strongRecOn with
  | ind n ih =>
      by_cases hsmall : n < 16
      · rw [Nat.toDigits_of_lt_base hsmall]
        exact first n hsmall
      · have hlarge : 16 ≤ n := Nat.not_lt.1 hsmall
        have hfront := ih (n / 16) (Nat.div_lt_self (by omega) (by decide))
        have hall := next _ _ hfront (n % 16) (Nat.mod_lt n (by decide))
        rw [Nat.div_add_mod] at hall
        rwa [Nat.toDigits_of_base_le (by decide) hlarge]

theorem mem_hexDigits
    (n : Nat) :
    ∀ c ∈ Nat.toDigits 16 n, ∃ d < 16, c = Nat.digitChar d := by
  induction n using hexDigits_induction with
  | first d hd =>
      intro c hc
      exact ⟨d, hd, List.mem_singleton.1 hc⟩
  | next n digits hdigits d hd =>
      intro c hc
      rcases List.mem_append.1 hc with hc | hc
      · exact hdigits c hc
      · exact ⟨d, hd, List.mem_singleton.1 hc⟩

theorem hexDigit?_digitChar :
    ∀ d < 16, hexDigit? (Nat.digitChar d) = some d := by
  decide

theorem isPrintable_digitChar :
    ∀ d < 16, IsPrintable (Nat.digitChar d) := by
  decide

theorem unquoteFrom?_digit
    {c : Char} {d : Nat}
    (hdigit : hexDigit? c = some d)
    (value : Nat) (rest : Text) :
    unquoteFrom? (.number value) (c :: rest) =
      unquoteFrom? (.number (16 * value + d)) rest := by
  have hopen : c ≠ '}' := by
    rintro rfl
    cases hdigit
  simp [unquoteFrom?, hopen, hdigit]

/-- The digits of a number are read as that number. -/
theorem unquoteFrom?_digits
    (n : Nat) :
    ∀ rest : Text,
      unquoteFrom? (.number 0) (Nat.toDigits 16 n ++ rest) = unquoteFrom? (.number n) rest := by
  induction n using hexDigits_induction with
  | first d hd =>
      intro rest
      rw [List.singleton_append, unquoteFrom?_digit (hexDigit?_digitChar d hd)]
      simp
  | next n digits hdigits d hd =>
      intro rest
      rw [List.append_assoc, hdigits, List.singleton_append,
        unquoteFrom?_digit (hexDigit?_digitChar d hd)]

theorem unquoteFrom?_number
    (c : Char) (rest : Text) :
    unquoteFrom? .plain (['\\', 'u', '{'] ++ Nat.toDigits 16 c.toNat ++ ['}'] ++ rest) =
      (unquoteFrom? .plain rest).map fun (t, after) => (c :: t, after) := by
  calc
    unquoteFrom? .plain (['\\', 'u', '{'] ++ Nat.toDigits 16 c.toNat ++ ['}'] ++ rest)
        = unquoteFrom? (.number 0) (Nat.toDigits 16 c.toNat ++ '}' :: rest) := by
          simp [unquoteFrom?]
    _ = unquoteFrom? (.number c.toNat) ('}' :: rest) :=
          unquoteFrom?_digits c.toNat ('}' :: rest)
    _ = (unquoteFrom? .plain rest).map fun (t, after) => (c :: t, after) := by
          simp [unquoteFrom?, Char.ofNat_toNat]

/-! ## Whole texts -/

/-- Behind the written form of a character the reader goes on as from the start. -/
theorem unquoteFrom?_quotedChar
    (c : Char) (rest : Text) :
    unquoteFrom? .plain (quotedChar c ++ rest) =
      (unquoteFrom? .plain rest).map fun (t, after) => (c :: t, after) := by
  unfold quotedChar
  split
  · next letter hletter =>
      exact unquoteFrom?_letter (escapes_read _ (escapeLetter?_mem hletter)) rest
  · next hnone =>
      split
      · exact unquoteFrom?_number c rest
      · obtain ⟨hquote, hbackslash⟩ := escapeLetter?_none hnone
        simp [unquoteFrom?, hquote, hbackslash]

theorem unquoteFrom?_quotedBody
    (t rest : Text) :
    unquoteFrom? .plain (quotedBody t ++ '"' :: rest) = some (t, rest) := by
  induction t with
  | nil => simp [quotedBody, unquoteFrom?]
  | cons c t ih =>
      rw [quotedBody, List.append_assoc, unquoteFrom?_quotedChar, ih]
      rfl

/-- A quoted text is read back, and nothing behind its closing quote is touched. -/
theorem unquoted?_quoted
    (t rest : Text) :
    unquoted? (quoted t ++ rest) = some (t, rest) := by
  have hbody := unquoteFrom?_quotedBody t rest
  simpa [quoted, unquoted?] using hbody

theorem unquoted?_quoted_end
    (t : Text) :
    unquoted? (quoted t) = some (t, []) := by
  simpa using unquoted?_quoted t []

theorem isHidden_of_mem_quotedChar
    {c d : Char}
    (hd : d ∈ quotedChar c) :
    isHidden d = false := by
  unfold quotedChar at hd
  split at hd
  · next letter hletter =>
      simp only [List.mem_cons, List.not_mem_nil, or_false] at hd
      rcases hd with rfl | rfl
      · decide
      · exact (escapes_printable _ (escapeLetter?_mem hletter)).isHidden
  · split at hd
    · simp only [List.mem_append, List.mem_cons, List.not_mem_nil, or_false] at hd
      rcases hd with ((rfl | rfl | rfl) | hd) | rfl
      · decide
      · decide
      · decide
      · obtain ⟨n, hn, rfl⟩ := mem_hexDigits c.toNat d hd
        exact (isPrintable_digitChar n hn).isHidden
      · decide
    · next hshown =>
        rw [List.mem_singleton.1 hd]
        exact Bool.eq_false_iff.2 hshown

theorem isHidden_of_mem_quotedBody
    {t : Text} {d : Char}
    (hd : d ∈ quotedBody t) :
    isHidden d = false := by
  induction t with
  | nil => cases hd
  | cons c t ih =>
      rcases List.mem_append.1 hd with hd | hd
      · exact isHidden_of_mem_quotedChar hd
      · exact ih hd

/-- A quoted text shows every character it is written with. -/
theorem isHidden_of_mem_quoted
    {t : Text} {d : Char}
    (hd : d ∈ quoted t) :
    isHidden d = false := by
  simp only [quoted, List.cons_append, List.mem_cons, List.mem_append, List.not_mem_nil,
    or_false] at hd
  rcases hd with rfl | hd | rfl
  · decide
  · exact isHidden_of_mem_quotedBody hd
  · decide

end Text
end TeachingEditor
