import TeachingEditor.Toml.Quoting
import TeachingEditor.Proofs.Text

/-!
# Written strings are read back

A text is written in one of four forms.  Whatever form is chosen, the reader gives
the text back and stops right behind the closing quotes.

**Format.**  `Spells` describes the inside of a string without any reading.  A
stretch of it is either a quote that stands for itself, of which a tripled form
allows two in a row, or a unit: the characters, none of them a quote at first, that
stand for one character of the text.

**Algorithm.**  The reader follows a spelling unit by unit (`Spells.readBody_eq`).
A quote closes a tripled form only if two more follow, and then the spelling was
down to its last quotes (`Spells.eq_replicate_of_take`), which the closing rule
gives to the text.  What the writer writes is a spelling: with escapes for every
text (`spells_escapeBody`), and without them for a text in which runs of quotes are
short (`spells_literal`).

**Results.**  `readString?_writeString`: what is written for a text is read as that
text in front of everything that begins with no quote.  `readString?_writeAs_basic`: so is
the text in the basic form, whether or not this is the form that is chosen for it.
-/

namespace TeachingEditor
namespace Toml

/-! ## Steps of the reader -/

section Steps

variable {form : StringForm}

theorem readBody_close
    (hsingle : form.isMultiline = false)
    (rest : Text) :
    readBody form .plain (form.quote :: rest) = some ([], rest) := by
  simp [readBody, hsingle]

theorem readBody_close_multiline
    (hmulti : form.isMultiline = true)
    (rest : Text) :
    readBody form .plain (form.quote :: form.quote :: form.quote :: rest) =
      some (closeMultiline form.quote rest) := by
  simp [readBody, hmulti]

/-- A quote that is not the first of three belongs to the text. -/
theorem readBody_quote
    (hmulti : form.isMultiline = true)
    {rest : Text}
    (hopen : rest.take 2 ≠ [form.quote, form.quote]) :
    readBody form .plain (form.quote :: rest) =
      prepend form.quote (readBody form .plain rest) := by
  simp [readBody, hmulti, hopen]

/-- A character that may stand for itself does so. -/
theorem readBody_plain
    {c : Char}
    (hquote : c ≠ form.quote)
    (hbackslash : ¬ (c = '\\' ∧ form.hasEscapes = true))
    (hplain : isPlainChar c = true ∨ (form.isMultiline = true ∧ c = '\n'))
    (rest : Text) :
    readBody form .plain (c :: rest) = prepend c (readBody form .plain rest) := by
  have hstands : (isPlainChar c || (form.isMultiline && startsNewline c rest)) = true := by
    rcases hplain with hplain | ⟨hmulti, rfl⟩
    · simp [hplain]
    · simp [hmulti, startsNewline]
  simp [readBody, hquote, hbackslash, hstands]

theorem backslash_ne_quote :
    '\\' ≠ form.quote := by
  cases form <;> decide

theorem readBody_escape
    (hescapes : form.hasEscapes = true)
    (rest : Text) :
    readBody form .plain ('\\' :: rest) = readBody form .escape rest := by
  simp [readBody, hescapes, backslash_ne_quote]

theorem readBody_letter
    {letter d : Char}
    (hletter : escapedChar? letter = some d)
    (rest : Text) :
    readBody form .escape (letter :: rest) = prepend d (readBody form .plain rest) := by
  simp [readBody, hletter]

/-- Four digits behind the mark of a short code. -/
theorem readBody_code
    {a b c d : Char} {i j k l : Nat} {e : Char}
    (ha : Text.hexDigit? a = some i) (hb : Text.hexDigit? b = some j)
    (hc : Text.hexDigit? c = some k) (hd : Text.hexDigit? d = some l)
    (hscalar : scalar? (16 * (16 * (16 * i + j) + k) + l) = some e)
    (rest : Text) :
    readBody form .escape ('u' :: a :: b :: c :: d :: rest) =
      prepend e (readBody form .plain rest) := by
  have hmark : escapedChar? 'u' = none := by decide
  have hlength : codeLength? 'u' = some 4 := by decide
  simp [readBody, hmark, hlength, ha, hb, hc, hd, hscalar]

end Steps

/-! ## Units -/

/-- Characters that are read as one character of the text, whatever follows. -/
structure IsUnit (form : StringForm) (unit : Text) (c : Char) : Prop where
  starts :
    ∃ d others, unit = d :: others ∧ d ≠ form.quote ∧ d ≠ '\r' ∧ (d = '\n' → c = '\n')
  read : ∀ rest, readBody form .plain (unit ++ rest) = prepend c (readBody form .plain rest)

theorem isUnit_plain
    {form : StringForm} {c : Char}
    (hquote : c ≠ form.quote)
    (hbackslash : ¬ (c = '\\' ∧ form.hasEscapes = true))
    (hplain : isPlainChar c = true ∨ (form.isMultiline = true ∧ c = '\n')) :
    IsUnit form [c] c where
  starts := by
    have hreturn : c ≠ '\r' := by
      rintro rfl
      rcases hplain with hplain | ⟨-, hbreak⟩
      · cases hplain
      · cases hbreak
    exact ⟨c, [], rfl, hquote, hreturn, fun hbreak => hbreak⟩
  read := readBody_plain hquote hbackslash hplain

theorem isUnit_letter
    {form : StringForm} {letter c : Char}
    (hescapes : form.hasEscapes = true)
    (hletter : escapedChar? letter = some c) :
    IsUnit form ['\\', letter] c where
  starts := ⟨'\\', _, rfl, backslash_ne_quote, by decide, fun h => absurd h (by decide)⟩
  read := by
    intro rest
    rw [List.cons_append, readBody_escape hescapes]
    exact readBody_letter hletter rest

theorem scalar?_toNat
    (c : Char) :
    scalar? c.toNat = some c := by
  have hvalid : c.toNat.isValidChar := c.valid
  have heq : Char.ofNatAux c.toNat hvalid = c := Char.ext rfl
  simp [scalar?, hvalid, heq]

/-- The written digits of a number below 128 are two zeros and its two digits. -/
theorem fourDigits_of_lt :
    ∀ n < 128,
      fourDigits ((Nat.toDigits 16 n).map Char.toUpper) =
        ['0', '0', (Nat.digitChar (n / 16)).toUpper, (Nat.digitChar (n % 16)).toUpper] := by
  decide

theorem hexDigit?_toUpper_digitChar :
    ∀ d < 16, Text.hexDigit? (Nat.digitChar d).toUpper = some d := by
  decide

theorem toNat_lt_of_isEscapedControl
    {c : Char}
    (hcontrol : isEscapedControl c = true) :
    c.toNat < 128 := by
  simp only [isEscapedControl, Bool.and_eq_true, Bool.or_eq_true, decide_eq_true_eq] at hcontrol
  rcases hcontrol.1.1 with hlow | rfl
  · have hspace : c.toNat < ' '.toNat := hlow
    have hvalue : ' '.toNat = 32 := rfl
    omega
  · decide

theorem isUnit_code
    {form : StringForm} {c : Char}
    (hescapes : form.hasEscapes = true)
    (hcontrol : isEscapedControl c = true) :
    IsUnit form (['\\', 'u'] ++ fourDigits ((Nat.toDigits 16 c.toNat).map Char.toUpper)) c where
  starts := ⟨'\\', _, rfl, backslash_ne_quote, by decide, fun h => absurd h (by decide)⟩
  read := by
    intro rest
    have hlt := toNat_lt_of_isEscapedControl hcontrol
    rw [fourDigits_of_lt c.toNat hlt]
    simp only [List.cons_append, List.nil_append]
    rw [readBody_escape hescapes]
    have hzero : Text.hexDigit? '0' = some 0 := by decide
    have hhigh := hexDigit?_toUpper_digitChar (c.toNat / 16) (by omega)
    have hlow := hexDigit?_toUpper_digitChar (c.toNat % 16) (by omega)
    have hvalue : 16 * (16 * (16 * 0 + 0) + c.toNat / 16) + c.toNat % 16 = c.toNat := by omega
    apply readBody_code hzero hzero hhigh hlow
    rw [hvalue]
    exact scalar?_toNat c

/-! ## Spellings -/

/--
The inside of a string for a text.  The number counts the quotes that stand right
before the place; only a tripled form lets a quote stand for itself, and of quotes in
a row at most two.
-/
inductive Spells (form : StringForm) : Nat → Text → Text → Prop
  | nil (quotes : Nat) :
      Spells form quotes [] []
  | quote {quotes : Nat} {written t : Text}
      (hmulti : form.isMultiline = true)
      (hfew : quotes < 2)
      (htail : Spells form (quotes + 1) written t) :
      Spells form quotes (form.quote :: written) (form.quote :: t)
  | unit {quotes : Nat} {unit written t : Text} {c : Char}
      (hunit : IsUnit form unit c)
      (htail : Spells form 0 written t) :
      Spells form quotes (unit ++ written) (c :: t)

/-- Quotes of the text right before the closing ones are given to the text. -/
theorem closeMultiline_replicate
    {quote : Char} {count : Nat} {after : Text}
    (hcount : count ≤ 2)
    (hafter : after.head? ≠ some quote) :
    closeMultiline quote (List.replicate count quote ++ after) =
      (List.replicate count quote, after) := by
  have hstop : Text.StopsAt (fun d => decide (d = quote)) (after.take (2 - count)).head? := by
    intro d hd
    rw [List.head?_take] at hd
    split at hd
    · cases hd
    · have hne : d ≠ quote := by
        rintro rfl
        exact hafter hd
      simpa using hne
  have hrun : ∀ d ∈ List.replicate count quote, decide (d = quote) = true := by
    intro d hd
    simpa using List.eq_of_mem_replicate hd
  have htake :
      (List.replicate count quote ++ after).take 2 =
        List.replicate count quote ++ after.take (2 - count) := by
    rw [List.take_append, List.take_of_length_le] <;> simp [hcount]
  have hextra :
      ((List.replicate count quote ++ after).take 2).takeWhile (fun d => decide (d = quote)) =
        List.replicate count quote := by
    rw [htake]
    exact Text.takeWhile_run hrun hstop
  unfold closeMultiline
  rw [hextra]
  simp

namespace Spells

variable {form : StringForm}

/--
Behind a quote that stands for itself, two more quotes in a row are met only at the
end of the text, when at most one quote is left of it.
-/
theorem eq_replicate_of_take
    {quotes : Nat} {written t after : Text}
    (h : Spells form (quotes + 1) written t)
    (htake :
      (written ++ form.quote :: form.quote :: form.quote :: after).take 2 =
        [form.quote, form.quote]) :
    ∃ count ≤ 1,
      written = List.replicate count form.quote ∧ t = List.replicate count form.quote := by
  cases h with
  | nil => exact ⟨0, Nat.zero_le 1, rfl, rfl⟩
  | @quote _ written t hmulti hfew htail =>
      cases htail with
      | nil => exact ⟨1, Nat.le_refl 1, rfl, rfl⟩
      | quote hmulti hfew' htail => omega
      | unit hunit htail =>
          obtain ⟨d, others, rfl, hne, -, -⟩ := hunit.starts
          simp [hne] at htake
  | unit hunit htail =>
      obtain ⟨d, others, rfl, hne, -, -⟩ := hunit.starts
      simp [hne] at htake

/-- A spelling is read as its text, up to quotes that close the string. -/
theorem readBody_eq
    {quotes : Nat} {written t after : Text}
    (h : Spells form quotes written t)
    (hafter : after.head? ≠ some form.quote) :
    readBody form .plain (written ++ (form.delimiter ++ after)) = some (t, after) := by
  induction h with
  | nil quotes =>
      unfold StringForm.delimiter
      split
      · next hmulti =>
          simp only [List.nil_append, List.cons_append]
          rw [readBody_close_multiline hmulti]
          exact congrArg some (closeMultiline_replicate (Nat.zero_le 2) hafter)
      · next hsingle =>
          exact readBody_close (Bool.eq_false_iff.2 hsingle) after
  | @quote quotes written t hmulti hfew htail ih =>
      rw [List.cons_append]
      by_cases htake :
          (written ++ (form.delimiter ++ after)).take 2 = [form.quote, form.quote]
      · have hdelimiter : form.delimiter = [form.quote, form.quote, form.quote] := by
          simp [StringForm.delimiter, hmulti]
        rw [hdelimiter] at htake ⊢
        obtain ⟨count, hcount, rfl, rfl⟩ := htail.eq_replicate_of_take htake
        have hclosing :
            form.quote ::
                (List.replicate count form.quote ++
                  ([form.quote, form.quote, form.quote] ++ after)) =
              form.quote :: form.quote :: form.quote ::
                (List.replicate (count + 1) form.quote ++ after) := by
          obtain rfl | rfl : count = 0 ∨ count = 1 := by omega
          · rfl
          · rfl
        rw [hclosing, readBody_close_multiline hmulti]
        exact congrArg some (closeMultiline_replicate (Nat.succ_le_succ hcount) hafter)
      · rw [readBody_quote hmulti htake, ih]
        rfl
  | unit hunit htail ih =>
      rw [List.append_assoc, hunit.read, ih]
      rfl

end Spells

/-! ## What is written is a spelling -/

theorem isPlainChar_of_not_control
    {c : Char}
    (hcontrol : isEscapedControl c = false)
    (hbreak : c ≠ '\n') :
    isPlainChar c = true := by
  by_cases htab : c = '\t'
  · simp [isPlainChar, htab]
  · simp only [isEscapedControl, htab, hbreak, ne_eq, not_false_eq_true, decide_true,
      Bool.and_true, Bool.or_eq_false_iff, decide_eq_false_iff_not] at hcontrol
    obtain ⟨hlow, hdelete⟩ := hcontrol
    simp [isPlainChar, Char.not_lt.1 hlow, hdelete]

theorem quote_of_hasEscapes
    {form : StringForm}
    (hescapes : form.hasEscapes = true) :
    form.quote = '"' := by
  cases form with
  | basic => rfl
  | multilineBasic => rfl
  | literal => cases hescapes
  | multilineLiteral => cases hescapes

theorem quote_of_not_hasEscapes
    {form : StringForm}
    (hescapes : form.hasEscapes = false) :
    form.quote = '\'' := by
  cases form with
  | basic => cases hescapes
  | multilineBasic => cases hescapes
  | literal => rfl
  | multilineLiteral => rfl

/-- The written form of a character other than the quote is a unit. -/
theorem isUnit_escapeChar
    {form : StringForm} {c : Char}
    (hescapes : form.hasEscapes = true)
    (hquote : c ≠ '"') :
    IsUnit form (escapeChar form.isMultiline c) c := by
  have hform := quote_of_hasEscapes hescapes
  unfold escapeChar
  split
  · next h => exact isUnit_letter hescapes (by rw [h]; rfl)
  split
  · next h => exact isUnit_letter hescapes (by rw [h]; rfl)
  split
  · next h =>
      subst h
      split
      · next hmulti =>
          exact isUnit_plain (hform ▸ hquote) (by simp) (Or.inr ⟨hmulti, rfl⟩)
      · exact isUnit_letter hescapes rfl
  split
  · next h => exact isUnit_letter hescapes (by rw [h]; rfl)
  split
  · next h => exact isUnit_letter hescapes (by rw [h]; rfl)
  split
  · next h => exact isUnit_letter hescapes (by rw [h]; rfl)
  split
  · next hcontrol => exact isUnit_code hescapes hcontrol
  · next hbreak _ _ hbackslash hcontrol =>
      have hplain := isPlainChar_of_not_control (Bool.eq_false_iff.2 hcontrol) hbreak
      exact isUnit_plain (hform ▸ hquote) (fun h => hbackslash h.1) (Or.inl hplain)

/-- With escapes every text can be spelled. -/
theorem spells_escapeBody
    {form : StringForm}
    (hescapes : form.hasEscapes = true)
    (quotes : Nat) (t : Text) :
    Spells form quotes (escapeBody form.isMultiline quotes t) t := by
  have hform := quote_of_hasEscapes hescapes
  induction t generalizing quotes with
  | nil => exact Spells.nil quotes
  | cons c t ih =>
      unfold escapeBody
      split
      · next hquote =>
          subst hquote
          split
          · next hfew =>
              have hspells := Spells.quote hfew.1 hfew.2 (ih (quotes + 1))
              rw [hform] at hspells
              exact hspells
          · exact Spells.unit (isUnit_letter hescapes rfl) (ih 0)
      · next hquote => exact Spells.unit (isUnit_escapeChar hescapes hquote) (ih 0)

theorem le_longestRunFrom
    (c : Char) (count : Nat) (t : Text) :
    count ≤ longestRunFrom c count t := by
  induction t generalizing count with
  | nil => exact Nat.le_refl count
  | cons d t ih =>
      unfold longestRunFrom
      split
      · exact Nat.le_of_succ_le (ih (count + 1))
      · exact Nat.le_max_left count _

/-- Without escapes a text can be spelled if its quotes are few in a row. -/
theorem spells_literal
    {form : StringForm} {quotes : Nat} {t : Text}
    (hescapes : form.hasEscapes = false)
    (hplain : ∀ c ∈ t, isPlainChar c = true ∨ (form.isMultiline = true ∧ c = '\n'))
    (hrun : longestRunFrom '\'' quotes t ≤ if form.isMultiline then 2 else 0) :
    Spells form quotes t t := by
  have hform := quote_of_not_hasEscapes hescapes
  induction t generalizing quotes with
  | nil => exact Spells.nil quotes
  | cons c t ih =>
      have htail := fun d hd => hplain d (List.mem_cons_of_mem c hd)
      unfold longestRunFrom at hrun
      split at hrun
      · next hquote =>
          subst hquote
          have hcount := le_longestRunFrom '\'' (quotes + 1) t
          by_cases hmulti : form.isMultiline = true
          · have hfew : quotes < 2 := by
              rw [if_pos hmulti] at hrun
              omega
            have hspells := Spells.quote hmulti hfew (ih htail hrun)
            rw [hform] at hspells
            exact hspells
          · rw [if_neg hmulti] at hrun
            omega
      · next hquote =>
          have hunit : IsUnit form [c] c :=
            isUnit_plain (hform ▸ hquote) (by simp [hescapes]) (hplain c List.mem_cons_self)
          exact Spells.unit hunit (ih htail (le_trans (Nat.le_max_right _ _) hrun))

/-! ## The choice of a form -/

/-- What a form without escapes demands of a text. -/
structure Fits (form : StringForm) (t : Text) : Prop where
  controls : ∀ c ∈ t, isEscapedControl c = false
  run : longestRun '\'' t ≤ if form.isMultiline then 2 else 0
  breaks : form.isMultiline = false → '\n' ∉ t

/-- A form without escapes is chosen only for a text that it can hold. -/
theorem fits_chooseForm
    {t : Text}
    (hescapes : (chooseForm t).hasEscapes = false) :
    Fits (chooseForm t) t := by
  generalize hform : chooseForm t = form at hescapes ⊢
  simp only [chooseForm, Bool.not_eq_true, List.any_eq_false] at hform
  split at hform
  · subst hform
    cases hescapes
  split at hform
  · subst hform
    cases hescapes
  split at hform
  · next hfits =>
      subst hform
      exact ⟨hfits.1, le_of_eq hfits.2.1, fun _ => hfits.2.2⟩
  split at hform
  · subst hform
    cases hescapes
  split at hform
  · next hfits =>
      subst hform
      exact ⟨hfits.1, hfits.2, fun hsingle => absurd hsingle (by decide)⟩
  split at hform
  · subst hform
    cases hescapes
  · subst hform
    cases hescapes

/-- The inside of a written string. -/
def writtenBody (form : StringForm) (t : Text) : Text :=
  if form.hasEscapes then escapeBody form.isMultiline 0 t else t

/-- In the form that is chosen for a text, the inside spells the text. -/
theorem spells_writtenBody
    (t : Text) :
    Spells (chooseForm t) 0 (writtenBody (chooseForm t) t) t := by
  unfold writtenBody
  split
  · next hescapes => exact spells_escapeBody hescapes 0 t
  · next hescapes =>
      have hliteral := Bool.eq_false_iff.2 hescapes
      have hfits := fits_chooseForm hliteral
      refine spells_literal hliteral ?_ hfits.run
      intro c hc
      by_cases hbreak : c = '\n'
      · subst hbreak
        by_cases hmulti : (chooseForm t).isMultiline = true
        · exact Or.inr ⟨hmulti, rfl⟩
        · exact absurd hc (hfits.breaks (Bool.eq_false_iff.2 hmulti))
      · exact Or.inl (isPlainChar_of_not_control (hfits.controls c hc) hbreak)

/-! ## Reading back -/

/-- Behind an opening quote that is not tripled, a string on one line is read. -/
theorem readString?_single
    {form : StringForm}
    (hsingle : form.isMultiline = false)
    {rest : Text}
    (hrest : rest.take 2 ≠ [form.quote, form.quote]) :
    readString? (form.delimiter ++ rest) = readBody form .plain rest := by
  cases form with
  | multilineBasic => cases hsingle
  | multilineLiteral => cases hsingle
  | basic =>
      change readString? ('"' :: rest) = _
      unfold readString?
      split
      · next heq =>
          obtain ⟨-, rfl⟩ := List.cons.inj heq
          exact absurd rfl hrest
      · next heq => cases heq
      · next heq =>
          obtain ⟨-, rfl⟩ := List.cons.inj heq
          rfl
      · next heq => cases heq
      · next hother _ => exact absurd rfl (hother rest)
  | literal =>
      change readString? ('\'' :: rest) = _
      unfold readString?
      split
      · next heq => cases heq
      · next heq =>
          obtain ⟨-, rfl⟩ := List.cons.inj heq
          exact absurd rfl hrest
      · next heq => cases heq
      · next heq =>
          obtain ⟨-, rfl⟩ := List.cons.inj heq
          rfl
      · next hother => exact absurd rfl (hother rest)

/-- Behind a tripled quote, a string that may run over lines is read. -/
theorem readString?_multiline
    {form : StringForm}
    (hmulti : form.isMultiline = true)
    (rest : Text) :
    readString? (form.delimiter ++ rest) = readBody form .plain (skipNewline rest) := by
  cases form with
  | basic => cases hmulti
  | literal => cases hmulti
  | multilineBasic => rfl
  | multilineLiteral => rfl

namespace Spells

variable {form : StringForm} {quotes : Nat} {written t after : Text}

/-- On one line the opening quote of a spelling is not followed by two more. -/
theorem take_ne_of_single
    (h : Spells form quotes written t)
    (hsingle : form.isMultiline = false)
    (hafter : after.head? ≠ some form.quote) :
    (written ++ (form.delimiter ++ after)).take 2 ≠ [form.quote, form.quote] := by
  intro htake
  cases h with
  | nil =>
      cases after with
      | nil => simp [StringForm.delimiter, hsingle] at htake
      | cons d after => simp_all [StringForm.delimiter]
  | quote hmulti hfew htail => simp [hmulti] at hsingle
  | unit hunit htail =>
      obtain ⟨d, others, rfl, hne, -, -⟩ := hunit.starts
      simp [hne] at htake

/-- A text without line breaks is spelled without one at the beginning. -/
theorem skipNewline_eq
    (h : Spells form quotes written t)
    (hbreak : '\n' ∉ t)
    (hmulti : form.isMultiline = true) :
    skipNewline (written ++ (form.delimiter ++ after)) = written ++ (form.delimiter ++ after) := by
  have hstart :
      ∃ d others, written ++ (form.delimiter ++ after) = d :: others ∧ d ≠ '\n' ∧ d ≠ '\r' := by
    have hquote : form.quote ≠ '\n' ∧ form.quote ≠ '\r' := by
      cases form <;> decide
    cases h with
    | nil => exact ⟨form.quote, _, by simp [StringForm.delimiter, hmulti]; rfl, hquote⟩
    | quote => exact ⟨form.quote, _, rfl, hquote⟩
    | unit hunit htail =>
        obtain ⟨d, others, rfl, -, hreturn, hd⟩ := hunit.starts
        refine ⟨d, _, rfl, ?_, hreturn⟩
        rintro rfl
        exact hbreak (by rw [hd rfl]; exact List.mem_cons_self)
  obtain ⟨d, others, heq, hd, hreturn⟩ := hstart
  rw [heq]
  unfold skipNewline
  split
  · next h => exact absurd (List.cons.inj h).1 hd
  · next h => exact absurd (List.cons.inj h).1 hreturn
  · rfl

end Spells

theorem writeString_eq
    (t : Text) :
    writeString t =
      (chooseForm t).delimiter ++
        ((if (chooseForm t).isMultiline ∧ '\n' ∈ t then ['\n'] else []) ++
          (writtenBody (chooseForm t) t ++ (chooseForm t).delimiter)) := by
  simp only [writeString, writeAs, writtenBody, List.append_assoc]

/-- What is written for a text is read as that text, and what follows is left. -/
theorem readString?_writeString
    (t : Text) {after : Text}
    (hafter : after.head? ≠ some (chooseForm t).quote) :
    readString? (writeString t ++ after) = some (t, after) := by
  have hspells := spells_writtenBody t
  have hread := hspells.readBody_eq hafter
  rw [writeString_eq]
  simp only [List.append_assoc]
  by_cases hmulti : (chooseForm t).isMultiline = true
  · rw [readString?_multiline hmulti]
    split
    · exact hread
    · next hbreak =>
        have hline : '\n' ∉ t := fun hmem => hbreak ⟨hmulti, hmem⟩
        rw [List.nil_append, hspells.skipNewline_eq hline hmulti]
        exact hread
  · have hsingle := Bool.eq_false_iff.2 hmulti
    rw [if_neg (fun h => hmulti h.1), List.nil_append]
    rw [readString?_single hsingle (hspells.take_ne_of_single hsingle hafter)]
    exact hread

/-- In the basic form a text stands on one line between double quotes. -/
theorem writeAs_basic
    (t : Text) :
    writeAs .basic t = '"' :: (escapeBody false 0 t ++ StringForm.delimiter .basic) := by
  simp [writeAs, StringForm.delimiter, StringForm.isMultiline, StringForm.hasEscapes,
    StringForm.quote]

/-- In the basic form every text is read back. -/
theorem readString?_writeAs_basic
    (t : Text) {after : Text}
    (hafter : after.head? ≠ some '"') :
    readString? (writeAs .basic t ++ after) = some (t, after) := by
  have hspells : Spells .basic 0 (escapeBody false 0 t) t := spells_escapeBody rfl 0 t
  have hopen := readString?_single rfl (hspells.take_ne_of_single rfl hafter)
  rw [writeAs_basic, List.cons_append, List.append_assoc]
  exact hopen.trans (hspells.readBody_eq hafter)

/-- A written string begins with the quote of its form. -/
theorem writeString_head
    (t : Text) :
    ∃ rest, writeString t = (chooseForm t).quote :: rest := by
  rw [writeString_eq]
  cases chooseForm t with
  | basic => exact ⟨_, rfl⟩
  | literal => exact ⟨_, rfl⟩
  | multilineBasic => exact ⟨_, rfl⟩
  | multilineLiteral => exact ⟨_, rfl⟩

end Toml
end TeachingEditor
