import TeachingEditor.Toml.Scalar
import TeachingEditor.Proofs.Text

/-!
# Written numbers are read back

The decimal digits of a number, written without sign, are read as that number, and
behind a minus sign as the negative of it.

**Algorithm.**  Dates, times and integers to other bases are tried before decimal
integers.  All of them need a character that is no digit at a place where the digits
of a number go on or end, so none of them is found (`expect?_digits`).

**Results.**  `readScalar?_ofNat`, `readScalar?_negative`: the digits of every number are
read as an integer of just that value.
-/

namespace TeachingEditor
namespace Toml

/-- Digits, and nothing else. -/
def AllDigits (t : Text) : Prop :=
  ∀ c ∈ t, c.isDigit = true

theorem allDigits_ofNat
    (n : Nat) :
    AllDigits (Text.ofNat n) := by
  intro c hc
  exact Nat.isDigit_of_mem_toDigits (by decide) (by decide) hc

theorem ofNat_ne_nil
    (n : Nat) :
    Text.ofNat n ≠ [] :=
  Nat.toDigits_ne_nil

/-! ## What digits are not -/

/-- Where a character that is no digit is expected, digits do not have it. -/
theorem expect?_digits
    {sign : Char} {t : Text}
    (hsign : sign.isDigit = false)
    (ht : AllDigits t) :
    expect? sign t = none := by
  cases t with
  | nil => rfl
  | cons d t =>
      have hne : sign ≠ d := by
        rintro rfl
        rw [ht sign List.mem_cons_self] at hsign
        cases hsign
      simp [expect?, hne]

/-- What follows digits of a fixed number are digits. -/
theorem allDigits_of_readFixed?
    {count value : Nat} {t rest : Text}
    (ht : AllDigits t)
    (hread : readFixed? count t = some (value, rest)) :
    AllDigits rest := by
  unfold readFixed? at hread
  simp only at hread
  split at hread
  · cases hread
    intro c hc
    exact ht c (List.mem_of_mem_drop hc)
  · cases hread

theorem readDate?_digits
    {t : Text}
    (ht : AllDigits t) :
    readDate? t = none := by
  unfold readDate?
  cases hyear : readFixed? 4 t with
  | none => rfl
  | some year =>
      have hdash : expect? '-' year.2 = none :=
        expect?_digits rfl (allDigits_of_readFixed? ht hyear)
      simp [hdash]

theorem readTime?_digits
    {t : Text}
    (ht : AllDigits t) :
    readTime? t = none := by
  unfold readTime?
  cases hhour : readFixed? 2 t with
  | none => rfl
  | some hour =>
      have hcolon : expect? ':' hour.2 = none :=
        expect?_digits rfl (allDigits_of_readFixed? ht hhour)
      simp [hcolon]

/-! ## The value of digits -/

theorem isGroupedFrom_digits
    {t : Text}
    (ht : AllDigits t)
    (afterDigit : Bool)
    (hsome : t ≠ [] ∨ afterDigit = true) :
    isGroupedFrom Char.isDigit afterDigit t = true := by
  induction t generalizing afterDigit with
  | nil => simpa [isGroupedFrom] using hsome
  | cons c t ih =>
      have hc : c.isDigit = true := ht c List.mem_cons_self
      have htail : AllDigits t := fun d hd => ht d (List.mem_cons_of_mem c hd)
      simp only [isGroupedFrom, hc, if_true]
      exact ih htail true (Or.inr rfl)

theorem hexDigit?_of_isDigit
    {c : Char}
    (hc : c.isDigit = true) :
    Text.hexDigit? c = some (c.toNat - '0'.toNat) := by
  have hrange : '0' ≤ c ∧ c ≤ '9' := by
    simpa [Char.isDigit, Char.le_def] using hc
  simp [Text.hexDigit?, hrange]

theorem digitsValue_ofNat
    (n : Nat) :
    digitsValue 10 (Text.ofNat n) = n := by
  have hstep :
      digitsValue 10 (Text.ofNat n) = Nat.ofDigitChars 10 (Text.ofNat n) 0 := by
    unfold digitsValue
    rw [Nat.ofDigitChars_eq_foldl]
    refine List.foldl_ext _ _ 0 ?_
    intro value c hc
    rw [hexDigit?_of_isDigit (allDigits_ofNat n c hc)]
  rw [hstep]
  exact Nat.ofDigitChars_ten_toDigits

/-- Only the number zero is written with a zero first. -/
theorem eq_zero_of_ofNat_head
    {n : Nat}
    (hhead : (Text.ofNat n).head? = some '0') :
    n = 0 := by
  induction n using Nat.strongRecOn with
  | ind n ih =>
      unfold Text.ofNat at hhead
      by_cases hsmall : n < 10
      · have hdigit : ∀ d < 10, (Nat.digitChar d) = '0' → d = 0 := by decide
        rw [Nat.toDigits_of_lt_base hsmall] at hhead
        exact hdigit n hsmall (Option.some.inj hhead)
      · have hlarge : 10 ≤ n := Nat.not_lt.1 hsmall
        rw [Nat.toDigits_of_base_le (by decide) hlarge,
          List.head?_append_of_ne_nil _ Nat.toDigits_ne_nil] at hhead
        have hzero := ih (n / 10) (Nat.div_lt_self (by omega) (by decide)) hhead
        omega

theorem ofNat_ne_zero_cons
    (n : Nat) (c : Char) (rest : Text) :
    Text.ofNat n ≠ '0' :: c :: rest := by
  intro h
  have hzero : n = 0 := eq_zero_of_ofNat_head (by rw [h]; rfl)
  subst hzero
  cases h

theorem readDecimal?_ofNat
    (n : Nat) :
    readDecimal? (Text.ofNat n) = some n := by
  have hgrouped : isGrouped Char.isDigit (Text.ofNat n) = true :=
    isGroupedFrom_digits (allDigits_ofNat n) false (Or.inl (ofNat_ne_nil n))
  have hleading : (Text.ofNat n).head? ≠ some '0' ∨ (Text.ofNat n).length = 1 := by
    by_cases hhead : (Text.ofNat n).head? = some '0'
    · have hzero := eq_zero_of_ofNat_head hhead
      subst hzero
      exact Or.inr rfl
    · exact Or.inl hhead
  unfold readDecimal?
  rw [hgrouped, digitsValue_ofNat]
  simp [hleading]

theorem splitSign_digits
    {t : Text}
    (ht : AllDigits t) :
    splitSign t = (false, t) := by
  unfold splitSign
  split
  · exact absurd (ht '-' List.mem_cons_self) (by decide)
  · exact absurd (ht '+' List.mem_cons_self) (by decide)
  · rfl

theorem readInteger?_ofNat
    (n : Nat) :
    readInteger? (Text.ofNat n) = some (n : Int) := by
  unfold readInteger?
  split
  · next h => exact absurd h (ofNat_ne_zero_cons n _ _)
  · next h => exact absurd h (ofNat_ne_zero_cons n _ _)
  · next h => exact absurd h (ofNat_ne_zero_cons n _ _)
  · rw [splitSign_digits (allDigits_ofNat n)]
    simp [readDecimal?_ofNat]

/-! ## Values without quotes -/

/-- The digits of a number are read as that number. -/
theorem readScalar?_ofNat
    (n : Nat) :
    readScalar? (Text.ofNat n) = some (.integer n) := by
  have hdigits := allDigits_ofNat n
  have htrue : Text.ofNat n ≠ "true".toList := by
    intro h
    exact absurd (hdigits 't' (by rw [h]; decide)) (by decide)
  have hfalse : Text.ofNat n ≠ "false".toList := by
    intro h
    exact absurd (hdigits 'f' (by rw [h]; decide)) (by decide)
  have hdate : isDate (Text.ofNat n) = false := by
    simp [isDate, readDate?_digits hdigits]
  have htime : isTime (Text.ofNat n) = false := by
    simp [isTime, readTime?_digits hdigits]
  have hmoment : isMoment (Text.ofNat n) = false := by
    simp [isMoment, readDate?_digits hdigits]
  unfold readScalar?
  rw [if_neg htrue, if_neg hfalse, hdate, htime, hmoment, readInteger?_ofNat]
  rfl

/-! ## Behind a sign -/

/-- No number of a fixed length begins with a sign. -/
theorem readFixed?_minus
    {count : Nat}
    (hcount : count ≠ 0)
    (t : Text) :
    readFixed? count ('-' :: t) = none := by
  obtain ⟨count, rfl⟩ := Nat.exists_eq_succ_of_ne_zero hcount
  simp [readFixed?, Char.isDigit]

theorem readInteger?_negative
    (n : Nat) :
    readInteger? ('-' :: Text.ofNat n) = some (-(n : Int)) := by
  simp [readInteger?, splitSign, readDecimal?_ofNat]

/-- The digits of a number behind a sign are read as the negative of that number. -/
theorem readScalar?_negative
    (n : Nat) :
    readScalar? ('-' :: Text.ofNat n) = some (.integer (-(n : Int))) := by
  have hdate : readDate? ('-' :: Text.ofNat n) = none := by
    simp [readDate?, readFixed?_minus]
  have htime : readTime? ('-' :: Text.ofNat n) = none := by
    simp [readTime?, readFixed?_minus]
  unfold readScalar?
  rw [if_neg (by simp), if_neg (by simp)]
  simp [isDate, isTime, isMoment, hdate, htime, readInteger?_negative]

end Toml
end TeachingEditor
