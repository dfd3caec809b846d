import TeachingEditor.Text.Blank
import TeachingEditor.Text.Utf8
import Mathlib

/-!
# Runs of characters and byte offsets

Readers in this library take the longest run of characters with some property.
This module says where such a run stops, and connects the offsets of a text with
the bytes of its UTF-8 form.

**Results.**
* `takeWhile_run`, `dropWhile_run`: a run that is followed by no character of its
  kind is taken off exactly.
* `trim_eq_nil_iff`: which texts are nothing but the blanks at their ends.
* `slice?_size`: the part of a text between two of its offsets, found again from
  their numbers alone.
* `encode_slice`: the bytes between the two offsets of a part are the bytes of
  that part.
-/

namespace TeachingEditor
namespace Text

section Runs

variable {p : Char → Bool}

/-- No character of a kind stands at the beginning of a text. -/
def StopsAt (p : Char → Bool) (next : Option Char) : Prop :=
  ∀ d ∈ next, p d = false

theorem takeWhile_eq_nil_of_stopsAt
    {rest : Text}
    (hstop : StopsAt p rest.head?) :
    rest.takeWhile p = [] := by
  cases rest with
  | nil => rfl
  | cons d rest =>
      have hd : p d = false := hstop d rfl
      simp [hd]

theorem dropWhile_eq_self_of_stopsAt
    {rest : Text}
    (hstop : StopsAt p rest.head?) :
    rest.dropWhile p = rest := by
  cases rest with
  | nil => rfl
  | cons d rest =>
      have hd : p d = false := hstop d rfl
      simp [hd]

/-- A run that stops is the longest one. -/
theorem takeWhile_run
    {run rest : Text}
    (hrun : ∀ c ∈ run, p c)
    (hstop : StopsAt p rest.head?) :
    (run ++ rest).takeWhile p = run := by
  rw [List.takeWhile_append_of_pos hrun]
  rw [takeWhile_eq_nil_of_stopsAt hstop]
  exact List.append_nil run

/-- What follows a run that stops. -/
theorem dropWhile_run
    {run rest : Text}
    (hrun : ∀ c ∈ run, p c)
    (hstop : StopsAt p rest.head?) :
    (run ++ rest).dropWhile p = rest := by
  rw [List.dropWhile_append_of_pos hrun]
  exact dropWhile_eq_self_of_stopsAt hstop

/-- The longest run stops. -/
theorem stopsAt_dropWhile
    (p : Char → Bool) (t : Text) :
    StopsAt p (t.dropWhile p).head? := by
  intro d hd
  have h := List.head?_dropWhile_not p t
  rw [Option.mem_def.1 hd] at h
  exact h

/-- A character of a class is none of the characters outside it. -/
theorem ne_of_class
    {c d : Char}
    (hc : p c = true)
    (hd : p d = false) :
    c ≠ d := by
  rintro rfl
  rw [hd] at hc
  cases hc

variable {P : Char → Prop} (hclass : ∀ c, p c = true ↔ P c)
include hclass

/-- The longest run of a class holds that class, and the character behind it does not. -/
theorem longest_run
    (t : Text) :
    (∀ c ∈ t.takeWhile p, P c) ∧ ∀ d ∈ (t.dropWhile p).head?, ¬ P d := by
  constructor
  · intro c hc
    exact (hclass c).1 (List.mem_takeWhile_imp hc)
  · intro d hd
    rw [← hclass d]
    simp [stopsAt_dropWhile p t d hd]

/-- A run of a class in front of another character is the longest one. -/
theorem takeWhile_dropWhile_run
    {run after : Text}
    (hrun : ∀ c ∈ run, P c)
    (hnext : ∀ d ∈ after.head?, ¬ P d) :
    (run ++ after).takeWhile p = run ∧ (run ++ after).dropWhile p = after := by
  have hparts : ∀ c ∈ run, p c = true := by
    intro c hc
    exact (hclass c).2 (hrun c hc)
  have hstop : StopsAt p after.head? := by
    intro d hd
    exact Bool.eq_false_iff.2 (mt (hclass d).1 (hnext d hd))
  exact ⟨takeWhile_run hparts hstop, dropWhile_run hparts hstop⟩

end Runs

/-- A run at the end of a text is a part of the longest one. -/
theorem suffix_rtakeWhile
    {p : Char → Bool} {run t : Text}
    (hsuffix : run <:+ t)
    (hrun : ∀ c ∈ run, p c) :
    run <:+ t.rtakeWhile p := by
  obtain ⟨lead, rfl⟩ := hsuffix
  have hreverse : ∀ c ∈ run.reverse, p c := by
    intro c hc
    exact hrun c (List.mem_reverse.1 hc)
  rw [List.rtakeWhile, List.reverse_append, List.takeWhile_append_of_pos hreverse]
  rw [List.reverse_append, List.reverse_reverse]
  exact List.suffix_append _ run

/-- To occur in a text is to stand somewhere in it. -/
theorem occursIn_iff
    {needle t : Text} :
    occursIn needle t = true ↔ needle <:+: t := by
  induction t with
  | nil => simp [occursIn]
  | cons c rest ih =>
      rw [occursIn, Bool.or_eq_true, List.isPrefixOf_iff_prefix, ih, List.infix_cons_iff]

/-! ## Blanks -/

theorem trim_eq
    (t : Text) :
    trim t = (t.dropWhile isBlank).rdropWhile isBlank :=
  rfl

/-- Only blanks are nothing without the blanks around it. -/
theorem trim_eq_nil_iff
    {t : Text} :
    trim t = [] ↔ ∀ c ∈ t, isBlank c = true := by
  rw [trim_eq, List.rdropWhile_eq_nil_iff]
  constructor
  · intro hblank
    have hinner : t.dropWhile isBlank = [] := by
      by_contra hne
      obtain ⟨c, rest, hcons⟩ := List.exists_cons_of_ne_nil hne
      have hstop := stopsAt_dropWhile isBlank t
      rw [hcons] at hstop hblank
      exact ne_of_class (hblank c List.mem_cons_self) (hstop c rfl) rfl
    exact List.dropWhile_eq_nil_iff.1 hinner
  · intro hblank c hc
    exact hblank c ((List.dropWhile_suffix isBlank).subset hc)

/-! ## Parts of a text -/

/-- The character that starts at an offset; nothing at the end and inside a character. -/
def charAt? (t : Text) (offset : Nat) : Option Char :=
  (cut? t offset).bind fun (_, after) => after.head?

/-- Whether an offset lies between two characters, before the first or behind the last. -/
def IsBoundary (t : Text) (offset : Nat) : Prop :=
  ∃ before after, cut? t offset = some (before, after)

/-- The part of a text between two offsets; nothing unless both lie on boundaries. -/
def slice? (t : Text) (start stop : Nat) : Option Text :=
  (cut? t stop).bind fun (upTo, _) => (cut? upTo start).map fun (_, part) => part

theorem charAt?_size
    (before after : Text) :
    charAt? (before ++ after) (size before) = after.head? := by
  simp [charAt?]

theorem isBoundary_size
    (before after : Text) :
    IsBoundary (before ++ after) (size before) :=
  ⟨before, after, cut?_size_append before after⟩

theorem slice?_size
    (before part after : Text) :
    slice? (before ++ part ++ after) (size before) (size before + size part) = some part := by
  have hstop :
      cut? (before ++ part ++ after) (size before + size part) =
        some (before ++ part, after) := by
    rw [← size_append]
    exact cut?_size_append (before ++ part) after
  unfold slice?
  rw [hstop]
  simp

/-! ## Bytes -/

theorem encode_append
    (s t : Text) :
    Utf8.encode (s ++ t) = Utf8.encode s ++ Utf8.encode t := by
  induction s with
  | nil => rfl
  | cons c s ih => simp [Utf8.encode, ih]

theorem encodeChar_length
    (c : Char) :
    (Utf8.encodeChar c).length = c.utf8Size := by
  have hsize :
      c.utf8Size =
        if c.toNat < 0x80 then 1
        else if c.toNat < 0x800 then 2
        else if c.toNat < 0x10000 then 3
        else 4 := by
    simp only [Char.utf8Size, UInt32.le_iff_toNat_le, Nat.lt_iff_le_pred (Nat.succ_pos _)]
    rfl
  rw [hsize]
  simp only [Utf8.encodeChar]
  by_cases hone : c.toNat < 0x80
  · simp [hone]
  · by_cases htwo : c.toNat < 0x800
    · simp [hone, htwo]
    · by_cases hthree : c.toNat < 0x10000
      · simp [hone, htwo, hthree]
      · simp [hone, htwo, hthree]

/-- The size of a text is the number of its bytes. -/
theorem encode_length
    (t : Text) :
    (Utf8.encode t).length = size t := by
  induction t with
  | nil => rfl
  | cons c t ih => simp [Utf8.encode, encodeChar_length, ih]

/-- The bytes of a part of a text stand between its offsets. -/
theorem encode_slice
    (before part after : Text) :
    ((Utf8.encode (before ++ part ++ after)).drop (size before)).take (size part) =
      Utf8.encode part := by
  rw [List.append_assoc, encode_append, encode_append]
  rw [← encode_length before, ← encode_length part]
  simp

end Text
end TeachingEditor
