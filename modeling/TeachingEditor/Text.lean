/-!
# Text and byte offsets

A text is a list of Unicode scalar values.  Positions in a text are counted in
bytes of its UTF-8 form, as editors and files count them, so a position may
fall inside a character.

**Input.**  A text and a byte offset.

**Algorithm.**  `cut?` walks over whole characters and takes off their sizes
from the offset.  It stops with an answer when nothing of the offset is left,
and without one when the next character is longer than what is left.

**Results.**  `append_eq_of_cut?` says that the two parts of a cut give the text
back, `size_eq_of_cut?` that the first part has exactly the size asked for, and
`cut?_size_append` that every split into whole characters is found.
-/

namespace TeachingEditor

/-- A sequence of Unicode scalar values. -/
abbrev Text := List Char

instance : LawfulBEq Text :=
  inferInstanceAs (LawfulBEq (List Char))

namespace Text

/-- The number of bytes of the UTF-8 form. -/
def size : Text → Nat
  | [] => 0
  | c :: rest => c.utf8Size + size rest

@[simp] theorem size_nil : size [] = 0 := rfl

@[simp] theorem size_cons (c : Char) (t : Text) :
    size (c :: t) = c.utf8Size + size t := rfl

@[simp] theorem size_append (s t : Text) :
    size (s ++ t) = size s + size t := by
  induction s with
  | nil => simp
  | cons c s ih => simp [ih, Nat.add_assoc]

/-- Only the empty text has no bytes. -/
theorem size_eq_zero_iff {t : Text} : size t = 0 ↔ t = [] := by
  cases t with
  | nil => simp
  | cons c t =>
      have := c.utf8Size_pos
      simp only [size_cons, List.cons_ne_nil, iff_false]
      omega

/--
The texts before and after a byte offset; nothing when the offset lies past the
end or inside a character.
-/
def cut? : Text → Nat → Option (Text × Text)
  | t, 0 => some ([], t)
  | [], _ + 1 => none
  | c :: rest, n + 1 =>
      if c.utf8Size ≤ n + 1 then
        (cut? rest (n + 1 - c.utf8Size)).map fun (before, after) => (c :: before, after)
      else
        none

@[simp] theorem cut?_zero (t : Text) : cut? t 0 = some ([], t) := by
  cases t <;> rfl

/-- The parts of a cut are the text again. -/
theorem append_eq_of_cut? {t before after : Text} {n : Nat}
    (h : cut? t n = some (before, after)) : before ++ after = t := by
  fun_induction cut? t n generalizing before after with
  | case1 t => simp_all
  | case2 n => simp at h
  | case3 c rest n hc ih =>
      simp only [Option.map_eq_some_iff, Prod.mk.injEq, Prod.exists] at h
      obtain ⟨b, a, hcut, rfl, rfl⟩ := h
      simp [ih hcut]
  | case4 => simp at h

/-- The first part of a cut ends at the offset. -/
theorem size_eq_of_cut? {t before after : Text} {n : Nat}
    (h : cut? t n = some (before, after)) : size before = n := by
  fun_induction cut? t n generalizing before after with
  | case1 t => simp_all
  | case2 n => simp at h
  | case3 c rest n hc ih =>
      simp only [Option.map_eq_some_iff, Prod.mk.injEq, Prod.exists] at h
      obtain ⟨b, a, hcut, rfl, rfl⟩ := h
      have := ih hcut
      simp only [size_cons]
      omega
  | case4 => simp at h

/-- Every split into whole characters is the cut at its size. -/
@[simp] theorem cut?_size_append (s t : Text) : cut? (s ++ t) (size s) = some (s, t) := by
  induction s with
  | nil => simp
  | cons c s ih =>
      have hpos := c.utf8Size_pos
      obtain ⟨n, hn⟩ : ∃ n, c.utf8Size + size s = n + 1 := ⟨c.utf8Size + size s - 1, by omega⟩
      have hsub : n + 1 - c.utf8Size = size s := by omega
      have hle : c.utf8Size ≤ n + 1 := by omega
      simp [hn, cut?, hle, hsub, ih]

/-- Whether the first text occurs in the second as a block. -/
def occursIn (needle : Text) : Text → Bool
  | [] => needle.isEmpty
  | c :: rest => needle.isPrefixOf (c :: rest) || occursIn needle rest

/-- The decimal digits of a number. -/
def ofNat (n : Nat) : Text :=
  Nat.toDigits 10 n

/-- Fill up with spaces on the right to a number of characters. -/
def padRight (width : Nat) (t : Text) : Text :=
  t ++ List.replicate (width - t.length) ' '

/-- Fill up with spaces on the left to a number of characters. -/
def padLeft (width : Nat) (t : Text) : Text :=
  List.replicate (width - t.length) ' ' ++ t

end Text
end TeachingEditor
