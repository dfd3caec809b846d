import TeachingEditor.Text

/-!
# Sets of words

**Format.**  A set of words is kept as its members in strictly increasing order,
so that two sets with the same members are equal.  Words are compared by code
point, which is also the order of their UTF-8 bytes.

**Algorithm.**  `insertWord` walks to the place of a word and leaves the list
alone when the word is there already; `ofList` inserts the words of a list one by
one.

**Results.**  `mem_ofList` says that a set built from a list has the members of
the list, and the field `increasing` says that no word occurs twice.
-/

namespace TeachingEditor

/-- Put a word into its place in an increasing list. -/
def insertWord (w : Text) : List Text → List Text
  | [] => [w]
  | x :: rest =>
      if w < x then
        w :: x :: rest
      else if w = x then
        x :: rest
      else
        x :: insertWord w rest

@[simp] theorem mem_insertWord {v w : Text} {xs : List Text} :
    v ∈ insertWord w xs ↔ v = w ∨ v ∈ xs := by
  induction xs with
  | nil => simp [insertWord]
  | cons x xs ih =>
      simp only [insertWord]
      split
      · simp
      · split
        · next h => simp [h]
        · simp only [List.mem_cons, ih, or_left_comm]

/-- Of two different words one comes first. -/
theorem text_lt_of_not_lt {v w : Text} (hlt : ¬ v < w) (hne : v ≠ w) : w < v :=
  Std.lt_of_le_of_ne (Std.not_lt.1 hlt) (Ne.symm hne)

theorem insertWord_pairwise {w : Text} {xs : List Text}
    (h : xs.Pairwise (· < ·)) : (insertWord w xs).Pairwise (· < ·) := by
  induction xs with
  | nil => simp [insertWord]
  | cons x xs ih =>
      obtain ⟨hx, hxs⟩ := List.pairwise_cons.1 h
      simp only [insertWord]
      split
      · next hwx =>
          refine List.pairwise_cons.2 ⟨fun v hv => ?_, h⟩
          rcases List.mem_cons.1 hv with rfl | hv
          · exact hwx
          · exact List.lt_trans hwx (hx v hv)
      · next hwx =>
          split
          · exact h
          · next hne =>
              refine List.pairwise_cons.2 ⟨fun v hv => ?_, ih hxs⟩
              rcases mem_insertWord.1 hv with rfl | hv
              · exact text_lt_of_not_lt hwx hne
              · exact hx v hv

/-- A finite set of words. -/
structure WordSet where
  words : List Text
  increasing : words.Pairwise (· < ·)
  deriving DecidableEq

namespace WordSet

/-- The set without words. -/
def empty : WordSet :=
  ⟨[], .nil⟩

/-- Add a word. -/
def insert (w : Text) (s : WordSet) : WordSet :=
  ⟨insertWord w s.words, insertWord_pairwise s.increasing⟩

/-- The set of the words of a list. -/
def ofList : List Text → WordSet
  | [] => empty
  | w :: rest => insert w (ofList rest)

instance : Membership Text WordSet where
  mem s w := w ∈ s.words

instance (w : Text) (s : WordSet) : Decidable (w ∈ s) :=
  inferInstanceAs (Decidable (w ∈ s.words))

@[simp] theorem mem_insert {v w : Text} {s : WordSet} :
    v ∈ s.insert w ↔ v = w ∨ v ∈ s :=
  mem_insertWord

@[simp] theorem not_mem_empty (w : Text) : ¬ w ∈ empty :=
  List.not_mem_nil

/-- A set built from a list has the words of the list. -/
@[simp] theorem mem_ofList {w : Text} {xs : List Text} : w ∈ ofList xs ↔ w ∈ xs := by
  induction xs with
  | nil => simp [ofList]
  | cons x xs ih => simp [ofList, ih]

end WordSet
end TeachingEditor
