import TeachingEditor.Language.Vocabulary

/-!
# The word at a cursor

**Input.**  A text and a cursor, which is a byte offset into it.

**Algorithm.**  The characters before the cursor are read backwards as long as
they can continue a word; of this run, everything before the first letter or
underscore is left out, since digits and dashes may continue a word but not begin
one.

**Results.**  `wordAt` gives the word that ends at the cursor, or says why the
cursor is no place in the text.  `CursorWord.replaceIn?` puts another text in its
place.
-/

namespace TeachingEditor

/-- Why an offset is no place in a text. -/
inductive CursorError where
  | outOfBounds (cursor size : Nat)
  | notCharBoundary (cursor : Nat)
  deriving DecidableEq, Repr

/-- The wording of a cursor error. -/
def CursorError.message : CursorError → Text
  | .outOfBounds cursor size =>
      "cursor ".toList ++ Text.ofNat cursor ++ " is past the end of the text (length ".toList ++
        Text.ofNat size ++ ")".toList
  | .notCharBoundary cursor =>
      "cursor ".toList ++ Text.ofNat cursor ++ " is not on a character boundary".toList

/-- The texts before and after a cursor. -/
def splitAtCursor (t : Text) (cursor : Nat) : Except CursorError (Text × Text) :=
  if Text.size t < cursor then
    .error (.outOfBounds cursor (Text.size t))
  else
    match Text.cut? t cursor with
    | some parts => .ok parts
    | none => .error (.notCharBoundary cursor)

/-- The text before a cursor. -/
def textBefore (t : Text) (cursor : Nat) : Except CursorError Text :=
  (splitAtCursor t cursor).map Prod.fst

/-- Whether a character may stand in a word at the cursor; dashes may. -/
def isCursorWordPart (c : Char) : Bool :=
  isWordPart c || c = '-'

/-- A word in a text; it is empty where the cursor follows no word. -/
structure CursorWord where
  /-- The offset at which the word starts. -/
  start : Nat
  word : Text
  deriving DecidableEq, Repr

namespace CursorWord

/-- The bytes of the word. -/
def span (w : CursorWord) : Span :=
  ⟨w.start, w.start + Text.size w.word⟩

/--
Replace the bytes of the word in a text; nothing when one of its ends is no place in
the text.
-/
def replaceIn? (w : CursorWord) (t replacement : Text) : Option Text :=
  match Text.cut? t w.span.start, Text.cut? t w.span.stop with
  | some (before, _), some (_, after) => some (before ++ replacement ++ after)
  | _, _ => none

end CursorWord

/-- The longest word, possibly empty, at the end of a text. -/
def trailingWord (before : Text) : Text :=
  ((before.reverse.takeWhile isCursorWordPart).reverse).dropWhile fun c => ! isWordStart c

/-- The word that ends at a cursor. -/
def wordAt (t : Text) (cursor : Nat) : Except CursorError CursorWord :=
  (textBefore t cursor).map fun before =>
    let word := trailingWord before
    ⟨cursor - Text.size word, word⟩

end TeachingEditor
