import TeachingEditor.Text
import TeachingEditor.Text.CaseTable

/-!
# Lower-casing

**Input.**  A text.

**Algorithm.**  Each character is replaced by its lower-case form.  Two of them
need care: the capital I with a dot has a form of two characters, and the capital
sigma has one form at the end of a word and another elsewhere.  A sigma ends a
word when a cased letter stands before it and none behind it, where characters
that do not matter for case are passed over on both sides.

**Results.**  `lowercase` keeps the characters read so far in reverse order,
since the form of a sigma depends on them.
-/

namespace TeachingEditor
namespace Text

/-- Whether a character has a case. -/
def isCased (c : Char) : Bool :=
  casedRanges.covers c.toNat

/-- Whether a character is passed over when the neighbours of a letter are looked at. -/
def isCaseIgnorable (c : Char) : Bool :=
  caseIgnorableRanges.covers c.toNat

/-- Whether the first character that matters for case has one. -/
def startsCased : Text → Bool
  | [] => false
  | c :: rest => if isCaseIgnorable c then startsCased rest else isCased c

/-- The lower-case form of a character, the capital sigma taken inside a word. -/
def lowercaseChar (c : Char) : Text :=
  if c = 'İ' then
    ['i', '\u0307']
  else
    [Char.ofNat (lowercaseCodePoint lowercaseRows c.toNat)]

/-- The lower-case form of a character between what precedes it, reversed, and what follows. -/
def lowercaseBetween (preceding : Text) (c : Char) (following : Text) : Text :=
  if c = 'Σ' ∧ startsCased preceding ∧ ¬ startsCased following then
    ['ς']
  else
    lowercaseChar c

/-- Lower-case a text that stands behind another one, which is given in reverse. -/
def lowercaseAfter (preceding : Text) : Text → Text
  | [] => []
  | c :: rest => lowercaseBetween preceding c rest ++ lowercaseAfter (c :: preceding) rest

/-- Lower-case a text. -/
def lowercase (t : Text) : Text :=
  lowercaseAfter [] t

end Text
end TeachingEditor
