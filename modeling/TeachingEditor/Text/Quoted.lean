import TeachingEditor.Text
import TeachingEditor.Text.HiddenTable

/-!
# Quoted texts

A text between double quotes, on one line and with every character visible.

**Format.**  The quote and the backslash are written behind a backslash, as are
NUL, tab, line feed and carriage return by their letters.  Every other hidden
character is written by its number, `\u` and lower-case hexadecimal digits in
braces.  All else stands for itself.

**Results.**  `quoted` writes a text, and `unquoted?` reads the text behind an
opening quote and gives it with what follows the closing one.
-/

namespace TeachingEditor
namespace Text

/-- The letter that stands for a character behind a backslash, if it has one. -/
def escapeLetter? (c : Char) : Option Char :=
  if c = '\x00' then some '0'
  else if c = '\t' then some 't'
  else if c = '\n' then some 'n'
  else if c = '\r' then some 'r'
  else if c = '"' then some '"'
  else if c = '\\' then some '\\'
  else none

/-- The written form of one character. -/
def quotedChar (c : Char) : Text :=
  match escapeLetter? c with
  | some letter => ['\\', letter]
  | none =>
      if isHidden c then
        ['\\', 'u', '{'] ++ Nat.toDigits 16 c.toNat ++ ['}']
      else
        [c]

/-- The written form of a text, without the quotes around it. -/
def quotedBody : Text → Text
  | [] => []
  | c :: rest => quotedChar c ++ quotedBody rest

/-- The written form of a text. -/
def quoted (t : Text) : Text :=
  '"' :: quotedBody t ++ ['"']

/-- The character that a letter behind a backslash stands for. -/
def escapedChar? (letter : Char) : Option Char :=
  if letter = '0' then some '\x00'
  else if letter = 't' then some '\t'
  else if letter = 'n' then some '\n'
  else if letter = 'r' then some '\r'
  else if letter = '"' then some '"'
  else if letter = '\\' then some '\\'
  else none

/-- The value of a hexadecimal digit. -/
def hexDigit? (c : Char) : Option Nat :=
  if '0' ≤ c ∧ c ≤ '9' then some (c.toNat - '0'.toNat)
  else if 'a' ≤ c ∧ c ≤ 'f' then some (c.toNat - 'a'.toNat + 10)
  else if 'A' ≤ c ∧ c ≤ 'F' then some (c.toNat - 'A'.toNat + 10)
  else none

/-- What has been read of a quoted text: nothing special, a backslash, or part of a number. -/
inductive QuotedState where
  | plain
  | backslash
  | brace
  | number (value : Nat)

/-- Read up to the closing quote. -/
def unquoteFrom? : QuotedState → Text → Option (Text × Text)
  | _, [] => none
  | .plain, c :: rest =>
      if c = '"' then
        some ([], rest)
      else if c = '\\' then
        unquoteFrom? .backslash rest
      else
        (unquoteFrom? .plain rest).map fun (t, after) => (c :: t, after)
  | .backslash, c :: rest =>
      if c = 'u' then
        unquoteFrom? .brace rest
      else
        match escapedChar? c with
        | some d => (unquoteFrom? .plain rest).map fun (t, after) => (d :: t, after)
        | none => none
  | .brace, c :: rest =>
      if c = '{' then unquoteFrom? (.number 0) rest else none
  | .number value, c :: rest =>
      if c = '}' then
        (unquoteFrom? .plain rest).map fun (t, after) => (Char.ofNat value :: t, after)
      else
        match hexDigit? c with
        | some d => unquoteFrom? (.number (16 * value + d)) rest
        | none => none

/-- Read a quoted text and give it with what follows. -/
def unquoted? : Text → Option (Text × Text)
  | [] => none
  | c :: rest => if c = '"' then unquoteFrom? .plain rest else none

end Text
end TeachingEditor
