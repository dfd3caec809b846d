import TeachingEditor.Text.Quoted

/-!
# Quoted strings of TOML

**Format.**  A string stands between double quotes, where a backslash begins an
escape, or between single quotes, where it does not.  Either kind of quote may be
tripled; the string may then run over several lines, a line break right behind the
opening quotes does not count, and one or two quotes may touch the closing ones.

**Algorithm.**  `readBody` goes through the characters once.  What it remembers
between two of them is a `Mode`: whether it is behind a backslash, inside the
number of an escape, or at a line break that is escaped together with the white
space around it.  `write` chooses the first of the four forms that can hold a text
without escapes, and a double-quoted form with escapes if there is none.

**Results.**  `readString?` gives the text of a quoted string and what follows it;
`write` gives a quoted string for every text.
-/

namespace TeachingEditor
namespace Toml

/-- The four ways to quote a string. -/
inductive StringForm where
  | basic
  | literal
  | multilineBasic
  | multilineLiteral
  deriving DecidableEq, Repr

namespace StringForm

/-- The quote of a form. -/
def quote : StringForm → Char
  | basic | multilineBasic => '"'
  | literal | multilineLiteral => '\''

/-- Whether a form may hold line breaks. -/
def isMultiline : StringForm → Bool
  | basic | literal => false
  | multilineBasic | multilineLiteral => true

/-- Whether a backslash begins an escape. -/
def hasEscapes : StringForm → Bool
  | basic | multilineBasic => true
  | literal | multilineLiteral => false

/-- The opening and closing delimiter of a form. -/
def delimiter (form : StringForm) : Text :=
  if form.isMultiline then [form.quote, form.quote, form.quote] else [form.quote]

end StringForm

/-- Whether a character may stand for itself in strings and comments: tabs and all but controls. -/
def isPlainChar (c : Char) : Bool :=
  c = '\t' || (' ' ≤ c && c ≠ '\x7f')

/-- Whether a character is white space within a line. -/
def isSpace (c : Char) : Bool :=
  c = ' ' || c = '\t'

/-- Whether a line break begins with a character that is followed by a text. -/
def startsNewline (c : Char) (rest : Text) : Bool :=
  c = '\n' || (c = '\r' && rest.head? = some '\n')

/-- The character that a letter stands for behind a backslash. -/
def escapedChar? (letter : Char) : Option Char :=
  if letter = 'b' then some '\x08'
  else if letter = 't' then some '\t'
  else if letter = 'n' then some '\n'
  else if letter = 'f' then some '\x0c'
  else if letter = 'r' then some '\r'
  else if letter = 'e' then some '\x1b'
  else if letter = '"' then some '"'
  else if letter = '\\' then some '\\'
  else none

/-- The number of digits that a letter behind a backslash asks for. -/
def codeLength? (letter : Char) : Option Nat :=
  if letter = 'x' then some 2
  else if letter = 'u' then some 4
  else if letter = 'U' then some 8
  else none

/-- The character with a number, if it is that of a Unicode scalar value. -/
def scalar? (n : Nat) : Option Char :=
  if h : n.isValidChar then some (Char.ofNatAux n h) else none

/-- What the characters read so far demand of the next one. -/
inductive Mode where
  /-- Nothing. -/
  | plain
  /-- A backslash has been read. -/
  | escape
  /-- So many digits of a number are missing, and this is its value up to here. -/
  | code (missing value : Nat)
  /-- A backslash and white space have been read, and a line break must follow. -/
  | beforeBreak
  /-- An escaped line break has been read, and white space is passed over. -/
  | afterBreak
  deriving DecidableEq

/-- Put a character in front of a text that has been read. -/
def prepend (c : Char) (result : Option (Text × Text)) : Option (Text × Text) :=
  result.map fun (t, after) => (c :: t, after)

/-- Split the text behind three closing quotes: up to two more quotes belong to the string. -/
def closeMultiline (quote : Char) (rest : Text) : Text × Text :=
  let extra := (rest.take 2).takeWhile (· = quote)
  (extra, rest.drop extra.length)

/-- Read up to the end of a string and give its text with what follows it. -/
def readBody (form : StringForm) : Mode → Text → Option (Text × Text)
  | _, [] => none
  | mode, c :: rest =>
      match mode with
      | .escape =>
          match escapedChar? c, codeLength? c with
          | some d, _ => prepend d (readBody form .plain rest)
          | none, some digits => readBody form (.code digits 0) rest
          | none, none =>
              if form.isMultiline && isSpace c then
                readBody form .beforeBreak rest
              else if form.isMultiline && startsNewline c rest then
                readBody form .afterBreak rest
              else
                none
      | .code missing value =>
          match Text.hexDigit? c with
          | none => none
          | some d =>
              if missing ≤ 1 then
                match scalar? (16 * value + d) with
                | some e => prepend e (readBody form .plain rest)
                | none => none
              else
                readBody form (.code (missing - 1) (16 * value + d)) rest
      | .beforeBreak =>
          if isSpace c then
            readBody form .beforeBreak rest
          else if startsNewline c rest then
            readBody form .afterBreak rest
          else
            none
      | .plain | .afterBreak =>
          if mode = .afterBreak && (isSpace c || startsNewline c rest) then
            readBody form .afterBreak rest
          else if c = form.quote then
            if form.isMultiline then
              if rest.take 2 = [form.quote, form.quote] then
                some (closeMultiline form.quote (rest.drop 2))
              else
                prepend c (readBody form .plain rest)
            else
              some ([], rest)
          else if c = '\\' && form.hasEscapes then
            readBody form .escape rest
          else if isPlainChar c || (form.isMultiline && startsNewline c rest) then
            prepend c (readBody form .plain rest)
          else
            none

/-- Leave out a line break at the beginning of a text. -/
def skipNewline : Text → Text
  | '\n' :: rest => rest
  | '\r' :: '\n' :: rest => rest
  | t => t

/-- Read a quoted string of any form. -/
def readString? : Text → Option (Text × Text)
  | '"' :: '"' :: '"' :: rest => readBody .multilineBasic .plain (skipNewline rest)
  | '\'' :: '\'' :: '\'' :: rest => readBody .multilineLiteral .plain (skipNewline rest)
  | '"' :: rest => readBody .basic .plain rest
  | '\'' :: rest => readBody .literal .plain rest
  | _ => none

/-- Whether a character is a control character other than tab and line feed. -/
def isEscapedControl (c : Char) : Bool :=
  (c < ' ' || c = '\x7f') && c ≠ '\t' && c ≠ '\n'

/-- The length of the longest run of a character, when some of them have been counted already. -/
def longestRunFrom (c : Char) (count : Nat) : Text → Nat
  | [] => count
  | d :: rest =>
      if d = c then
        longestRunFrom c (count + 1) rest
      else
        max count (longestRunFrom c 0 rest)

/-- The length of the longest run of a character. -/
def longestRun (c : Char) (t : Text) : Nat :=
  longestRunFrom c 0 t

/-- Whether every character of a text is a letter, digit or one of a few harmless signs. -/
def isSimple (t : Text) : Bool :=
  t.all fun c => c.isAlphanum || c ∈ ['_', '-', '.', '/', ':', ' ']

/-- The form in which a text is written. -/
def chooseForm (t : Text) : StringForm :=
  let controls := t.any isEscapedControl
  let backslash := '\\' ∈ t
  let newline := '\n' ∈ t
  if isSimple t then .basic
  else if ¬ controls ∧ ¬ backslash ∧ longestRun '"' t = 0 ∧ ¬ newline then .basic
  else if ¬ controls ∧ longestRun '\'' t = 0 ∧ ¬ newline then .literal
  else if ¬ controls ∧ ¬ backslash ∧ longestRun '"' t ≤ 2 then .multilineBasic
  else if ¬ controls ∧ longestRun '\'' t ≤ 2 then .multilineLiteral
  else if newline then .multilineBasic
  else .basic

/-- Fill up with zeros on the left to four digits. -/
def fourDigits (digits : Text) : Text :=
  List.replicate (4 - digits.length) '0' ++ digits

/-- The written form of a character where a backslash begins an escape. -/
def escapeChar (multiline : Bool) (c : Char) : Text :=
  if c = '\x08' then ['\\', 'b']
  else if c = '\t' then ['\\', 't']
  else if c = '\n' then (if multiline then ['\n'] else ['\\', 'n'])
  else if c = '\x0c' then ['\\', 'f']
  else if c = '\r' then ['\\', 'r']
  else if c = '\\' then ['\\', '\\']
  else if isEscapedControl c then
    ['\\', 'u'] ++ fourDigits ((Nat.toDigits 16 c.toNat).map Char.toUpper)
  else [c]

/--
The inside of a double-quoted string.  A quote is escaped everywhere on one line,
and over several lines when it is the third in a row; the number counts the quotes
right before the place.
-/
def escapeBody (multiline : Bool) (quotes : Nat) : Text → Text
  | [] => []
  | c :: rest =>
      if c = '"' then
        if multiline ∧ quotes < 2 then
          '"' :: escapeBody multiline (quotes + 1) rest
        else
          '\\' :: '"' :: escapeBody multiline 0 rest
      else
        escapeChar multiline c ++ escapeBody multiline 0 rest

/-- Quote a text in a form. -/
def writeAs (form : StringForm) (t : Text) : Text :=
  form.delimiter ++
    (if form.isMultiline ∧ '\n' ∈ t then ['\n'] else []) ++
    (if form.hasEscapes then escapeBody form.isMultiline 0 t else t) ++
    form.delimiter

/-- Quote a text. -/
def writeString (t : Text) : Text :=
  writeAs (chooseForm t) t

end Toml
end TeachingEditor
