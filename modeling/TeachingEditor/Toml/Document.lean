import TeachingEditor.Toml.Quoting
import TeachingEditor.Toml.Scalar
import TeachingEditor.Toml.Section

/-!
# Reading TOML documents

**Input.**  The text of a document, by version 1.1 of the format: line breaks,
comments and a last comma may stand inside arrays and inline tables alike.

**Algorithm.**  A document is read line by line; a line is blank, a header or a
setting, and only a comment may follow on it.  Arrays and inline tables are nested
at most eighty deep, and the reader of values recurses on the depth that is left.
The loops over the elements of an array, over the parts of a key and over the
lines each read at least one character in a round, so the length of the text
bounds the number of rounds.

**Results.**  `readDocument?` gives the table of the document.  It gives nothing
when the text is not a document or says two different things of one key.
-/

namespace TeachingEditor
namespace Toml

/-- The greatest depth of arrays and inline tables in each other. -/
def maxDepth : Nat := 80

/-- Leave out white space within a line. -/
def skipSpace (t : Text) : Text :=
  t.dropWhile isSpace

/--
Leave out white space, line breaks and comments; the flag says that a comment has begun.
-/
def skipFillerFrom (inComment : Bool) : Text → Text
  | [] => []
  | c :: rest =>
      if inComment && isPlainChar c then
        skipFillerFrom true rest
      else if isSpace c || startsNewline c rest then
        skipFillerFrom false rest
      else if c = '#' then
        skipFillerFrom true rest
      else
        c :: rest

/-- Leave out white space, line breaks and comments. -/
def skipFiller (t : Text) : Text :=
  skipFillerFrom false t

/-- Leave out the rest of a line, which may hold a comment, together with its line break. -/
def readLineEnd? (t : Text) : Option Text :=
  let t := match skipSpace t with
    | '#' :: rest => rest.dropWhile isPlainChar
    | t => t
  match t with
  | [] => some []
  | '\n' :: rest => some rest
  | '\r' :: '\n' :: rest => some rest
  | _ => none

/-- Whether a character may stand in a key without quotes. -/
def isBareKeyChar (c : Char) : Bool :=
  c.isAlphanum || c = '_' || c = '-'

/-- Read one part of a key. -/
def readKeyPart? : Text → Option (Text × Text)
  | [] => none
  | c :: rest =>
      if c = '"' then
        readBody .basic .plain rest
      else if c = '\'' then
        readBody .literal .plain rest
      else if isBareKeyChar c then
        some (c :: rest.takeWhile isBareKeyChar, rest.dropWhile isBareKeyChar)
      else
        none

/-- Read a key of at most so many parts, and the white space around them. -/
def readKeyUpTo? : Nat → Text → Option (List Text × Text × Text)
  | 0, _ => none
  | n + 1, t => do
      let (part, t) ← readKeyPart? (skipSpace t)
      match skipSpace t with
      | '.' :: rest =>
          let (path, key, after) ← readKeyUpTo? n rest
          return (part :: path, key, after)
      | t => return ([], part, t)

/-- Read a key: its parts before the last one, the last one, and what follows. -/
def readKey? (t : Text) : Option (List Text × Text × Text) :=
  readKeyUpTo? (t.length + 1) t

/-- Whether a character may stand in a value without quotes. -/
def isScalarChar (c : Char) : Bool :=
  c.isAlphanum || c ∈ ['_', '-', '+', '.', ':']

/-- Read a value without quotes; a date may be joined to a time by a space. -/
def readBareValue? (t : Text) : Option (Value × Text) :=
  let word := t.takeWhile isScalarChar
  match t.dropWhile isScalarChar with
  | ' ' :: c :: rest =>
      if isDate word && c.isDigit then
        (readScalar? (word ++ ' ' :: (c :: rest).takeWhile isScalarChar)).map fun v =>
          (v, (c :: rest).dropWhile isScalarChar)
      else
        (readScalar? word).map fun v => (v, ' ' :: c :: rest)
  | after => (readScalar? word).map fun v => (v, after)

/-- Read a value that is neither an array nor an inline table. -/
def readSimpleValue? : Text → Option (Value × Text)
  | [] => none
  | c :: rest =>
      if c = '"' ∨ c = '\'' then
        (readString? (c :: rest)).map fun (s, after) => (.string s, after)
      else
        readBareValue? (c :: rest)

/-- Read at most so many elements of an array up to its end. -/
def readItemsUpTo? (readValue : Text → Option (Value × Text)) :
    Nat → Text → Option (List Value × Text)
  | 0, _ => none
  | n + 1, t =>
      match skipFiller t with
      | ']' :: rest => some ([], rest)
      | t => do
          let (v, t) ← readValue t
          match skipFiller t with
          | ',' :: rest =>
              let (others, after) ← readItemsUpTo? readValue n rest
              return (v :: others, after)
          | ']' :: rest => return ([v], rest)
          | _ => none

/-- Read a key, an equals sign and a value. -/
def readSetting? (readValue : Text → Option (Value × Text)) (t : Text) :
    Option (Setting × Text) := do
  let (path, key, t) ← readKey? t
  let t ← expect? '=' t
  let (v, after) ← readValue (skipSpace t)
  return (⟨path, key, v⟩, after)

/-- Read at most so many settings of an inline table up to its end. -/
def readSettingsUpTo? (readValue : Text → Option (Value × Text)) :
    Nat → Text → Option (List Setting × Text)
  | 0, _ => none
  | n + 1, t =>
      match skipFiller t with
      | '}' :: rest => some ([], rest)
      | t => do
          let (s, t) ← readSetting? readValue t
          match skipFiller t with
          | ',' :: rest =>
              let (others, after) ← readSettingsUpTo? readValue n rest
              return (s :: others, after)
          | '}' :: rest => return ([s], rest)
          | _ => none

/-- Read a value in which arrays and inline tables are at most so deep. -/
def readValue? : Nat → Text → Option (Value × Text)
  | 0, t => readSimpleValue? t
  | depth + 1, t =>
      match t with
      | '[' :: rest => do
          let (items, after) ← readItemsUpTo? (readValue? depth) (rest.length + 1) rest
          return (.array items, after)
      | '{' :: rest => do
          let (settings, after) ← readSettingsUpTo? (readValue? depth) (rest.length + 1) rest
          let entries ← assignAll? settings []
          return (.table (sealEntries entries), after)
      | t => readSimpleValue? t

/-- Read a header behind its first bracket. -/
def readHeader? (t : Text) : Option (Header × Text) :=
  match t with
  | '[' :: rest => do
      let (path, key, t) ← readKey? rest
      let t ← expect? ']' t
      let after ← expect? ']' t
      return (⟨path, key, true⟩, after)
  | t => do
      let (path, key, t) ← readKey? t
      let after ← expect? ']' t
      return (⟨path, key, false⟩, after)

/-- Read a line: what it says, if it is not blank, and what follows it. -/
def readLine? (t : Text) : Option (Option Statement × Text) :=
  match readLineEnd? t with
  | some after => some (none, after)
  | none =>
      match skipSpace t with
      | '[' :: rest => do
          let (h, t) ← readHeader? rest
          let after ← readLineEnd? t
          return (some (.header h), after)
      | t => do
          let (s, t) ← readSetting? (readValue? maxDepth) t
          let after ← readLineEnd? t
          return (some (.setting s), after)

/-- Read at most so many lines, which must make up the whole text. -/
def readLinesUpTo? : Nat → Text → Option (List Statement)
  | _, [] => some []
  | 0, _ :: _ => none
  | n + 1, c :: rest => do
      let (statement?, after) ← readLine? (c :: rest)
      let others ← readLinesUpTo? n after
      return statement?.toList ++ others

/-- The statements of a document; a byte order mark at its beginning does not count. -/
def readStatements? (t : Text) : Option (List Statement) :=
  let t := match t with
    | '\ufeff' :: rest => rest
    | t => t
  readLinesUpTo? t.length t

/-- The table of a document. -/
def readDocument? (t : Text) : Option Table :=
  (readStatements? t).bind tableOf?

end Toml
end TeachingEditor
