import TeachingEditor.Language.Lexer
import TeachingEditor.Text.Quoted

/-!
# Highlighted markup

**Input.**  Tokens and a colour theme.

**Format.**  Each token becomes one `span` element whose style names the colour of
its kind.  Inside the element the five characters that mean something in markup
are written as entities.

**Results.**  `render` writes the elements.  `decode?` splits a text into such
elements again and gives, for each of them, the colour and the characters of the
token; nothing of a token's text can end its element early, since an escaped text
holds no angle bracket.
-/

namespace TeachingEditor

/-- A set of colours. -/
inductive Theme where
  | dark
  | light
  deriving DecidableEq, Repr

namespace Theme

/-- The written name of a theme. -/
def name : Theme → Text
  | dark => "dark".toList
  | light => "light".toList

/-- The theme with a name; names are compared exactly. -/
def ofName? (t : Text) : Option Theme :=
  if t = "dark".toList then some dark
  else if t = "light".toList then some light
  else none

theorem ofName?_name (theme : Theme) : ofName? theme.name = some theme := by
  cases theme <;> decide

/-- What is said of a name that no theme has. -/
def unknownMessage (t : Text) : Text :=
  "unknown theme ".toList ++ Text.quoted t ++ " (expected \"dark\" or \"light\")".toList

/-- The colour of a kind of token. -/
def color : Theme → TokenKind → Text
  | dark, .keyword => "#C586C0".toList
  | dark, .builtinFunction => "#DCDCAA".toList
  | dark, .string => "#CE9178".toList
  | dark, .comment => "#6A9955".toList
  | dark, .number => "#B5CEA8".toList
  | dark, .operator => "#D4D4D4".toList
  | dark, .identifier => "#9CDCFE".toList
  | dark, .text => "#D4D4D4".toList
  | light, .keyword => "#AF00DB".toList
  | light, .builtinFunction => "#795E26".toList
  | light, .string => "#A31515".toList
  | light, .comment => "#008000".toList
  | light, .number => "#098658".toList
  | light, .operator => "#000000".toList
  | light, .identifier => "#001080".toList
  | light, .text => "#000000".toList

end Theme

namespace Markup

/-- The name of the entity that stands for a character, if it needs one. -/
def entity? (c : Char) : Option Text :=
  if c = '&' then some "amp".toList
  else if c = '<' then some "lt".toList
  else if c = '>' then some "gt".toList
  else if c = '"' then some "quot".toList
  else if c = '\'' then some "#039".toList
  else none

/-- One character as it stands in markup. -/
def escapeChar (c : Char) : Text :=
  match entity? c with
  | some name => '&' :: name ++ [';']
  | none => [c]

/-- A text as it stands in markup. -/
def escape : Text → Text
  | [] => []
  | c :: rest => escapeChar c ++ escape rest

/-- The beginning of an element, up to the colour. -/
def opening : Text :=
  "<span style=\"color: ".toList

/-- What stands between the colour and the token. -/
def afterColor : Text :=
  "\">".toList

/-- The end of an element. -/
def closing : Text :=
  "</span>".toList

/-- One element. -/
def element (color body : Text) : Text :=
  opening ++ color ++ afterColor ++ escape body ++ closing

/-- The elements of classified texts. -/
def render (theme : Theme) : List (TokenKind × Text) → Text
  | [] => []
  | (kind, value) :: rest => element (theme.color kind) value ++ render theme rest

/-- The elements of tokens. -/
def renderTokens (theme : Theme) (tokens : List Token) : Text :=
  render theme (tokens.map fun t => (t.kind, t.value))

/-- Split a source text into tokens and render them. -/
def highlight (v : Vocabulary) (theme : Theme) (source : Text) : Text :=
  renderTokens theme (tokenize v source)

/-- What follows a text that stands at the beginning of another one. -/
def strip? : Text → Text → Option Text
  | [], t => some t
  | _ :: _, [] => none
  | c :: expected, d :: t => if c = d then strip? expected t else none

/-- The character that an entity name stands for. -/
def entityChar? (name : Text) : Option Char :=
  ['&', '<', '>', '"', '\''].find? fun c => entity? c = some name

/--
Undo the escaping of a text.  The first argument is the name of the entity that is
being read, reversed, if there is one.
-/
def unescapeFrom? : Option Text → Text → Option Text
  | none, [] => some []
  | some _, [] => none
  | none, c :: rest =>
      if c = '&' then
        unescapeFrom? (some []) rest
      else
        (unescapeFrom? none rest).map (c :: ·)
  | some name, c :: rest =>
      if c = ';' then
        match entityChar? name.reverse with
        | some d => (unescapeFrom? none rest).map (d :: ·)
        | none => none
      else
        unescapeFrom? (some (c :: name)) rest

/-- Undo the escaping of a text; an ampersand that begins no entity is refused. -/
def unescape? (t : Text) : Option Text :=
  unescapeFrom? none t

/-- Read one element: its colour, its text, and what follows it. -/
def readElement? (t : Text) : Option (Text × Text × Text) := do
  let t ← strip? opening t
  let color := t.takeWhile (· ≠ '"')
  let t ← strip? afterColor (t.dropWhile (· ≠ '"'))
  let body ← unescape? (t.takeWhile (· ≠ '<'))
  let rest ← strip? closing (t.dropWhile (· ≠ '<'))
  return (color, body, rest)

/-- Read at most a number of elements, which must make up the whole text. -/
def decodeUpTo? : Nat → Text → Option (List (Text × Text))
  | _, [] => some []
  | 0, _ :: _ => none
  | n + 1, c :: t => do
      let (color, body, rest) ← readElement? (c :: t)
      let others ← decodeUpTo? n rest
      return (color, body) :: others

/-- The colours and texts of the elements that make up a text. -/
def decode? (t : Text) : Option (List (Text × Text)) :=
  decodeUpTo? t.length t

end Markup
end TeachingEditor
