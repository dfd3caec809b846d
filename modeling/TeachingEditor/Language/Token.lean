import TeachingEditor.Text

/-!
# Tokens

A token is a classified piece of source text together with the bytes it covers.
-/

namespace TeachingEditor

/-- What a token is. -/
inductive TokenKind where
  | keyword
  | builtinFunction
  | string
  | comment
  | number
  | operator
  | identifier
  /-- White space, and any character that no other kind begins with. -/
  | text
  deriving DecidableEq, Repr

namespace TokenKind

/-- The kinds in the order in which they are listed. -/
def all : List TokenKind :=
  [.keyword, .builtinFunction, .string, .comment, .number, .operator, .identifier, .text]

/-- The written name of a kind. -/
def name : TokenKind → Text
  | keyword => "keyword".toList
  | builtinFunction => "builtin-function".toList
  | string => "string".toList
  | comment => "comment".toList
  | number => "number".toList
  | operator => "operator".toList
  | identifier => "identifier".toList
  | text => "text".toList

/-- The kind with a name. -/
def ofName? (t : Text) : Option TokenKind :=
  all.find? fun kind => kind.name = t

/-- Reading a written name gives the kind back. -/
theorem ofName?_name (kind : TokenKind) : ofName? kind.name = some kind := by
  cases kind <;> decide

end TokenKind

/-- A range of byte offsets, the end not included. -/
structure Span where
  start : Nat
  stop : Nat
  deriving DecidableEq, Repr

namespace Span

/-- Move a range to the right. -/
def shift (distance : Nat) (s : Span) : Span :=
  ⟨s.start + distance, s.stop + distance⟩

end Span

/-- A classified piece of a source text. -/
structure Token where
  kind : TokenKind
  /-- The characters of the piece, as they stand in the source. -/
  value : Text
  span : Span
  deriving DecidableEq, Repr

namespace Token

/-- Move a token to the right. -/
def shift (distance : Nat) (t : Token) : Token :=
  { t with span := t.span.shift distance }

end Token
end TeachingEditor
