import TeachingEditor.Language.Token
import TeachingEditor.Text.WordSet

/-!
# Reserved words

**Input.**  The keywords and the builtin functions of the language, as two sets of
words in which upper and lower case differ.

**Results.**  `Vocabulary.classify` gives the kind of a word; a word in both sets
is a keyword.  `isIdentifier` is the shape that a reserved word needs to be read
as one token.
-/

namespace TeachingEditor

/-- Whether a character may begin a word. -/
def isWordStart (c : Char) : Bool :=
  c.isAlpha || c = '_'

/-- Whether a character may continue a word. -/
def isWordPart (c : Char) : Bool :=
  c.isAlphanum || c = '_'

/-- Whether a text is a letter or underscore followed by letters, digits and underscores. -/
def isIdentifier : Text → Bool
  | [] => false
  | c :: rest => isWordStart c && rest.all isWordPart

/-- The reserved words of the language. -/
structure Vocabulary where
  keywords : WordSet
  builtins : WordSet
  deriving DecidableEq

namespace Vocabulary

/-- The vocabulary of two word lists. -/
def ofLists (keywords builtins : List Text) : Vocabulary :=
  ⟨.ofList keywords, .ofList builtins⟩

/-- The kind of a word. -/
def classify (v : Vocabulary) (word : Text) : TokenKind :=
  if word ∈ v.keywords then .keyword
  else if word ∈ v.builtins then .builtinFunction
  else .identifier

/-- All reserved words, keywords first. -/
def words (v : Vocabulary) : List Text :=
  v.keywords.words ++ v.builtins.words

end Vocabulary
end TeachingEditor
