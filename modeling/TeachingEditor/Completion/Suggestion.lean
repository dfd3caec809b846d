import TeachingEditor.Completion.Cursor
import TeachingEditor.Text.Blank
import TeachingEditor.Text.Lowercase

/-!
# Suggestions for the word being typed

**Input.**  A catalog of completion items, a text and a cursor.

**Algorithm.**  The word being typed is everything behind the last separator
before the cursor, in lower case.  An item matches when its label in lower case
begins with that word.  The matches are put in order: an item whose label is the
word first, then by the rank of their kinds, then by their labels; items that are
still equal keep the order of the catalog.

**Results.**  `suggest` gives the first ten matches, and none for an empty word.
-/

namespace TeachingEditor

/-- What a completion item stands for. -/
inductive CompletionKind where
  | keyword
  | function
  | operator
  | snippet
  deriving DecidableEq, Repr

namespace CompletionKind

/-- The kinds by rank. -/
def all : List CompletionKind :=
  [keyword, function, operator, snippet]

/-- The written name of a kind. -/
def name : CompletionKind → Text
  | keyword => "keyword".toList
  | function => "function".toList
  | operator => "operator".toList
  | snippet => "snippet".toList

/-- The place of a kind among the suggestions; lower ranks come first. -/
def rank : CompletionKind → Nat
  | keyword => 0
  | function => 1
  | operator => 2
  | snippet => 3

/-- The kind with a name. -/
def ofName? (t : Text) : Option CompletionKind :=
  all.find? fun kind => kind.name = t

theorem ofName?_name (kind : CompletionKind) : ofName? kind.name = some kind := by
  cases kind <;> decide

end CompletionKind

/-- An entry of the completion catalog. -/
structure CompletionItem where
  label : Text
  /-- The text that takes the place of the word at the cursor. -/
  insertText : Text
  detail : Text
  kind : CompletionKind
  description : Option Text
  deriving DecidableEq, Repr

/-- The greatest number of suggestions. -/
def maxSuggestions : Nat := 10

/-- Whether a character separates the words being typed. -/
def isSeparator (c : Char) : Bool :=
  Text.isBlank c || c ∈ ['(', ')', '{', '}', '[', ']', ';', ',', '.']

/-- What stands behind the last separator. -/
def lastSegment (before : Text) : Text :=
  (before.reverse.takeWhile fun c => ! isSeparator c).reverse

/-- The word being typed at the end of a text. -/
def currentWord (before : Text) : Text :=
  Text.lowercase (lastSegment before)

namespace CompletionItem

/-- Whether an item is offered for a word. -/
def isOffered (word : Text) (item : CompletionItem) : Bool :=
  word.isPrefixOf (Text.lowercase item.label)

/-- Whether the label of an item is the word. -/
def isExact (word : Text) (item : CompletionItem) : Bool :=
  Text.lowercase item.label = word

/-- Whether the first item may stand before the second one among the suggestions. -/
def ranksBefore (word : Text) (a b : CompletionItem) : Bool :=
  if a.isExact word ≠ b.isExact word then
    a.isExact word
  else if a.kind.rank ≠ b.kind.rank then
    a.kind.rank < b.kind.rank
  else
    ! (b.label < a.label)

end CompletionItem

/-- The items offered for a word, best first. -/
def suggestionsFor (items : List CompletionItem) (word : Text) : List CompletionItem :=
  if word.isEmpty then
    []
  else
    ((items.filter (·.isOffered word)).mergeSort (CompletionItem.ranksBefore word)).take
      maxSuggestions

/-- The suggestions at a cursor. -/
def suggest (items : List CompletionItem) (t : Text) (cursor : Nat) :
    Except CursorError (List CompletionItem) :=
  (textBefore t cursor).map fun before => suggestionsFor items (currentWord before)

end TeachingEditor
