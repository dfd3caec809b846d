import TeachingEditor.Text.Blank
import TeachingEditor.Text.Lowercase

/-!
# Predefined answers

**Input.**  A list of questions with answers, each with the keywords that select
it, and a query.

**Algorithm.**  A keyword matches when it occurs in the query, both in lower case.
The entries are gone through twice in their order: first only keywords with a
space, called phrases, count, and then all of them.  So a phrase wins over single
words of earlier entries.

**Results.**  `findMatch?` gives the entry with the keyword that selected it.
-/

namespace TeachingEditor

/-- A predefined question with its answer. -/
structure FaqEntry where
  question : Text
  /-- The keywords that select the entry, the most important ones first. -/
  keywords : List Text
  answer : Text
  codeExample : Option Text
  deriving DecidableEq, Repr

/-- Whether a keyword is made of more than one word. -/
def isPhrase (keyword : Text) : Bool :=
  ' ' ∈ keyword

/-- The keywords of an entry that are phrases. -/
def FaqEntry.phrases (entry : FaqEntry) : List Text :=
  entry.keywords.filter isPhrase

/-- Which round found a match. -/
inductive MatchPass where
  | phrase
  | keyword
  deriving DecidableEq, Repr

/-- The written name of a round. -/
def MatchPass.name : MatchPass → Text
  | .phrase => "phrase".toList
  | .keyword => "keyword".toList

/-- An entry that answers a query. -/
structure KnowledgeMatch where
  /-- The position of the entry in its list. -/
  index : Nat
  entry : FaqEntry
  /-- The keyword that selected the entry, as the entry writes it. -/
  keyword : Text
  pass : MatchPass
  deriving DecidableEq, Repr

/-- Whether a keyword occurs in a query that is in lower case already. -/
def keywordOccurs (loweredQuery keyword : Text) : Bool :=
  Text.occursIn (Text.lowercase keyword) loweredQuery

/-- The first entry with a matching keyword; the entries are counted from a number on. -/
def findFrom? (loweredQuery : Text) (pass : MatchPass) (index : Nat) :
    List FaqEntry → Option KnowledgeMatch
  | [] => none
  | entry :: rest =>
      let candidates := match pass with
        | .phrase => entry.phrases
        | .keyword => entry.keywords
      match candidates.find? (keywordOccurs loweredQuery) with
      | some keyword => some ⟨index, entry, keyword, pass⟩
      | none => findFrom? loweredQuery pass (index + 1) rest

/-- The entry that answers a query. -/
def findMatch? (entries : List FaqEntry) (query : Text) : Option KnowledgeMatch :=
  let lowered := Text.lowercase query
  (findFrom? lowered .phrase 0 entries).or (findFrom? lowered .keyword 0 entries)

/-- The answer to a query. -/
def findAnswer? (entries : List FaqEntry) (query : Text) : Option FaqEntry :=
  (findMatch? entries query).map (·.entry)

end TeachingEditor
