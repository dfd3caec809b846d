import TeachingEditor.Completion.Suggestion
import TeachingEditor.Config
import TeachingEditor.Files
import TeachingEditor.Knowledge
import TeachingEditor.Language.Lexer

/-!
# Catalogs

The three catalogs that the tools consult: the reserved words, the completion
items and the predefined answers.

**Results.**  `problem?` is the first thing that makes catalogs unusable.  The
decoders read each of the catalogs from a document.
-/

namespace TeachingEditor

/-- The catalogs of the tools. -/
structure Catalogs where
  vocabulary : Vocabulary
  completions : List CompletionItem
  knowledge : List FaqEntry
  deriving DecidableEq

/-- One of the catalogs. -/
inductive CatalogName where
  | vocabulary
  | completion
  | knowledge
  deriving DecidableEq, Repr

/-- The written name of a catalog. -/
def CatalogName.name : CatalogName → Text
  | vocabulary => "vocabulary".toList
  | completion => "completion".toList
  | knowledge => "knowledge".toList

namespace Catalogs

/-! ## Usable catalogs -/

/-- Something that makes catalogs unusable. -/
inductive Problem where
  | notAnIdentifier (word : Text)
  | emptyLabel (index : Nat)
  | noKeywords (index : Nat) (question : Text)
  | emptyKeyword (index : Nat) (question : Text)
  deriving DecidableEq, Repr

/-- The wording of a problem. -/
def Problem.message : Problem → Text
  | notAnIdentifier word =>
      "vocabulary word ".toList ++ Text.quoted word ++ " is not an identifier".toList
  | emptyLabel index =>
      "completion item ".toList ++ Text.ofNat index ++ " has an empty label".toList
  | noKeywords index question =>
      "FAQ entry ".toList ++ Text.ofNat index ++ " (".toList ++ Text.quoted question ++
        ") has no keywords".toList
  | emptyKeyword index question =>
      "FAQ entry ".toList ++ Text.ofNat index ++ " (".toList ++ Text.quoted question ++
        ") has an empty keyword".toList

/-- The first reserved word that the language cannot read as one word. -/
def wordProblem? (v : Vocabulary) : Option Problem :=
  (v.words.find? fun word => ! isIdentifier word).map .notAnIdentifier

/-- The first item without a label; the items are counted from a number on. -/
def labelProblemFrom? (index : Nat) : List CompletionItem → Option Problem
  | [] => none
  | item :: rest =>
      if item.label.isEmpty then some (.emptyLabel index) else labelProblemFrom? (index + 1) rest

/-- The first entry that nothing or everything selects; the entries are counted from a number on. -/
def keywordProblemFrom? (index : Nat) : List FaqEntry → Option Problem
  | [] => none
  | entry :: rest =>
      if entry.keywords.isEmpty then
        some (.noKeywords index entry.question)
      else if entry.keywords.any fun k => (Text.trim k).isEmpty then
        some (.emptyKeyword index entry.question)
      else
        keywordProblemFrom? (index + 1) rest

/-- The first problem of catalogs. -/
def problem? (c : Catalogs) : Option Problem :=
  (wordProblem? c.vocabulary).or
    ((labelProblemFrom? 0 c.completions).or (keywordProblemFrom? 0 c.knowledge))

/-! ## Reading -/

open Toml

def keywordsKey : Text := "keywords".toList
def builtinsKey : Text := "builtins".toList
def itemsKey : Text := "items".toList
def labelKey : Text := "label".toList
def insertTextKey : Text := "insert_text".toList
def detailKey : Text := "detail".toList
def kindKey : Text := "kind".toList
def descriptionKey : Text := "description".toList
def entriesKey : Text := "entries".toList
def questionKey : Text := "question".toList
def answerKey : Text := "answer".toList
def codeExampleKey : Text := "code_example".toList

/-- Read a list of words. -/
def decodeWords : Decoder (List Text) :=
  decodeList decodeText

/-- Read a text that may be left out. -/
def decodeOptionalText : Decoder (Option Text) := fun v =>
  (decodeText v).map some

/-- Read a vocabulary. -/
def decodeVocabulary : Decoder Vocabulary := fun v => do
  let r ← readRecord [field keywordsKey decodeWords, field builtinsKey decodeWords] v
  let keywords ← r.required keywordsKey decodeWords
  let builtins ← r.required builtinsKey decodeWords
  return .ofLists keywords builtins

/-- Read the kind of a completion item. -/
def decodeKind : Decoder CompletionKind :=
  decodeName CompletionKind.ofName? (CompletionKind.all.map (·.name))

/-- Read a completion item. -/
def decodeItem : Decoder CompletionItem := fun v => do
  let r ← readRecord
    [field labelKey decodeText, field insertTextKey decodeText, field detailKey decodeText,
      field kindKey decodeKind, field descriptionKey decodeOptionalText] v
  let label ← r.required labelKey decodeText
  let insertText ← r.required insertTextKey decodeText
  let detail ← r.required detailKey decodeText
  let kind ← r.required kindKey decodeKind
  let description ← r.optional descriptionKey decodeOptionalText none
  return { label, insertText, detail, kind, description }

/-- Read a completion catalog. -/
def decodeCompletions : Decoder (List CompletionItem) := fun v => do
  let r ← readRecord [field itemsKey (decodeList decodeItem)] v
  r.optional itemsKey (decodeList decodeItem) []

/-- Read a predefined answer. -/
def decodeEntry : Decoder FaqEntry := fun v => do
  let r ← readRecord
    [field questionKey decodeText, field keywordsKey decodeWords, field answerKey decodeText,
      field codeExampleKey decodeOptionalText] v
  let question ← r.required questionKey decodeText
  let keywords ← r.required keywordsKey decodeWords
  let answer ← r.required answerKey decodeText
  let codeExample ← r.optional codeExampleKey decodeOptionalText none
  return { question, keywords, answer, codeExample }

/-- Read a list of predefined answers. -/
def decodeKnowledge : Decoder (List FaqEntry) := fun v => do
  let r ← readRecord [field entriesKey (decodeList decodeEntry)] v
  r.optional entriesKey (decodeList decodeEntry) []

/-- Read a document as a vocabulary. -/
def parseVocabulary (t : Text) : Except Fault Vocabulary :=
  decodeDocument decodeVocabulary t

/-- Read a document as a completion catalog. -/
def parseCompletions (t : Text) : Except Fault (List CompletionItem) :=
  decodeDocument decodeCompletions t

/-- Read a document as a list of predefined answers. -/
def parseKnowledge (t : Text) : Except Fault (List FaqEntry) :=
  decodeDocument decodeKnowledge t

end Catalogs
end TeachingEditor
