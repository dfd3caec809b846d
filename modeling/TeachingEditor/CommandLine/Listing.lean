import TeachingEditor.Assistant
import TeachingEditor.Completion.Suggestion
import TeachingEditor.Language.Token
import TeachingEditor.Text.Quoted

/-!
# What the commands print

**Format.**  Tokens are listed one on a line, with the bytes they cover, their kind
and their quoted text, or as a JSON array with an indentation of two spaces.
Suggestions follow a line with the word they are for.  A predefined answer stands
below its question, and its code example below the answer.
-/

namespace TeachingEditor
namespace Listing

/-- The line of a token. -/
def tokenLine (t : Token) : Text :=
  Text.padLeft 4 (Text.ofNat t.span.start) ++ "..".toList ++
    Text.padRight 4 (Text.ofNat t.span.stop) ++ ' ' ::
    Text.padRight 16 t.kind.name ++ ' ' :: Text.quoted t.value ++ ['\n']

/-- The lines of tokens. -/
def tokens : List Token → Text
  | [] => []
  | t :: rest => tokenLine t ++ tokens rest

/-- One character inside a JSON string. -/
def jsonChar (c : Char) : Text :=
  if c = '"' then ['\\', '"']
  else if c = '\\' then ['\\', '\\']
  else if c = '\x08' then ['\\', 'b']
  else if c = '\x0c' then ['\\', 'f']
  else if c = '\n' then ['\\', 'n']
  else if c = '\r' then ['\\', 'r']
  else if c = '\t' then ['\\', 't']
  else if c < ' ' then
    let digits := Nat.toDigits 16 c.toNat
    ['\\', 'u'] ++ List.replicate (4 - digits.length) '0' ++ digits
  else [c]

/-- The inside of a JSON string. -/
def jsonBody : Text → Text
  | [] => []
  | c :: rest => jsonChar c ++ jsonBody rest

/-- A JSON string. -/
def jsonString (t : Text) : Text :=
  '"' :: jsonBody t ++ ['"']

/-- A token as a JSON object, two levels deep, without the line break behind it. -/
def jsonToken (t : Token) : Text :=
  "  \x7b\n    \"kind\": ".toList ++ jsonString t.kind.name ++
    ",\n    \"value\": ".toList ++ jsonString t.value ++
    ",\n    \"span\": \x7b\n      \"start\": ".toList ++ Text.ofNat t.span.start ++
    ",\n      \"end\": ".toList ++ Text.ofNat t.span.stop ++ "\n    \x7d\n  \x7d".toList

/-- Tokens as JSON objects with commas between them. -/
def jsonItems : List Token → Text
  | [] => []
  | [t] => jsonToken t
  | t :: rest => jsonToken t ++ [',', '\n'] ++ jsonItems rest

/-- Tokens as a JSON array. -/
def json (ts : List Token) : Text :=
  if ts.isEmpty then
    "[]\n".toList
  else
    ['[', '\n'] ++ jsonItems ts ++ "\n]\n".toList

/-- The line of a suggestion. -/
def suggestionLine (item : CompletionItem) : Text :=
  Text.padRight 20 item.label ++ ' ' :: Text.padRight 8 item.kind.name ++ ' ' ::
    item.detail ++ ['\n']

/-- The lines of suggestions. -/
def suggestionLines : List CompletionItem → Text
  | [] => []
  | item :: rest => suggestionLine item ++ suggestionLines rest

/-- A word and what is suggested for it. -/
def suggestions (w : CursorWord) (items : List CompletionItem) : Text :=
  "word: ".toList ++ Text.quoted w.word ++ " at ".toList ++ Text.ofNat w.start ++ ['\n'] ++
    if items.isEmpty then "no suggestions\n".toList else suggestionLines items

/-- A reply to a query. -/
def reply : Reply → Text
  | .empty => []
  | .predefined found =>
      found.entry.question ++ ['\n', '\n'] ++ found.entry.answer ++ ['\n'] ++
        match found.entry.codeExample with
        | some code => '\n' :: code ++ ['\n']
        | none => []
  | .generated provider text => '[' :: provider ++ [']', ' '] ++ text ++ ['\n']

end Listing
end TeachingEditor
