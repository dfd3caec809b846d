import TeachingEditor.Completion.Suggestion
import TeachingEditor.Highlight

/-!
# An editor buffer

**Input.**  A text with a cursor, and steps that move the cursor, change the text at
the cursor or look at it.

**Results.**  `Buffer.step` gives the buffer after a step and what the step shows.
A step that cannot be done leaves the buffer as it is.  The cursor may be set to any
number; the steps that use it say when it is no place in the text.
-/

namespace TeachingEditor

/-- A text with a cursor, which is a byte offset. -/
structure Buffer where
  text : Text
  cursor : Nat
  deriving DecidableEq, Repr

/-- What an editor knows of the language. -/
structure EditorSettings where
  vocabulary : Vocabulary
  completions : List CompletionItem

/-- Something that is done in an editor. -/
inductive EditorStep where
  | move (cursor : Nat)
  | insert (text : Text)
  /-- Show the word at the cursor. -/
  | word
  /-- Replace the word at the cursor. -/
  | replace (text : Text)
  | suggest
  /-- Replace the word at the cursor by a suggestion. -/
  | accept (index : Nat)
  | tokens
  | highlight (theme : Theme)

/-- What a step shows. -/
inductive EditorAnswer where
  | done
  | word (w : CursorWord)
  | suggestions (items : List CompletionItem)
  | accepted (item : CompletionItem)
  | tokens (tokens : List Token)
  | markup (text : Text)
  | badCursor (error : CursorError)
  | noSuchSuggestion
  /-- The word lies outside the text. -/
  | badWord
  deriving DecidableEq, Repr

namespace Buffer

/-- Replace the word at the cursor and put the cursor behind the new text. -/
def replaceWord (b : Buffer) (text : Text) (answer : EditorAnswer) : Buffer × EditorAnswer :=
  match wordAt b.text b.cursor with
  | .error e => (b, .badCursor e)
  | .ok w =>
      match w.replaceIn? b.text text with
      | some replaced => (⟨replaced, w.start + Text.size text⟩, answer)
      | none => (b, .badWord)

/-- The buffer after a step, and what the step shows. -/
def step (settings : EditorSettings) (b : Buffer) : EditorStep → Buffer × EditorAnswer
  | .move cursor => ({ b with cursor }, .done)
  | .insert text =>
      match splitAtCursor b.text b.cursor with
      | .error e => (b, .badCursor e)
      | .ok (before, after) => (⟨before ++ text ++ after, b.cursor + Text.size text⟩, .done)
  | .word =>
      match wordAt b.text b.cursor with
      | .error e => (b, .badCursor e)
      | .ok w => (b, .word w)
  | .replace text => b.replaceWord text .done
  | .suggest =>
      match TeachingEditor.suggest settings.completions b.text b.cursor with
      | .error e => (b, .badCursor e)
      | .ok items => (b, .suggestions items)
  | .accept index =>
      match TeachingEditor.suggest settings.completions b.text b.cursor with
      | .error e => (b, .badCursor e)
      | .ok items =>
          match items[index]? with
          | some item => b.replaceWord item.insertText (.accepted item)
          | none => (b, .noSuchSuggestion)
  | .tokens => (b, .tokens (tokenize settings.vocabulary b.text))
  | .highlight theme => (b, .markup (Markup.highlight settings.vocabulary theme b.text))

/-- The answers to steps that are done one after another, with the buffer after each. -/
def run (settings : EditorSettings) (b : Buffer) : List EditorStep → List (Buffer × EditorAnswer)
  | [] => []
  | s :: rest =>
      let result := b.step settings s
      result :: run settings result.1 rest

end Buffer
end TeachingEditor
