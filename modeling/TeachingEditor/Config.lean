import TeachingEditor.Highlight
import TeachingEditor.Toml.Decoding
import TeachingEditor.Toml.Quoting

/-!
# Configuration

**Input.**  A TOML document with up to four sections, all of whose settings may be
left out.

**Results.**  `parse` reads a document and then checks the settings, `problem?` is
the first setting that is not admissible, and `print` writes a configuration as a
document in which every section and every set value appears.
-/

namespace TeachingEditor

/-- Settings of the log. -/
structure LoggingSettings where
  level : Text := "info".toList
  deriving DecidableEq, Repr

/-- Settings of highlighting. -/
structure HighlightSettings where
  theme : Text := "dark".toList
  deriving DecidableEq, Repr

/-- Files that take the place of the shipped catalogs. -/
structure CatalogPaths where
  vocabulary : Option Text := none
  completions : Option Text := none
  knowledge : Option Text := none
  deriving DecidableEq, Repr

/-- Settings of the help assistant. -/
structure AssistantSettings where
  /-- Whether questions without a predefined answer are passed on. -/
  escalate : Bool := true
  /-- The bound on one such call, in seconds. -/
  timeoutSeconds : UInt64 := 30
  deriving DecidableEq, Repr

/-- All settings. -/
structure Config where
  logging : LoggingSettings := {}
  highlight : HighlightSettings := {}
  catalog : CatalogPaths := {}
  assistant : AssistantSettings := {}
  deriving DecidableEq, Repr

namespace Config

/-! ## The names of the settings -/

def loggingKey : Text := "logging".toList
def levelKey : Text := "level".toList
def highlightKey : Text := "highlight".toList
def themeKey : Text := "theme".toList
def catalogKey : Text := "catalog".toList
def vocabularyPathKey : Text := "vocabulary_path".toList
def completionsPathKey : Text := "completions_path".toList
def knowledgePathKey : Text := "knowledge_path".toList
def assistantKey : Text := "assistant".toList
def escalateKey : Text := "escalate".toList
def timeoutKey : Text := "fallback_timeout_secs".toList

/-! ## Admissible settings -/

/-- A setting that is not admissible. -/
inductive Problem where
  | unknownLevel (level : Text)
  | unknownTheme (theme : Text)
  /-- A path, given by its key, is set to nothing. -/
  | emptyPath (key : Text)
  | zeroTimeout
  deriving DecidableEq, Repr

/-- The levels of the log, the most severe first. -/
def levels : List Text :=
  ["error".toList, "warn".toList, "info".toList, "debug".toList, "trace".toList]

/-- The names of the themes. -/
def themes : List Text :=
  [Theme.dark.name, Theme.light.name]

/-- Quoted texts with commas between them. -/
def quotedItems : List Text → Text
  | [] => []
  | [t] => Text.quoted t
  | t :: rest => Text.quoted t ++ ", ".toList ++ quotedItems rest

/-- Quoted texts in brackets. -/
def quotedList (ts : List Text) : Text :=
  '[' :: quotedItems ts ++ [']']

/-- The wording of a problem. -/
def Problem.message : Problem → Text
  | unknownLevel level =>
      "logging.level must be one of ".toList ++ quotedList levels ++ ", got ".toList ++
        Text.quoted level
  | unknownTheme theme =>
      "highlight.theme must be one of ".toList ++ quotedList themes ++ ", got ".toList ++
        Text.quoted theme
  | emptyPath key => catalogKey ++ '.' :: key ++ " must not be empty when set".toList
  | zeroTimeout => assistantKey ++ '.' :: timeoutKey ++ " must be non-zero".toList

/-- The first problem of a configuration. -/
def problem? (c : Config) : Option Problem :=
  if c.logging.level ∉ levels then some (.unknownLevel c.logging.level)
  else if c.highlight.theme ∉ themes then some (.unknownTheme c.highlight.theme)
  else if c.catalog.vocabulary = some [] then some (.emptyPath vocabularyPathKey)
  else if c.catalog.completions = some [] then some (.emptyPath completionsPathKey)
  else if c.catalog.knowledge = some [] then some (.emptyPath knowledgePathKey)
  else if c.assistant.timeoutSeconds = 0 then some .zeroTimeout
  else none

/-! ## Reading -/

open Toml

/-- Read the section of the log. -/
def decodeLogging : Decoder LoggingSettings := fun v => do
  let r ← readRecord [field levelKey decodeText] v
  let level ← r.optional levelKey decodeText ({} : LoggingSettings).level
  return { level }

/-- Read the section of highlighting. -/
def decodeHighlight : Decoder HighlightSettings := fun v => do
  let r ← readRecord [field themeKey decodeText] v
  let theme ← r.optional themeKey decodeText ({} : HighlightSettings).theme
  return { theme }

/-- Read a path that is set. -/
def decodePath : Decoder (Option Text) := fun v =>
  (decodeText v).map some

/-- Read the section of the catalogs. -/
def decodeCatalog : Decoder CatalogPaths := fun v => do
  let r ← readRecord
    [field vocabularyPathKey decodePath, field completionsPathKey decodePath,
      field knowledgePathKey decodePath] v
  let vocabulary ← r.optional vocabularyPathKey decodePath none
  let completions ← r.optional completionsPathKey decodePath none
  let knowledge ← r.optional knowledgePathKey decodePath none
  return { vocabulary, completions, knowledge }

/-- Read the section of the assistant. -/
def decodeAssistant : Decoder AssistantSettings := fun v => do
  let r ← readRecord [field escalateKey decodeBool, field timeoutKey decodeUInt64] v
  let escalate ← r.optional escalateKey decodeBool ({} : AssistantSettings).escalate
  let timeoutSeconds ← r.optional timeoutKey decodeUInt64 ({} : AssistantSettings).timeoutSeconds
  return { escalate, timeoutSeconds }

/-- Read all sections. -/
def decode : Decoder Config := fun v => do
  let r ← readRecord
    [field loggingKey decodeLogging, field highlightKey decodeHighlight,
      field catalogKey decodeCatalog, field assistantKey decodeAssistant] v
  let logging ← r.optional loggingKey decodeLogging {}
  let highlight ← r.optional highlightKey decodeHighlight {}
  let catalog ← r.optional catalogKey decodeCatalog {}
  let assistant ← r.optional assistantKey decodeAssistant {}
  return { logging, highlight, catalog, assistant }

/-- Why a text is no configuration. -/
inductive ParseError where
  | unreadable (fault : Fault)
  | inadmissible (problem : Problem)
  deriving DecidableEq

/-- Check the settings of a configuration. -/
def checked (c : Config) : Except ParseError Config :=
  match c.problem? with
  | some problem => .error (.inadmissible problem)
  | none => .ok c

/-- Read a document as a configuration. -/
def parse (t : Text) : Except ParseError Config :=
  match decodeDocument decode t with
  | .ok c => c.checked
  | .error fault => .error (.unreadable fault)

/-! ## Writing -/

/-- The line of a setting. -/
def settingLine (key written : Text) : Text :=
  key ++ " = ".toList ++ written ++ ['\n']

/-- The line of a path, if it is set. -/
def pathLine (key : Text) : Option Text → Text
  | some path => settingLine key (writeString path)
  | none => []

/-- The line of a section header. -/
def headerLine (key : Text) : Text :=
  '[' :: key ++ [']', '\n']

/-- A truth value as it is written. -/
def writeBool (b : Bool) : Text :=
  if b then "true".toList else "false".toList

/-- Write a configuration as a document. -/
def print (c : Config) : Text :=
  headerLine loggingKey ++
    settingLine levelKey (writeString c.logging.level) ++ ['\n'] ++
  headerLine highlightKey ++
    settingLine themeKey (writeString c.highlight.theme) ++ ['\n'] ++
  headerLine catalogKey ++
    pathLine vocabularyPathKey c.catalog.vocabulary ++
    pathLine completionsPathKey c.catalog.completions ++
    pathLine knowledgePathKey c.catalog.knowledge ++ ['\n'] ++
  headerLine assistantKey ++
    settingLine escalateKey (writeBool c.assistant.escalate) ++
    settingLine timeoutKey (Text.ofNat c.assistant.timeoutSeconds.toNat)

end Config
end TeachingEditor
