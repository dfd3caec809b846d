import TeachingEditor.Assistant
import TeachingEditor.Catalog.Loading
import TeachingEditor.Config.Loading

/-!
# Failures of a command

**Format.**  A failure is reported as what could not be done and, below it, the
causes from the nearest to the farthest: a single one by itself, several with their
numbers.  The lines of a cause are indented.

**Results.**  `Failure.chain` gives the messages and `Failure.report` the text.
-/

namespace TeachingEditor

/-- Why a command cannot be carried out. -/
inductive Failure where
  | config (path : Text) (error : Config.LoadError)
  | theme (name : Text)
  | catalogs (error : CatalogError)
  | source (path : Text) (error : FileError)
  | input (fault : Utf8.Fault)
  | cursor (error : CursorError)
  | assistant (error : FallbackError)
  deriving DecidableEq

namespace Failure

/-- The wording of a fault of a document. -/
def documentFault (fault : Toml.Fault) : Text :=
  "TOML parse error".toList ++
    match fault.message? with
    | some message => ": ".toList ++ message
    | none => []

/-- The messages of a failure to load a configuration. -/
def configChain : Config.LoadError → List Text
  | .unreadable cause =>
      ["failed to read config file: ".toList ++ cause.message, cause.message]
  | .unusable (.unreadable fault) =>
      ["failed to parse TOML: ".toList ++ documentFault fault, documentFault fault]
  | .unusable (.inadmissible problem) => ["validation error: ".toList ++ problem.message]

/-- The messages of a failure to load catalogs. -/
def catalogChain : CatalogError → List Text
  | .unreadable path cause =>
      ["failed to read catalog ".toList ++ path ++ ": ".toList ++ cause.message, cause.message]
  | .unparsable catalog fault =>
      ["failed to parse ".toList ++ catalog.name ++ " catalog: ".toList ++ documentFault fault,
        documentFault fault]
  | .unusable problem => ["invalid catalog: ".toList ++ problem.message]

/-- The messages of a failure, each the cause of the one before. -/
def chain : Failure → List Text
  | config path error => ("invalid config '".toList ++ path ++ ['\'']) :: configChain error
  | theme name => [Theme.unknownMessage name]
  | catalogs error => catalogChain error
  | source path error => ["failed to read '".toList ++ path ++ ['\''], error.message]
  | input fault => ["failed to read stdin".toList, fault.message]
  | cursor error => [error.message]
  | assistant error => [error.message]

/-- Put spaces in front of every line but the first. -/
def indent (width : Nat) : Text → Text
  | [] => []
  | c :: rest =>
      if c = '\n' then
        '\n' :: List.replicate width ' ' ++ indent width rest
      else
        c :: indent width rest

/-- Causes on numbered lines, from a number on. -/
def numbered (n : Nat) : List Text → Text
  | [] => []
  | cause :: rest =>
      '\n' :: Text.padLeft 5 (Text.ofNat n) ++ ": ".toList ++ indent 7 cause ++
        numbered (n + 1) rest

/-- The lines of causes. -/
def causes : List Text → Text
  | [] => []
  | [cause] => "\n\nCaused by:\n    ".toList ++ indent 4 cause
  | many => "\n\nCaused by:".toList ++ numbered 0 many

/-- The text of a report. -/
def reportOf : List Text → Text
  | [] => []
  | message :: rest => message ++ causes rest

/-- The report of a failure. -/
def report (f : Failure) : Text :=
  reportOf f.chain

end Failure
end TeachingEditor
