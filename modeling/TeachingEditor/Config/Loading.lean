import TeachingEditor.Config
import TeachingEditor.Files

/-!
# Loading a configuration

A configuration is read from a file, which may be missing or no text, and then
parsed and checked.
-/

namespace TeachingEditor
namespace Config

/-- Why a configuration cannot be used. -/
inductive LoadError where
  | unreadable (cause : FileError)
  | unusable (error : ParseError)
  deriving DecidableEq

/-- The configuration in the file at a path. -/
def load (read : FileReader) (path : Text) : Except LoadError Config :=
  match read.readText path with
  | .error cause => .error (.unreadable cause)
  | .ok t =>
      match parse t with
      | .error error => .error (.unusable error)
      | .ok c => .ok c

end Config
end TeachingEditor
