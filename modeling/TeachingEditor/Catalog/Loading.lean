import TeachingEditor.Catalog.Shipped

/-!
# Loading catalogs

**Input.**  The paths of a configuration and a reader of files.

**Algorithm.**  Each catalog is the shipped one when no path is set for it, and
otherwise what the file at the path says.  The vocabulary comes first, then the
completion items, then the predefined answers; the first that fails is reported.
The catalogs are checked together at the end.

**Results.**  `load` gives catalogs without problems, or a `CatalogError`.
-/

namespace TeachingEditor

/-- Why catalogs cannot be used. -/
inductive CatalogError where
  | unreadable (path : Text) (cause : FileError)
  | unparsable (catalog : CatalogName) (fault : Toml.Fault)
  | unusable (problem : Catalogs.Problem)
  deriving DecidableEq

namespace Catalogs

/-- The catalog at a path, or the shipped one where no path is set. -/
def resolve {α : Type} (read : FileReader) (catalog : CatalogName) (shipped : α)
    (parse : Text → Except Toml.Fault α) : Option Text → Except CatalogError α
  | none => .ok shipped
  | some path =>
      match read.readText path with
      | .error cause => .error (.unreadable path cause)
      | .ok t =>
          match parse t with
          | .error fault => .error (.unparsable catalog fault)
          | .ok a => .ok a

/-- Catalogs without problems. -/
def checked (c : Catalogs) : Except CatalogError Catalogs :=
  match c.problem? with
  | some problem => .error (.unusable problem)
  | none => .ok c

/-- The shipped catalogs, checked like any others. -/
def builtin : Except CatalogError Catalogs :=
  checked Shipped.catalogs

/-- The catalogs of a configuration. -/
def load (read : FileReader) (paths : CatalogPaths) : Except CatalogError Catalogs := do
  let vocabulary ← resolve read .vocabulary Shipped.vocabulary parseVocabulary paths.vocabulary
  let completions ←
    resolve read .completion Shipped.completions parseCompletions paths.completions
  let knowledge ← resolve read .knowledge Shipped.knowledge parseKnowledge paths.knowledge
  checked { vocabulary, completions, knowledge }

end Catalogs
end TeachingEditor
