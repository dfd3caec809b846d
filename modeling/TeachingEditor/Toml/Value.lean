import TeachingEditor.Text

/-!
# Values of a TOML document

A document is a table, that is, a list of keys with their values.  The keys of a
table are all different and stand in increasing order, whatever their order in the
document was.

Floats and dates are not used by anything in this library.  They are checked where
they are read; of a float only its range is kept, and of a date that it is one.
-/

namespace TeachingEditor
namespace Toml

/-- A value of a document. -/
inductive Value where
  | string (text : Text)
  | integer (value : Int)
  /-- A float, and whether it lies within the range of double precision. -/
  | float (inRange : Bool)
  | boolean (value : Bool)
  | dateTime
  | array (items : List Value)
  | table (entries : List (Text × Value))

/-- Keys with their values, in increasing order of the keys. -/
abbrev Table := List (Text × Value)

/-- Put an entry into its place, instead of an entry with the same key if there is one. -/
def putEntry {α : Type} (key : Text) (value : α) : List (Text × α) → List (Text × α)
  | [] => [(key, value)]
  | (k, v) :: rest =>
      if key < k then
        (key, value) :: (k, v) :: rest
      else if key = k then
        (key, value) :: rest
      else
        (k, v) :: putEntry key value rest

end Toml
end TeachingEditor
