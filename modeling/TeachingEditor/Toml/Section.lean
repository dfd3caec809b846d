import TeachingEditor.Toml.Value

/-!
# Tables under construction

**Input.**  The statements of a document in their order: settings of keys, and
headers that open a table or a further element of an array of tables.

**Format.**  While a document is read, a table remembers how it came to be.  It
may have its own header; it may be implied by the header of a table inside it; or
it may be made by a dotted key.  Which of these it is decides what may be added to
it later: a header may open an implied table once, and a dotted key may extend
only what dotted keys made, or pass through what is implied.  A value that was
written as a whole is never extended.

**Results.**  `assign?` adds a setting, `Header.enter?` opens a table and lets its
settings be added, and both say nothing when the document may not do so.  `seal`
forgets how the tables came to be.
-/

namespace TeachingEditor
namespace Toml

/-- How a table came to be. -/
inductive Origin where
  | header
  | implied
  | dotted
  deriving DecidableEq, Repr

/-- What a key of a table under construction stands for. -/
inductive Node where
  /-- A value written as a whole. -/
  | value (v : Value)
  | table (origin : Origin) (entries : List (Text × Node))
  /-- An array of tables; only its last element can still grow. -/
  | tables (earlier : List Value) (last : List (Text × Node))

/-- The keys of a table under construction. -/
abbrev Entries := List (Text × Node)

mutual

/-- The value of a finished node. -/
def Node.seal : Node → Value
  | .value v => v
  | .table _ entries => .table (sealEntries entries)
  | .tables earlier last => .array (earlier ++ [.table (sealEntries last)])

/-- The entries of a finished table. -/
def sealEntries : List (Text × Node) → Table
  | [] => []
  | (key, node) :: rest => (key, node.seal) :: sealEntries rest

end

/-- The setting of a key, which may be dotted, to a value. -/
structure Setting where
  /-- The parts of the key before the last one. -/
  path : List Text
  key : Text
  value : Value

/--
Add a setting to a table with an origin.  The flag says whether the table was reached
by a part of the dotted key.
-/
def assign? (origin : Origin) (entries : Entries) (reached : Bool) (key : Text) (v : Value) :
    List Text → Option Entries
  | [] =>
      if (origin = .dotted) = reached ∧ (entries.lookup key).isNone then
        some (putEntry key (.value v) entries)
      else
        none
  | part :: path =>
      match entries.lookup part with
      | none =>
          (assign? .dotted [] true key v path).map fun inner =>
            putEntry part (.table .dotted inner) entries
      | some (.table inside inner) =>
          if inside = .header then
            none
          else
            (assign? inside inner true key v path).map fun inner =>
              putEntry part (.table inside inner) entries
      | some (.tables earlier last) =>
          (assign? .header last true key v path).map fun last =>
            putEntry part (.tables earlier last) entries
      | some (.value _) => none

/-- Add settings, one after another, to a table that has a header or is the document itself. -/
def assignAll? : List Setting → Entries → Option Entries
  | [], entries => some entries
  | s :: rest, entries =>
      (assign? .header entries false s.key s.value s.path).bind (assignAll? rest)

/-- Change the table at a path; tables that are not there yet are implied. -/
def changeAt? (change : Entries → Option Entries) : List Text → Entries → Option Entries
  | [], entries => change entries
  | part :: path, entries =>
      match entries.lookup part with
      | none =>
          (changeAt? change path []).map fun inner =>
            putEntry part (.table .implied inner) entries
      | some (.table origin inner) =>
          (changeAt? change path inner).map fun inner =>
            putEntry part (.table origin inner) entries
      | some (.tables earlier last) =>
          (changeAt? change path last).map fun last =>
            putEntry part (.tables earlier last) entries
      | some (.value _) => none

/-- A header line. -/
structure Header where
  /-- The parts of the name before the last one. -/
  path : List Text
  key : Text
  /-- Whether the header opens an element of an array of tables. -/
  isElement : Bool

namespace Header

/-- Open the table of a header in the table around it and fill it. -/
def openIn? (h : Header) (fill : Entries → Option Entries) (entries : Entries) : Option Entries :=
  match entries.lookup h.key with
  | none =>
      (fill []).map fun inner =>
        putEntry h.key (if h.isElement then .tables [] inner else .table .header inner) entries
  | some (.table origin inner) =>
      if h.isElement ∨ origin ≠ .implied then
        none
      else
        (fill inner).map fun inner => putEntry h.key (.table .header inner) entries
  | some (.tables earlier last) =>
      if h.isElement then
        (fill []).map fun inner =>
          putEntry h.key (.tables (earlier ++ [.table (sealEntries last)]) inner) entries
      else
        none
  | some (.value _) => none

/-- Open the table of a header in a document and add settings to it. -/
def enter? (h : Header) (settings : List Setting) (document : Entries) : Option Entries :=
  changeAt? (h.openIn? (assignAll? settings)) h.path document

end Header

/-- A line of a document that says something. -/
inductive Statement where
  | setting (s : Setting)
  | header (h : Header)

/-- The settings before the first header, and each header with the settings behind it. -/
def groupStatements : List Statement → List Setting × List (Header × List Setting)
  | [] => ([], [])
  | .setting s :: rest =>
      let (settings, blocks) := groupStatements rest
      (s :: settings, blocks)
  | .header h :: rest =>
      let (settings, blocks) := groupStatements rest
      ([], (h, settings) :: blocks)

/-- Open the tables of headers one after another. -/
def enterAll? : List (Header × List Setting) → Entries → Option Entries
  | [], document => some document
  | (h, settings) :: rest, document => (h.enter? settings document).bind (enterAll? rest)

/-- The table that statements describe, if they agree with one another. -/
def tableOf? (statements : List Statement) : Option Table :=
  let (settings, blocks) := groupStatements statements
  ((assignAll? settings []).bind (enterAll? blocks)).map sealEntries

end Toml
end TeachingEditor
