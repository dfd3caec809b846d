import TeachingEditor.Toml.Document

/-!
# Reading records from values

**Input.**  A value of a document and the names of the fields of a record.

**Format.**  A record is written as a table, whose keys are fields in any order and
whose other keys are ignored, or as an array, whose elements are the fields in
their order and whose further elements are ignored.  A date in place of a record
counts as a table without any of its fields.

**Algorithm.**  First every entry is checked in the order in which it stands, keys
in increasing order and elements from the first on, so that an entry of the wrong
type is reported before a missing field.  Then the fields are taken in their order.
An ignored value must still be one that can be held: an integer has at most 128
bits, and a float lies within the range of double precision.

**Results.**  A `Fault` says what is wrong.  Its wording is fixed only for missing
fields and unknown names.
-/

namespace TeachingEditor
namespace Toml

/-- Why a document does not say what is wanted. -/
inductive Fault where
  /-- The text is no document, or a value has the wrong type or size. -/
  | malformed
  | missingField (name : Text)
  | unknownVariant (name : Text) (expected : List Text)
  deriving DecidableEq, Repr

namespace Fault

/-- A name as it stands in a message. -/
def ticked (name : Text) : Text :=
  '\x60' :: name ++ ['\x60']

/-- Names as they stand in a message. -/
def tickedList : List Text → Text
  | [] => []
  | [name] => ticked name
  | name :: rest => ticked name ++ ", ".toList ++ tickedList rest

/-- The wording of a fault, if it is fixed. -/
def message? : Fault → Option Text
  | malformed => none
  | missingField name => some ("missing field ".toList ++ ticked name)
  | unknownVariant name expected =>
      some ("unknown variant ".toList ++ ticked name ++ ", expected one of ".toList ++
        tickedList expected)

end Fault

/-- A reader of values. -/
abbrev Decoder (α : Type) := Value → Except Fault α

/-- Whether an integer has at most 128 bits, with a sign or without. -/
def isHoldable (n : Int) : Bool :=
  -(Nat.pow 2 127 : Nat) ≤ n && n < (Nat.pow 2 128 : Nat)

mutual

/-- Read a value that is not used. -/
def ignore : Decoder Unit
  | .integer n => if isHoldable n then .ok () else .error .malformed
  | .float inRange => if inRange then .ok () else .error .malformed
  | .string _ => .ok ()
  | .boolean _ => .ok ()
  | .dateTime => .ok ()
  | .array items => ignoreItems items
  | .table entries => ignoreEntries entries

/-- Read values that are not used. -/
def ignoreItems : List Value → Except Fault Unit
  | [] => .ok ()
  | v :: rest =>
      match ignore v with
      | .ok _ => ignoreItems rest
      | .error fault => .error fault

/-- Read entries that are not used. -/
def ignoreEntries : List (Text × Value) → Except Fault Unit
  | [] => .ok ()
  | (_, v) :: rest =>
      match ignore v with
      | .ok _ => ignoreEntries rest
      | .error fault => .error fault

end

/-- Read a string. -/
def decodeText : Decoder Text
  | .string t => .ok t
  | _ => .error .malformed

/-- Read a truth value. -/
def decodeBool : Decoder Bool
  | .boolean b => .ok b
  | _ => .error .malformed

/-- Read a number of at most 64 bits. -/
def decodeUInt64 : Decoder UInt64
  | .integer n =>
      if 0 ≤ n ∧ n < UInt64.size then .ok (UInt64.ofNat n.toNat) else .error .malformed
  | _ => .error .malformed

/-- Read values one after another. -/
def decodeItems {α : Type} (decode : Decoder α) : List Value → Except Fault (List α)
  | [] => .ok []
  | v :: rest => do
      let a ← decode v
      let others ← decodeItems decode rest
      return a :: others

/-- Read an array. -/
def decodeList {α : Type} (decode : Decoder α) : Decoder (List α)
  | .array items => decodeItems decode items
  | _ => .error .malformed

/-- Read a name: as a string, or as the only key of a table that holds nothing. -/
def decodeName {α : Type} (ofName? : Text → Option α) (expected : List Text) : Decoder α
  | .string name => named name
  | .table [(name, v)] => do
      let a ← named name
      match v with
      | .table [] | .array [] => return a
      | _ => .error .malformed
  | _ => .error .malformed
where
  /-- The meaning of a name. -/
  named (name : Text) : Except Fault α :=
    match ofName? name with
    | some a => .ok a
    | none => .error (.unknownVariant name expected)

/-- The entries of a value that is written as a record. -/
structure Record where
  entries : List (Text × Value)
  /-- Whether the fields are given by their positions. -/
  isPositional : Bool

namespace Record

/-- See a value as a record with fields of some names. -/
def ofValue (names : List Text) : Value → Except Fault Record
  | .table entries => .ok ⟨entries, false⟩
  | .array items => .ok ⟨names.zip items, true⟩
  | .dateTime => .ok ⟨[], false⟩
  | _ => .error .malformed

/-- Check entries in their order. -/
def checkEntries (check : Text → Decoder Unit) : List (Text × Value) → Except Fault Unit
  | [] => .ok ()
  | (name, v) :: rest =>
      match check name v with
      | .ok _ => checkEntries check rest
      | .error fault => .error fault

/-- What is wrong when a field is not there. -/
def absent (r : Record) (name : Text) : Fault :=
  if r.isPositional then .malformed else .missingField name

/-- The value of a field that must be there. -/
def required {α : Type} (r : Record) (name : Text) (decode : Decoder α) : Except Fault α :=
  match r.entries.lookup name with
  | some v => decode v
  | none => .error (r.absent name)

/-- The value of a field that need not be there. -/
def optional {α : Type} (r : Record) (name : Text) (decode : Decoder α) (default : α) :
    Except Fault α :=
  match r.entries.lookup name with
  | some v => decode v
  | none => .ok default

end Record

/-- A field of a record: its name, and a check of its value. -/
structure Field where
  name : Text
  check : Decoder Unit

/-- The field of a name whose values are read in some way. -/
def field {α : Type} (name : Text) (decode : Decoder α) : Field :=
  ⟨name, fun v => (decode v).map fun _ => ()⟩

/-- Check the value of a key; a key that is no field is ignored. -/
def checkField : List Field → Text → Decoder Unit
  | [], _ => ignore
  | f :: rest, name => if f.name = name then f.check else checkField rest name

/-- See a value as a record and check all its entries. -/
def readRecord (fields : List Field) (v : Value) : Except Fault Record := do
  let r ← Record.ofValue (fields.map (·.name)) v
  let _ ← Record.checkEntries (checkField fields) r.entries
  return r

/-- Read the text of a document as a value of a type. -/
def decodeDocument {α : Type} (decode : Decoder α) (t : Text) : Except Fault α :=
  match readDocument? t with
  | some table => decode (.table table)
  | none => .error .malformed

end Toml
end TeachingEditor
