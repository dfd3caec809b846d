import TeachingEditor.Toml.Decoding
import TeachingEditor.Proofs.Toml.Section

/-!
# Records are read from what a table lists

A table keeps its entries in an order of its own, and a reader of a record looks at
them by their keys.  So the record depends only on the entries that the table lists.

**Algorithm.**  Every entry is checked before a field is taken, so a table is a record
exactly when all of its entries pass (`readRecord_table_eq_ok_iff`).  An entry of a field
passes when the field can read it, and any other entry when its numbers can be held
(`checkField_eq_ok`).

**Results.**
* `readRecord_lists`: a table is accepted when every entry that it lists passes the
  check of its field.
* `readRecord_eq_ok`, `check_of_readRecord`: with keys that are no fields among the
  entries, a table is accepted when the entries of its fields pass, and only then.
* `optional_lists`, `optional_of_lookup`, `optional_eq_getD`: the value of a field is the
  listed one, and where none is listed the one that the field has by default.
-/

namespace TeachingEditor
namespace Toml

variable {table pairs : Table}

theorem ok_bind
    {ε α β : Type}
    (a : α) (f : α → Except ε β) :
    (Except.ok a >>= f) = f a :=
  rfl

theorem bind_eq_ok_iff
    {ε α β : Type} {x : Except ε α} {f : α → Except ε β} {b : β} :
    (x >>= f) = .ok b ↔ ∃ a, x = .ok a ∧ f a = .ok b := by
  cases x with
  | error e => simp [bind, Except.bind]
  | ok a => simp [bind, Except.bind]

/-! ## Values that are not used -/

/-- A value whose numbers can be held. -/
inductive Holdable : Value → Prop
  | string {t : Text} :
      Holdable (.string t)
  | integer {n : Int}
      (hlow : -2 ^ 127 ≤ n)
      (hhigh : n < 2 ^ 128) :
      Holdable (.integer n)
  | float :
      Holdable (.float true)
  | boolean {b : Bool} :
      Holdable (.boolean b)
  | dateTime :
      Holdable .dateTime
  | array {items : List Value}
      (hitems : ∀ v ∈ items, Holdable v) :
      Holdable (.array items)
  | table {entries : Table}
      (hentries : ∀ entry ∈ entries, Holdable entry.2) :
      Holdable (.table entries)

theorem holdable_array_iff
    {items : List Value} :
    Holdable (.array items) ↔ ∀ v ∈ items, Holdable v :=
  ⟨fun | .array hitems => hitems, .array⟩

theorem holdable_table_iff
    {entries : Table} :
    Holdable (.table entries) ↔ ∀ entry ∈ entries, Holdable entry.2 :=
  ⟨fun | .table hentries => hentries, .table⟩

theorem ignoreItems_eq_ok
    {items : List Value}
    (h : ∀ v ∈ items, ignore v = .ok ()) :
    ignoreItems items = .ok () := by
  induction items with
  | nil => rfl
  | cons v items ih =>
      obtain ⟨hv, hitems⟩ := List.forall_mem_cons.1 h
      rw [ignoreItems, hv]
      exact ih hitems

theorem ignoreEntries_eq_ok
    {entries : Table}
    (h : ∀ entry ∈ entries, ignore entry.2 = .ok ()) :
    ignoreEntries entries = .ok () := by
  induction entries with
  | nil => rfl
  | cons entry entries ih =>
      obtain ⟨hentry, hentries⟩ := List.forall_mem_cons.1 h
      obtain ⟨key, v⟩ := entry
      rw [ignoreEntries, hentry]
      exact ih hentries

theorem Holdable.ignore_eq
    {v : Value}
    (h : Holdable v) :
    ignore v = .ok () := by
  induction h with
  | string => rfl
  | integer hlow hhigh => simpa [ignore, isHoldable] using And.intro hlow hhigh
  | float => rfl
  | boolean => rfl
  | dateTime => rfl
  | array hitems ih => exact ignoreItems_eq_ok ih
  | table hentries ih => exact ignoreEntries_eq_ok ih

/-! ## Checking entries -/

theorem checkField_field
    {α : Type}
    (name : Text) (decode : Decoder α) (fields : List Field) (key : Text) (v : Value) :
    checkField (field name decode :: fields) key v =
      if name = key then (decode v).map fun _ => () else checkField fields key v := by
  by_cases hname : name = key
  · simp [checkField, field, hname]
  · simp [checkField, field, hname]

theorem check_field_eq_ok_iff
    {α : Type} {name : Text} {decode : Decoder α} {v : Value} :
    (field name decode).check v = .ok () ↔ ∃ a, decode v = .ok a := by
  cases hread : decode v with
  | error fault => simp [field, Except.map, hread]
  | ok a => simp [field, Except.map, hread]

/-- An entry passes when each field of its key can read it, and is ignored otherwise. -/
theorem checkField_eq_ok
    {fields : List Field} {key : Text} {v : Value}
    (hv : Holdable v)
    (h : ∀ f ∈ fields, f.name = key → f.check v = .ok ()) :
    checkField fields key v = .ok () := by
  induction fields with
  | nil => exact hv.ignore_eq
  | cons f fields ih =>
      obtain ⟨hf, hfields⟩ := List.forall_mem_cons.1 h
      rw [checkField]
      split
      · next hname => exact hf hname
      · exact ih hfields

theorem checkField_of_mem
    {fields : List Field} {f : Field}
    (hnodup : (fields.map Field.name).Nodup)
    (hf : f ∈ fields)
    (v : Value) :
    checkField fields f.name v = f.check v := by
  induction fields with
  | nil => cases hf
  | cons first fields ih =>
      obtain ⟨hfresh, hnodup⟩ := List.nodup_cons.1 hnodup
      rcases List.mem_cons.1 hf with rfl | hf
      · rw [checkField, if_pos rfl]
      · have hne : first.name ≠ f.name := by
          intro hname
          rw [hname] at hfresh
          exact hfresh (List.mem_map_of_mem hf)
        rw [checkField, if_neg hne, ih hnodup hf]

theorem checkEntries_eq_ok_iff
    {check : Text → Decoder Unit} {entries : Table} :
    Record.checkEntries check entries = .ok () ↔
      ∀ entry ∈ entries, check entry.1 entry.2 = .ok () := by
  induction entries with
  | nil => simp [Record.checkEntries]
  | cons entry entries ih =>
      obtain ⟨key, v⟩ := entry
      rw [Record.checkEntries, List.forall_mem_cons]
      cases hentry : check key v with
      | error fault => simp
      | ok _ => simp [ih]

/-- A table is a record exactly when all of its entries pass. -/
theorem readRecord_table_eq_ok_iff
    {fields : List Field} {r : Record} :
    readRecord fields (.table table) = .ok r ↔
      r = ⟨table, false⟩ ∧
        ∀ entry ∈ table, checkField fields entry.1 entry.2 = .ok () := by
  unfold readRecord Record.ofValue
  rw [ok_bind, bind_eq_ok_iff, ← checkEntries_eq_ok_iff]
  constructor
  · rintro ⟨⟨⟩, hentries, hrecord⟩
    exact ⟨(Except.ok.inj hrecord).symm, hentries⟩
  · rintro ⟨rfl, hentries⟩
    exact ⟨(), hentries, rfl⟩

/-- Only the entries that a table lists are checked. -/
theorem readRecord_lists
    {fields : List Field}
    (h : Lists table pairs)
    (hcheck : ∀ pair ∈ pairs, checkField fields pair.1 pair.2 = .ok ()) :
    readRecord fields (.table table) = .ok ⟨table, false⟩ :=
  readRecord_table_eq_ok_iff.2 ⟨rfl, fun entry hentry => hcheck entry (h.mem entry hentry)⟩

/-- A table is accepted when the entries of its fields pass, whatever else is in it. -/
theorem readRecord_eq_ok
    {fields : List Field}
    (hholdable : ∀ entry ∈ table, Holdable entry.2)
    (hfields : ∀ f ∈ fields, ∀ v, (f.name, v) ∈ table → f.check v = .ok ()) :
    readRecord fields (.table table) = .ok ⟨table, false⟩ := by
  refine readRecord_table_eq_ok_iff.2 ⟨rfl, ?_⟩
  rintro ⟨key, v⟩ hentry
  refine checkField_eq_ok (hholdable (key, v) hentry) ?_
  rintro f hf rfl
  exact hfields f hf v hentry

/-- In a table that is accepted, the entries of the fields pass. -/
theorem check_of_readRecord
    {fields : List Field} {f : Field} {r : Record} {v : Value}
    (hnodup : (fields.map Field.name).Nodup)
    (hread : readRecord fields (.table table) = .ok r)
    (hf : f ∈ fields)
    (hentry : (f.name, v) ∈ table) :
    f.check v = .ok () := by
  obtain ⟨-, hentries⟩ := readRecord_table_eq_ok_iff.1 hread
  rw [← checkField_of_mem hnodup hf]
  exact hentries (f.name, v) hentry

/-- A value that is no record: neither entries nor elements nor a date. -/
inductive IsScalar : Value → Prop
  | string {t : Text} :
      IsScalar (.string t)
  | integer {n : Int} :
      IsScalar (.integer n)
  | float {inRange : Bool} :
      IsScalar (.float inRange)
  | boolean {b : Bool} :
      IsScalar (.boolean b)

theorem IsScalar.readRecord_eq
    {v : Value}
    (h : IsScalar v)
    (fields : List Field) :
    readRecord fields v = .error .malformed := by
  cases h <;> rfl

/-! ## Taking fields -/

/-- A field is read from the entries that a table lists. -/
theorem optional_lists
    {α : Type}
    (h : Lists table pairs)
    (name : Text) (decode : Decoder α) (default : α) :
    Record.optional ⟨table, false⟩ name decode default =
      Record.optional ⟨pairs, false⟩ name decode default := by
  simp only [Record.optional, h.lookup_eq]

theorem optional_of_lookup
    {α : Type}
    {name : Text} {v : Value}
    (hlookup : pairs.lookup name = some v)
    (decode : Decoder α) (default : α) :
    Record.optional ⟨pairs, false⟩ name decode default = decode v := by
  simp [Record.optional, hlookup]

theorem mem_of_lookup
    {α : Type} {entries : List (Text × α)} {key : Text} {value : α}
    (hlookup : entries.lookup key = some value) :
    (key, value) ∈ entries := by
  obtain ⟨before, after, rfl, -⟩ := List.lookup_eq_some_iff.1 hlookup
  exact List.mem_append_right before List.mem_cons_self

/-- A field whose entries can all be read has the value of its entry, or the one by default. -/
theorem optional_eq_getD
    {α : Type} {name : Text} {decode : Decoder α} {read? : Value → Option α}
    (h : ∀ v, (name, v) ∈ table → ∃ a, decode v = .ok a ∧ read? v = some a)
    (default : α) :
    Record.optional ⟨table, false⟩ name decode default =
      .ok (((table.lookup name).bind read?).getD default) := by
  cases hlookup : table.lookup name with
  | none => simp [Record.optional, hlookup]
  | some v =>
      obtain ⟨a, hdecode, hread⟩ := h v (mem_of_lookup hlookup)
      simp [Record.optional, hlookup, hdecode, hread]

end Toml

end TeachingEditor
