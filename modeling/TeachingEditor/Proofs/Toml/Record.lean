import TeachingEditor.Proofs.Toml.Decoding

/-!
# Records in both ways of writing

A record is shown by a table that has its entries among others, or by the array of its
values.  Which of them it is, in which order the keys of a table come and what stands
under other keys makes no difference for the fields.

**Algorithm.**  A reading is decided by one condition (`Yields`): under it a certain value
is read, and otherwise the text is refused without a reason.  A value that is not used
is decided in this sense by its numbers (`ignore_yields`), a list by all its elements and
a record by all its entries, so conditions are only collected.

**Results.**
* `readRecord_shows`: a record that is shown is read exactly if its entries are and the
  additional values can be held, and then has its fields under their names.
* `decodeRecords_shows`: the same for a list of records behind one key.
-/

namespace TeachingEditor
namespace Toml

/-! ## Decided readings -/

section Yields

variable {α β : Type}

/-- A reading that gives a value under a condition, and refuses everything otherwise. -/
structure Yields (reading : Except Fault α) (condition : Prop) (a : α) : Prop where
  ok : condition → reading = .ok a
  malformed : ¬ condition → reading = .error .malformed

namespace Yields

theorem of_eq_ok
    {reading : Except Fault α} {a : α}
    (h : reading = .ok a) :
    Yields reading True a :=
  ⟨fun _ => h, fun hfalse => absurd trivial hfalse⟩

theorem congr
    {reading : Except Fault α} {p q : Prop} {a : α}
    (h : Yields reading p a)
    (hpq : p ↔ q) :
    Yields reading q a :=
  ⟨fun hq => h.ok (hpq.2 hq), fun hq => h.malformed (mt hpq.1 hq)⟩

theorem eq_ok_iff
    {reading : Except Fault α} {p : Prop} {a : α}
    (h : Yields reading p a) :
    reading = .ok a ↔ p := by
  refine ⟨?_, h.ok⟩
  intro hok
  by_contra hp
  rw [h.malformed hp] at hok
  cases hok

/-- Of two readings one after the other, the second takes the value of the first. -/
theorem bind
    {reading : Except Fault α} {f : α → Except Fault β} {p q : Prop} {a : α} {b : β}
    (h : Yields reading p a)
    (hnext : p → Yields (f a) q b) :
    Yields (reading >>= f) (p ∧ q) b where
  ok := by
    rintro ⟨hp, hq⟩
    rw [h.ok hp]
    exact (hnext hp).ok hq
  malformed := by
    intro hpq
    by_cases hp : p
    · rw [h.ok hp]
      exact (hnext hp).malformed (fun hq => hpq ⟨hp, hq⟩)
    · rw [h.malformed hp]
      rfl

/-- What is read is changed afterwards. -/
theorem map
    {reading : Except Fault α} {p : Prop} {a : α}
    (h : Yields reading p a)
    (f : α → β) :
    Yields (reading >>= fun x => pure (f x)) p (f a) :=
  (h.bind fun _ => of_eq_ok (rfl : (pure (f a) : Except Fault β) = .ok (f a))).congr
    (and_iff_left trivial)

/-- Of two checks one after the other, the second is made only if the first passes. -/
theorem andThen
    {check next : Except Fault Unit} {p q : Prop}
    (h : Yields check p ())
    (hnext : Yields next q ()) :
    Yields (match check with | .ok _ => next | .error fault => .error fault) (p ∧ q) () where
  ok := by
    rintro ⟨hp, hq⟩
    rw [h.ok hp]
    exact hnext.ok hq
  malformed := by
    intro hpq
    by_cases hp : p
    · rw [h.ok hp]
      exact hnext.malformed (fun hq => hpq ⟨hp, hq⟩)
    · rw [h.malformed hp]

end Yields

end Yields

/-! ## Values that are not used -/

mutual

/-- A value that is not used is accepted exactly if its numbers can be held. -/
theorem ignore_yields
    (v : Value) :
    Yields (ignore v) (Holdable v) () := by
  cases v with
  | string t => exact (Yields.of_eq_ok rfl).congr (iff_of_true trivial .string)
  | boolean b => exact (Yields.of_eq_ok rfl).congr (iff_of_true trivial .boolean)
  | dateTime => exact (Yields.of_eq_ok rfl).congr (iff_of_true trivial .dateTime)
  | float inRange =>
      cases inRange with
      | true => exact (Yields.of_eq_ok rfl).congr (iff_of_true trivial .float)
      | false => exact ⟨(nomatch ·), fun _ => rfl⟩
  | integer n =>
      have hbounds : Holdable (.integer n) ↔ isHoldable n = true := by
        constructor
        · intro h
          cases h with
          | integer hlow hhigh => simpa [isHoldable] using And.intro hlow hhigh
        · intro h
          have hboth : -2 ^ 127 ≤ n ∧ n < 2 ^ 128 := by simpa [isHoldable] using h
          exact .integer hboth.1 hboth.2
      rw [hbounds, ignore]
      exact ⟨fun h => if_pos h, fun h => if_neg h⟩
  | array items => exact (ignoreItems_yields items).congr holdable_array_iff.symm
  | table entries => exact (ignoreEntries_yields entries).congr holdable_table_iff.symm

theorem ignoreItems_yields
    (items : List Value) :
    Yields (ignoreItems items) (∀ v ∈ items, Holdable v) () := by
  cases items with
  | nil => exact (Yields.of_eq_ok rfl).congr (iff_of_true trivial (List.forall_mem_nil _))
  | cons v items =>
      have hboth := (ignore_yields v).andThen (ignoreItems_yields items)
      rw [ignoreItems, List.forall_mem_cons]
      exact hboth

theorem ignoreEntries_yields
    (entries : Table) :
    Yields (ignoreEntries entries) (∀ entry ∈ entries, Holdable entry.2) () := by
  cases entries with
  | nil => exact (Yields.of_eq_ok rfl).congr (iff_of_true trivial (List.forall_mem_nil _))
  | cons entry entries =>
      have hboth := (ignore_yields entry.2).andThen (ignoreEntries_yields entries)
      rw [ignoreEntries, List.forall_mem_cons]
      exact hboth

end

/-! ## Entries of a record -/

theorem checkEntries_yields
    {check : Text → Decoder Unit} {entries : Table} {p : Text × Value → Prop}
    (h : ∀ entry ∈ entries, Yields (check entry.1 entry.2) (p entry) ()) :
    Yields (Record.checkEntries check entries) (∀ entry ∈ entries, p entry) () := by
  induction entries with
  | nil => exact (Yields.of_eq_ok rfl).congr (iff_of_true trivial (List.forall_mem_nil _))
  | cons entry entries ih =>
      obtain ⟨hentry, hentries⟩ := List.forall_mem_cons.1 h
      rw [Record.checkEntries, List.forall_mem_cons]
      exact hentry.andThen (ih hentries)

/-- A field passes its check when it can be read. -/
theorem checkField_yields
    {α : Type} {fields : List Field} {name : Text} {decode : Decoder α} {v : Value} {p : Prop}
    {a : α}
    (hnames : (fields.map Field.name).Nodup)
    (hfield : field name decode ∈ fields)
    (h : Yields (decode v) p a) :
    Yields (checkField fields name v) p () := by
  have hcheck : checkField fields name v = (decode v).map fun _ => () :=
    checkField_of_mem hnames hfield v
  rw [hcheck]
  constructor
  · intro hp
    rw [h.ok hp]
    rfl
  · intro hp
    rw [h.malformed hp]
    rfl

theorem checkField_eq_ok_of_mem
    {α : Type} {fields : List Field} {name : Text} {decode : Decoder α} {v : Value} {a : α}
    (hnames : (fields.map Field.name).Nodup)
    (hfield : field name decode ∈ fields)
    (h : decode v = .ok a) :
    checkField fields name v = .ok () :=
  (checkField_yields hnames hfield (.of_eq_ok h)).ok trivial

/-- A key that is no field is ignored. -/
theorem checkField_other
    {fields : List Field} {key : Text}
    (hkey : key ∉ fields.map Field.name) :
    checkField fields key = ignore := by
  induction fields with
  | nil => rfl
  | cons f fields ih =>
      obtain ⟨hne, hkey⟩ := not_or.1 (mt List.mem_cons.2 hkey)
      rw [checkField, if_neg (Ne.symm hne), ih hkey]

/-- With different keys, an entry is found under its key. -/
theorem lookup_eq_some_iff_mem
    {α : Type} {entries : List (Text × α)} {key : Text} {value : α}
    (hkeys : (entries.map Prod.fst).Nodup) :
    entries.lookup key = some value ↔ (key, value) ∈ entries := by
  refine ⟨mem_of_lookup, ?_⟩
  intro hmem
  induction entries with
  | nil => cases hmem
  | cons first entries ih =>
      obtain ⟨hfresh, hkeys⟩ := List.nodup_cons.1 hkeys
      rw [lookup_cons_eq]
      rcases List.mem_cons.1 hmem with rfl | hmem
      · exact if_pos rfl
      · rw [if_neg (fst_ne_of_mem hfresh hmem), ih hkeys hmem]

/--
A value that shows a record: a table with the entries of the record among others with
other keys, or the array of the values of the record.
-/
inductive Shows (names : List Text) (entries : Table) : Value → Prop
  | table {table : Table}
      (hkeys : (table.map Prod.fst).Nodup)
      (hentries : ∀ entry, entry ∈ entries ↔ entry ∈ table ∧ entry.1 ∈ names) :
      Shows names entries (.table table)
  | array :
      Shows names entries (.array (entries.map Prod.snd))

/-- The values of a record under keys that are no fields of it. -/
def additional (names : List Text) : Value → List Value
  | .table entries => (entries.filter fun entry => entry.1 ∉ names).map Prod.snd
  | _ => []

/-- The entries of a record and others, in any order, show the record. -/
theorem shows_of_perm
    {names : List Text} {entries others table : Table}
    (hperm : table.Perm (entries ++ others))
    (hkeys : (table.map Prod.fst).Nodup)
    (hentries : ∀ entry ∈ entries, entry.1 ∈ names)
    (hothers : ∀ entry ∈ others, entry.1 ∉ names) :
    Shows names entries (.table table) := by
  refine .table hkeys ?_
  intro entry
  rw [hperm.mem_iff, List.mem_append]
  constructor
  · intro hmem
    exact ⟨Or.inl hmem, hentries entry hmem⟩
  · rintro ⟨hmem, hname⟩
    exact hmem.resolve_right fun hother => hothers entry hother hname

/-- The entries of the first fields, and nothing else, show the record. -/
theorem shows_of_initial
    {names : List Text} {entries : Table}
    (hnames : names.Nodup)
    (hinitial : entries.map Prod.fst <+: names) :
    Shows names entries (.table entries) := by
  have hentries : ∀ entry ∈ entries, entry.1 ∈ names :=
    fun entry hmem => hinitial.subset (List.mem_map_of_mem hmem)
  have hkeys : (entries.map Prod.fst).Nodup := hinitial.sublist.nodup hnames
  refine shows_of_perm ?_ hkeys hentries (List.forall_mem_nil _)
  rw [List.append_nil]

/-- The entries of the first fields have no additional values among them. -/
theorem additional_eq_nil
    {names : List Text} {entries : Table}
    (hinitial : entries.map Prod.fst <+: names) :
    additional names (.table entries) = [] := by
  have hnone : entries.filter (fun entry => entry.1 ∉ names) = [] := by
    refine List.filter_eq_nil_iff.2 ?_
    intro entry hmem
    simpa using hinitial.subset (List.mem_map_of_mem hmem)
  rw [additional, hnone]
  rfl

/-- With a value under each of its fields, a table shows the record of these values. -/
theorem shows_of_lookup
    {names : List Text} {entries table : Table}
    (hkeys : (table.map Prod.fst).Nodup)
    (hnames : entries.map Prod.fst = names)
    (hlookup : ∀ entry ∈ entries, table.lookup entry.1 = some entry.2) :
    Shows names entries (.table table) := by
  subst hnames
  refine .table hkeys ?_
  rintro ⟨key, v⟩
  constructor
  · intro hmem
    exact ⟨mem_of_lookup (hlookup (key, v) hmem), List.mem_map_of_mem hmem⟩
  · rintro ⟨hmem, hname⟩
    obtain ⟨⟨k, value⟩, hentry, rfl⟩ := List.mem_map.1 hname
    have hvalue := hlookup (k, value) hentry
    rw [(lookup_eq_some_iff_mem hkeys).2 hmem] at hvalue
    obtain rfl := Option.some.inj hvalue
    exact hentry

theorem shows_nil
    {names : List Text} {table : Table}
    (hkeys : (table.map Prod.fst).Nodup)
    (hnone : ∀ name ∈ names, name ∉ table.map Prod.fst) :
    Shows names [] (.table table) := by
  refine shows_of_perm (List.Perm.refl table) hkeys (List.forall_mem_nil _) ?_
  intro entry hmem hname
  exact hnone entry.1 hname (List.mem_map_of_mem hmem)

theorem shows_singleton
    {key : Text} {v : Value} {table : Table}
    (hkeys : (table.map Prod.fst).Nodup)
    (hmem : (key, v) ∈ table) :
    Shows [key] [(key, v)] (.table table) := by
  refine .table hkeys ?_
  rintro ⟨k, other⟩
  rw [List.mem_singleton]
  constructor
  · rintro ⟨rfl, rfl⟩
    exact ⟨hmem, List.mem_cons_self⟩
  · rintro ⟨hother, hk⟩
    obtain rfl : k = key := List.mem_singleton.1 hk
    rw [← lookup_eq_some_iff_mem hkeys, (lookup_eq_some_iff_mem hkeys).2 hmem] at hother
    rw [Option.some.inj hother]

theorem zip_keys
    {names : List Text} {entries : Table}
    (hinitial : entries.map Prod.fst <+: names) :
    names.zip (entries.map Prod.snd) = entries := by
  obtain ⟨others, rfl⟩ := hinitial
  induction entries with
  | nil => exact List.zip_nil_right
  | cons entry entries ih => simp [ih]

/--
A record that is shown is read exactly if its entries are and the additional values can be
held.  Then under the names of its fields its entries are found.
-/
theorem readRecord_shows
    (fields : List Field) {entries : Table} {v : Value}
    (hshows : Shows (fields.map Field.name) entries v)
    (hnames : (fields.map Field.name).Nodup)
    (hinitial : entries.map Prod.fst <+: fields.map Field.name)
    {p : Text × Value → Prop}
    (hread : ∀ entry ∈ entries, Yields (checkField fields entry.1 entry.2) (p entry) ()) :
    ∃ r : Record,
      (∀ name ∈ fields.map Field.name, r.entries.lookup name = entries.lookup name) ∧
        Yields (readRecord fields v)
          ((∀ entry ∈ entries, p entry) ∧
            ∀ x ∈ additional (fields.map Field.name) v, Holdable x) r := by
  have hkeys : (entries.map Prod.fst).Nodup := hinitial.sublist.nodup hnames
  cases hshows with
  | @table table htable hentries =>
      refine ⟨⟨table, false⟩, ?_, ?_⟩
      · intro name hname
        refine Option.ext ?_
        intro value
        rw [lookup_eq_some_iff_mem htable, lookup_eq_some_iff_mem hkeys, hentries]
        exact (and_iff_left hname).symm
      · have hcheck :
            ∀ entry ∈ table, Yields (checkField fields entry.1 entry.2)
              (if entry.1 ∈ fields.map Field.name then p entry else Holdable entry.2) () := by
          intro entry hentry
          split
          · next hname => exact hread entry ((hentries entry).2 ⟨hentry, hname⟩)
          · next hname =>
              rw [checkField_other hname]
              exact ignore_yields entry.2
        refine ((checkEntries_yields hcheck).map fun _ => (⟨table, false⟩ : Record)).congr ?_
        constructor
        · intro hall
          refine ⟨?_, ?_⟩
          · intro entry hentry
            obtain ⟨hmem, hname⟩ := (hentries entry).1 hentry
            simpa only [if_pos hname] using hall entry hmem
          · intro x hx
            obtain ⟨entry, hmem, rfl⟩ := List.mem_map.1 hx
            obtain ⟨hmem, hname⟩ := List.mem_filter.1 hmem
            simpa only [if_neg (of_decide_eq_true hname)] using hall entry hmem
        · rintro ⟨hentry, hother⟩ entry hmem
          split
          · next hname => exact hentry entry ((hentries entry).2 ⟨hmem, hname⟩)
          · next hname =>
              exact hother entry.2
                (List.mem_map_of_mem (List.mem_filter.2 ⟨hmem, decide_eq_true hname⟩))
  | array =>
      refine ⟨⟨entries, true⟩, fun _ _ => rfl, ?_⟩
      have hvalue :
          Record.ofValue (fields.map Field.name) (.array (entries.map Prod.snd)) =
            .ok ⟨entries, true⟩ := by
        rw [Record.ofValue, zip_keys hinitial]
      unfold readRecord
      rw [hvalue, ok_bind]
      refine ((checkEntries_yields hread).map fun _ => (⟨entries, true⟩ : Record)).congr ?_
      simp [additional]

/-- A record whose entries can all be read is read if the additional values can be held. -/
theorem readRecord_shows_ok
    (fields : List Field) {entries : Table} {v : Value}
    (hshows : Shows (fields.map Field.name) entries v)
    (hnames : (fields.map Field.name).Nodup)
    (hinitial : entries.map Prod.fst <+: fields.map Field.name)
    (hread : ∀ entry ∈ entries, checkField fields entry.1 entry.2 = .ok ()) :
    ∃ r : Record,
      (∀ name ∈ fields.map Field.name, r.entries.lookup name = entries.lookup name) ∧
        Yields (readRecord fields v)
          (∀ x ∈ additional (fields.map Field.name) v, Holdable x) r := by
  obtain ⟨r, hlookup, hrecord⟩ :=
    readRecord_shows fields hshows hnames hinitial (p := fun _ => True)
      fun entry hentry => .of_eq_ok (hread entry hentry)
  exact ⟨r, hlookup, hrecord.congr (and_iff_right fun _ _ => trivial)⟩

/-! ## Fields -/

section Fields

variable {α : Type} {r : Record} {name : Text}

theorem required_of_lookup
    {v : Value}
    (hlookup : r.entries.lookup name = some v)
    (decode : Decoder α) :
    r.required name decode = decode v := by
  rw [Record.required, hlookup]

/-- A field that must be there is read from what stands under its name. -/
theorem required_eq_ok_iff
    {decode : Decoder α} {a : α} :
    r.required name decode = .ok a ↔ ∃ v, r.entries.lookup name = some v ∧ decode v = .ok a := by
  rw [Record.required]
  cases r.entries.lookup name with
  | none => simp
  | some v => simp

theorem optional_of_lookup_eq_some
    {v : Value}
    (hlookup : r.entries.lookup name = some v)
    (decode : Decoder α) (default : α) :
    r.optional name decode default = decode v := by
  rw [Record.optional, hlookup]

theorem optional_of_lookup_eq_none
    (hlookup : r.entries.lookup name = none)
    (decode : Decoder α) (default : α) :
    r.optional name decode default = .ok default := by
  rw [Record.optional, hlookup]

end Fields

/-! ## Documents -/

theorem decodeDocument_eq_ok_iff
    {α : Type} {decode : Decoder α} {t : Text} {a : α} :
    decodeDocument decode t = .ok a ↔
      ∃ table, readDocument? t = some table ∧ decode (.table table) = .ok a := by
  rw [decodeDocument]
  cases readDocument? t with
  | none => simp
  | some table => simp

/-! ## Lists of records -/

section Lists

variable {α : Type} {decode : Decoder α} {IsShown : α → Value → Prop} {key : Text}

/-- Values are read one after another, and the first one that cannot be read decides. -/
theorem decodeItems_yields
    {p : Value → Prop} {list : List α} {values : List Value}
    (h : List.Forall₂ (fun a v => Yields (decode v) (p v) a) list values) :
    Yields (decodeItems decode values) (∀ v ∈ values, p v) list := by
  induction h with
  | nil => exact (Yields.of_eq_ok rfl).congr (iff_of_true trivial (List.forall_mem_nil _))
  | @cons a v list values hv hrest ih =>
      rw [List.forall_mem_cons]
      exact hv.bind fun _ => ih.map fun others => a :: others

/-- Read the list of records that a table has under a key. -/
def decodeRecords (key : Text) (decode : Decoder α) : Decoder (List α) := fun v => do
  let r ← readRecord [field key (decodeList decode)] v
  r.optional key (decodeList decode) []

/-- A table that shows a list under a key; the list may be left out if it is empty. -/
inductive ShowsList (IsShown : α → Value → Prop) (key : Text) : List α → Table → Prop
  | absent {table : Table}
      (hkeys : (table.map Prod.fst).Nodup)
      (hnone : key ∉ table.map Prod.fst) :
      ShowsList IsShown key [] table
  | listed {table : Table} {list : List α} {values : List Value}
      (hkeys : (table.map Prod.fst).Nodup)
      (hmem : (key, .array values) ∈ table)
      (hvalues : List.Forall₂ IsShown list values) :
      ShowsList IsShown key list table

/-- The elements of the array that a table has under a key. -/
def elements (key : Text) (table : Table) : List Value :=
  match table.lookup key with
  | some (.array values) => values
  | _ => []

/-- The values in a table, and in the records listed under a key of it, that are not used. -/
def allAdditional (names : List Text) (key : Text) (table : Table) : List Value :=
  additional [key] (.table table) ++ (elements key table).flatMap (additional names)

theorem elements_eq
    {table : Table} {values : List Value}
    (hkeys : (table.map Prod.fst).Nodup)
    (hmem : (key, .array values) ∈ table) :
    elements key table = values := by
  rw [elements, (lookup_eq_some_iff_mem hkeys).2 hmem]

/-- A list of records that is shown is read exactly if all additional values can be held. -/
theorem decodeRecords_shows
    {names : List Text} {list : List α} {table : Table}
    (hdecode : ∀ a v, IsShown a v →
      Yields (decode v) (∀ x ∈ additional names v, Holdable x) a)
    (hshows : ShowsList IsShown key list table) :
    Yields (decodeRecords key decode (.table table))
      (∀ x ∈ allAdditional names key table, Holdable x) list := by
  have hnames : ([field key (decodeList decode)].map Field.name).Nodup := List.nodup_singleton key
  rw [allAdditional, List.forall_mem_append]
  cases hshows with
  | absent hkeys hnone =>
      have hempty : Shows [key] [] (.table table) :=
        shows_nil hkeys (List.forall_mem_singleton.2 hnone)
      obtain ⟨r, hlookup, hrecord⟩ :=
        readRecord_shows_ok [field key (decodeList decode)] hempty hnames List.nil_prefix
          (List.forall_mem_nil _)
      have hnext : Yields (r.optional key (decodeList decode) []) True [] :=
        .of_eq_ok (optional_of_lookup_eq_none (hlookup key List.mem_cons_self) _ _)
      refine (hrecord.bind fun _ => hnext).congr ?_
      simp [elements, lookup_eq_none hnone, field]
  | @listed _ _ values hkeys hmem hvalues =>
      have hlist : Shows [key] [(key, .array values)] (.table table) := shows_singleton hkeys hmem
      have hread : Yields (decodeList decode (.array values))
          (∀ v ∈ values, ∀ x ∈ additional names v, Holdable x) list :=
        decodeItems_yields (hvalues.imp fun a v => hdecode a v)
      have hcheck := checkField_yields hnames List.mem_cons_self hread
      obtain ⟨r, hlookup, hrecord⟩ :=
        readRecord_shows [field key (decodeList decode)] hlist hnames (List.prefix_refl _)
          (p := fun _ => ∀ v ∈ values, ∀ x ∈ additional names v, Holdable x)
          (List.forall_mem_singleton.2 hcheck)
      have hlookup : r.entries.lookup key = some (.array values) := by
        rw [hlookup key List.mem_cons_self, lookup_cons_eq, if_pos rfl]
      rw [← optional_of_lookup_eq_some hlookup (decodeList decode) []] at hread
      refine (hrecord.bind fun _ => hread).congr ?_
      rw [elements_eq hkeys hmem, List.forall_mem_singleton, List.forall_mem_flatMap]
      constructor
      · rintro ⟨⟨hvalues, htable⟩, -⟩
        exact ⟨htable, hvalues⟩
      · rintro ⟨htable, hvalues⟩
        exact ⟨⟨hvalues, htable⟩, hvalues⟩

end Lists

end Toml
end TeachingEditor
