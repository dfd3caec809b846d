import TeachingEditor.Proofs.Toml.Draft
import TeachingEditor.Proofs.Toml.Record

/-!
# Written records

A document that shows a list of records still shows it when all keys have been put into
their places, as the reader does.  So the text of a draft is read as the list that its
entries show.

**Algorithm.**  Arranging a table keeps its entries, up to their order, and arranges their
values (`arrangedTable_perm`).  What is shown depends on entries only (`Shows.arrange`), and so
do the additional values (`mem_additional_arrange`).  A draft can be written when the
additional values can: the values of the fields are never nested deeply.

**Results.**
* `Presents.decodeDocument_yields`: a list that is presented, by the table of any document or
  by a draft, comes back exactly if the values that are not used can be held.
* `PresentsRecord.decodeDocument_yields`: the same for a document that is itself a record.
-/

namespace TeachingEditor
namespace Toml

/-! ## Arranged values -/

/-- The entries of a table, arranged and in their places. -/
def arrangedTable (entries : Table) : Table :=
  sectionTable (arrangeEntries entries)

theorem arrange_table
    (entries : Table) :
    arrange (.table entries) = .table (arrangedTable entries) := by
  rw [arrange, arrangedTable]

variable {entries : Table}

/-- An arranged table has the arranged entries, in some order. -/
theorem arrangedTable_perm
    (hkeys : (entries.map Prod.fst).Nodup) :
    (arrangedTable entries).Perm (mapValues arrange entries) := by
  rw [arrangedTable, arrangeEntries_eq]
  exact sectionTable_perm (by rwa [mapValues_keys])

theorem arrangedTable_keys_perm
    (hkeys : (entries.map Prod.fst).Nodup) :
    ((arrangedTable entries).map Prod.fst).Perm (entries.map Prod.fst) := by
  have hperm := (arrangedTable_perm hkeys).map Prod.fst
  rwa [mapValues_keys] at hperm

theorem lookup_arrangedTable
    (hkeys : (entries.map Prod.fst).Nodup)
    (key : Text) :
    (arrangedTable entries).lookup key = (entries.lookup key).map arrange := by
  have hnodup : ((mapValues arrange entries).map Prod.fst).Nodup := by
    rwa [mapValues_keys]
  rw [arrangedTable, arrangeEntries_eq, (lists_sectionTable hnodup).lookup_eq, lookup_mapValues]

/-- Arranging keeps the numbers of a value. -/
theorem holdable_arrange_iff
    {depth : Nat} {v : Value}
    (h : Writable depth v) :
    Holdable (arrange v) ↔ Holdable v := by
  induction h with
  | string => rfl
  | integer => rfl
  | float => rfl
  | boolean => rfl
  | dateTime => rfl
  | @array depth items hitems ih =>
      rw [arrange, arrangeItems_eq, holdable_array_iff, holdable_array_iff, List.forall_mem_map]
      exact forall₂_congr ih
  | @table depth entries hkeys hentries ih =>
      have hmem : (∀ entry ∈ arrangedTable entries, Holdable entry.2) ↔
          ∀ entry ∈ mapValues arrange entries, Holdable entry.2 :=
        forall_congr' fun entry => imp_congr_left (arrangedTable_perm hkeys).mem_iff
      rw [arrange_table, holdable_table_iff, holdable_table_iff, hmem, mapValues,
        List.forall_mem_map]
      exact forall₂_congr ih

/-- Arranging values one by one keeps the numbers of all of them. -/
theorem forall_holdable_arrange_iff
    {depth : Nat} {values arranged : List Value}
    (hmem : ∀ y, y ∈ arranged ↔ ∃ x ∈ values, arrange x = y)
    (hwritable : ∀ x ∈ values, Writable depth x) :
    (∀ y ∈ arranged, Holdable y) ↔ ∀ x ∈ values, Holdable x := by
  constructor
  · intro hall x hx
    exact (holdable_arrange_iff (hwritable x hx)).1 (hall (arrange x) ((hmem _).2 ⟨x, hx, rfl⟩))
  · intro hall y hy
    obtain ⟨x, hx, rfl⟩ := (hmem y).1 hy
    exact (holdable_arrange_iff (hwritable x hx)).2 (hall x hx)

/-! ## Arranged records -/

theorem Shows.arrange
    {names : List Text} {entries : Table} {v : Value}
    (h : Shows names entries v) :
    Shows names (arrangeEntries entries) (Toml.arrange v) := by
  rw [arrangeEntries_eq]
  cases h with
  | @table table hkeys hentries =>
      rw [arrange_table]
      refine .table ((arrangedTable_keys_perm hkeys).nodup_iff.2 hkeys) ?_
      rintro ⟨key, v⟩
      rw [(arrangedTable_perm hkeys).mem_iff]
      simp only [mapValues, List.mem_map, Prod.mk.injEq]
      constructor
      · rintro ⟨source, hmem, rfl, rfl⟩
        obtain ⟨hmem, hname⟩ := (hentries source).1 hmem
        exact ⟨⟨source, hmem, rfl, rfl⟩, hname⟩
      · rintro ⟨⟨source, hmem, rfl, rfl⟩, hname⟩
        exact ⟨source, (hentries source).2 ⟨hmem, hname⟩, rfl, rfl⟩
  | array =>
      have hvalues : Toml.arrange (.array (entries.map Prod.snd)) =
          .array ((mapValues Toml.arrange entries).map Prod.snd) := by
        simp [Toml.arrange, arrangeItems_eq, mapValues]
      rw [hvalues]
      exact .array

/-- The additional values are arranged by themselves. -/
theorem Shows.mem_additional_arrange
    {names : List Text} {entries : Table} {v x : Value}
    (h : Shows names entries v) :
    x ∈ additional names (Toml.arrange v) ↔ ∃ y ∈ additional names v, Toml.arrange y = x := by
  cases h with
  | @table table hkeys hentries =>
      rw [arrange_table]
      simp only [additional, List.mem_map, List.mem_filter, (arrangedTable_perm hkeys).mem_iff,
        mapValues]
      constructor
      · rintro ⟨-, ⟨⟨source, hmem, rfl⟩, hname⟩, rfl⟩
        exact ⟨source.2, ⟨source, ⟨hmem, hname⟩, rfl⟩, rfl⟩
      · rintro ⟨-, ⟨source, ⟨hmem, hname⟩, rfl⟩, rfl⟩
        exact ⟨_, ⟨⟨source, hmem, rfl⟩, hname⟩, rfl⟩
  | array => simp [additional, Toml.arrange]

/-- A record can be written when its entries and the additional values can. -/
theorem Shows.writable
    {names : List Text} {entries : Table} {v : Value} {depth : Nat}
    (h : Shows names entries v)
    (hentries : ∀ entry ∈ entries, Writable depth entry.2)
    (hother : ∀ x ∈ additional names v, Writable depth x) :
    Writable (depth + 1) v := by
  cases h with
  | @table table hkeys hshown =>
      refine .table hkeys ?_
      intro entry hmem
      by_cases hname : entry.1 ∈ names
      · exact hentries entry ((hshown entry).2 ⟨hmem, hname⟩)
      · exact hother entry.2
          (List.mem_map_of_mem (List.mem_filter.2 ⟨hmem, decide_eq_true hname⟩))
  | array =>
      refine .array ?_
      rintro v hv
      obtain ⟨entry, hmem, rfl⟩ := List.mem_map.1 hv
      exact hentries entry hmem

/-! ## Formats of records -/

/--
A format of records: the names of their fields in order, the entries that can stand for
a record, and a reader that gives the record back.  The entries have nothing to arrange
and are not nested deeply.
-/
structure RecordFormat (α : Type) where
  names : List Text
  IsEntries : α → Table → Prop
  decode : Decoder α
  arranged : ∀ {a entries}, IsEntries a entries → arrangeEntries entries = entries
  writable : ∀ {a entries}, IsEntries a entries → ∀ entry ∈ entries, Writable 2 entry.2
  decodes : ∀ {a entries v}, IsEntries a entries → Shows names entries v →
    Yields (decode v) (∀ x ∈ additional names v, Holdable x) a

namespace RecordFormat

variable {α : Type} (f : RecordFormat α)

/-- A value that shows a record of a format. -/
def IsShown (a : α) (v : Value) : Prop :=
  ∃ entries, f.IsEntries a entries ∧ Shows f.names entries v

variable {f} {a : α} {v : Value} {key : Text} {list : List α} {table : Table}

theorem IsShown.arrange
    (h : f.IsShown a v) :
    f.IsShown a (Toml.arrange v) := by
  obtain ⟨entries, hentries, hshows⟩ := h
  refine ⟨entries, hentries, ?_⟩
  have harranged := hshows.arrange
  rwa [f.arranged hentries] at harranged

theorem IsShown.writable
    {depth : Nat}
    (h : f.IsShown a v)
    (hother : ∀ x ∈ additional f.names v, Writable (depth + 2) x) :
    Writable (depth + 3) v := by
  obtain ⟨entries, hentries, hshows⟩ := h
  refine hshows.writable ?_ hother
  intro entry hmem
  exact (f.writable hentries entry hmem).mono (Nat.le_add_left 2 depth)

/-! ## Lists of records -/

theorem exists_isShown
    {values : List Value}
    (h : List.Forall₂ f.IsShown list values) :
    ∀ v ∈ values, ∃ a, f.IsShown a v := by
  induction h with
  | nil => exact fun _ hmem => absurd hmem List.not_mem_nil
  | @cons a v list values hv hvalues ih => exact List.forall_mem_cons.2 ⟨⟨a, hv⟩, ih⟩

end RecordFormat

theorem elements_arrangedTable
    (hkeys : (entries.map Prod.fst).Nodup)
    (key : Text) :
    elements key (arrangedTable entries) = (elements key entries).map arrange := by
  unfold elements
  rw [lookup_arrangedTable hkeys]
  cases entries.lookup key with
  | none => rfl
  | some v =>
      cases v with
      | array values => rw [Option.map_some, arrange, arrangeItems_eq]
      | table inner => rw [Option.map_some, arrange]; rfl
      | string t => rfl
      | integer n => rfl
      | float inRange => rfl
      | boolean b => rfl
      | dateTime => rfl

/-- A draft can be read when its entries are not nested deeper than the reader goes. -/
theorem Draft.isWritable
    {key : Text} (d : Draft)
    (hkeys : ((d.entries key).map Prod.fst).Nodup)
    (hentries : ∀ entry ∈ d.entries key, Writable maxDepth entry.2) :
    d.IsWritable key := by
  have hblock : ∀ block ∈ d.blocks, Writable (maxDepth - 1) (.table block) := by
    intro block hmem
    have hlist : (key, .array (d.blocks.map .table)) ∈ d.entries key := by
      rw [Draft.entries, if_neg (List.ne_nil_of_mem hmem)]
      exact List.mem_append_right _ List.mem_cons_self
    have hwritable : Writable (maxDepth - 1 + 1) (.array (d.blocks.map .table)) :=
      hentries _ hlist
    exact writable_array_iff.1 hwritable _ (List.mem_map_of_mem hmem)
  refine ⟨hkeys, ?_, ?_, ?_⟩
  · intro pair hpair
    exact hentries pair (List.mem_append_left _ hpair)
  · intro block hmem
    have htable : Writable (maxDepth - 2 + 1) (.table block) := hblock block hmem
    exact (writable_table_iff.1 htable).1
  · intro block hmem pair hpair
    have htable : Writable (maxDepth - 2 + 1) (.table block) := hblock block hmem
    exact ((writable_table_iff.1 htable).2 pair hpair).mono (Nat.sub_le _ _)

namespace ShowsList

variable {α : Type} {f : RecordFormat α} {key : Text} {list : List α} {table : Table}

theorem keys_nodup
    (h : ShowsList f.IsShown key list table) :
    (table.map Prod.fst).Nodup := by
  cases h with
  | absent hkeys hnone => exact hkeys
  | listed hkeys hmem hvalues => exact hkeys

theorem exists_shows
    (h : ShowsList f.IsShown key list table) :
    ∃ entries, Shows [key] entries (.table table) := by
  cases h with
  | absent hkeys hnone => exact ⟨_, shows_nil hkeys (List.forall_mem_singleton.2 hnone)⟩
  | listed hkeys hmem hvalues => exact ⟨_, shows_singleton hkeys hmem⟩

/-- Each element of a list that is shown shows a record. -/
theorem exists_isShown
    (h : ShowsList f.IsShown key list table) :
    ∀ v ∈ elements key table, ∃ a, f.IsShown a v := by
  cases h with
  | absent hkeys hnone =>
      intro v hv
      rw [elements, lookup_eq_none hnone] at hv
      cases hv
  | listed hkeys hmem hvalues =>
      rw [elements_eq hkeys hmem]
      exact RecordFormat.exists_isShown hvalues

theorem arrange
    (h : ShowsList f.IsShown key list table) :
    ShowsList f.IsShown key list (arrangedTable table) := by
  have hperm := arrangedTable_keys_perm h.keys_nodup
  have hkeys := hperm.nodup_iff.2 h.keys_nodup
  cases h with
  | absent _ hnone => exact .absent hkeys (mt hperm.mem_iff.1 hnone)
  | @listed _ _ values hnodup hmem hvalues =>
      have hentry : (key, Toml.arrange (.array values)) ∈ arrangedTable table :=
        (arrangedTable_perm hnodup).mem_iff.2 (List.mem_map_of_mem hmem)
      rw [Toml.arrange, arrangeItems_eq] at hentry
      refine .listed hkeys hentry ?_
      exact List.forall₂_map_right_iff.2 (hvalues.imp fun a v hv => hv.arrange)

theorem mem_allAdditional_iff
    {names : List Text} {x : Value} :
    x ∈ allAdditional names key table ↔
      x ∈ additional [key] (.table table) ∨
        ∃ v ∈ elements key table, x ∈ additional names v := by
  rw [allAdditional, List.mem_append, List.mem_flatMap]

/-- All additional values are arranged by themselves. -/
theorem mem_allAdditional_arrange
    (h : ShowsList f.IsShown key list table)
    {x : Value} :
    x ∈ allAdditional f.names key (arrangedTable table) ↔
      ∃ y ∈ allAdditional f.names key table, Toml.arrange y = x := by
  obtain ⟨entries, hshows⟩ := h.exists_shows
  have htable := hshows.mem_additional_arrange (x := x)
  rw [arrange_table] at htable
  have hvalue : ∀ v ∈ elements key table, (x ∈ additional f.names (Toml.arrange v) ↔
      ∃ y ∈ additional f.names v, Toml.arrange y = x) := by
    intro v hv
    obtain ⟨a, inner, -, hinner⟩ := h.exists_isShown v hv
    exact hinner.mem_additional_arrange
  rw [mem_allAdditional_iff, htable, elements_arrangedTable h.keys_nodup]
  simp only [mem_allAdditional_iff, List.mem_map]
  constructor
  · rintro (⟨y, hy, rfl⟩ | ⟨-, ⟨v, hv, rfl⟩, hx⟩)
    · exact ⟨y, Or.inl hy, rfl⟩
    · obtain ⟨y, hy, rfl⟩ := (hvalue v hv).1 hx
      exact ⟨y, Or.inr ⟨v, hv, hy⟩, rfl⟩
  · rintro ⟨y, hy | ⟨v, hv, hy⟩, rfl⟩
    · exact Or.inl ⟨y, hy, rfl⟩
    · exact Or.inr ⟨_, ⟨v, hv, rfl⟩, (hvalue v hv).2 ⟨y, hy, rfl⟩⟩

/-- A table that shows a list can be written when the additional values can. -/
theorem writable
    {depth : Nat}
    (h : ShowsList f.IsShown key list table)
    (hother : ∀ x ∈ allAdditional f.names key table, Writable (depth + 2) x) :
    ∀ entry ∈ table, Writable (depth + 4) entry.2 := by
  rintro ⟨k, v⟩ hentry
  by_cases hk : k = key
  · subst hk
    cases h with
    | absent hkeys hnone => exact absurd (List.mem_map_of_mem hentry) hnone
    | @listed _ _ values hkeys hmem hvalues =>
        have hsame := (lookup_eq_some_iff_mem hkeys).2 hentry
        rw [(lookup_eq_some_iff_mem hkeys).2 hmem] at hsame
        obtain rfl := Option.some.inj hsame
        refine .array ?_
        intro v hv
        obtain ⟨a, ha⟩ := RecordFormat.exists_isShown hvalues v hv
        refine ha.writable ?_
        intro x hx
        refine hother x (mem_allAdditional_iff.2 (Or.inr ⟨v, ?_, hx⟩))
        rwa [elements_eq hkeys hmem]
  · have hadditional : v ∈ additional [key] (.table table) :=
      List.mem_map_of_mem (List.mem_filter.2 ⟨hentry, by simpa using hk⟩)
    exact (hother v (mem_allAdditional_iff.2 (Or.inl hadditional))).mono (by omega)

/-- A draft that shows a list can be read when the additional values are not nested too deep. -/
theorem isWritable
    {d : Draft}
    (h : ShowsList f.IsShown key list (d.entries key))
    (hother : ∀ x ∈ allAdditional f.names key (d.entries key), Writable (maxDepth - 2) x) :
    d.IsWritable key :=
  d.isWritable h.keys_nodup (h.writable hother)

end ShowsList

/-! ## Texts that present a list -/

/--
A text that presents a list of records, and the values in it that are not used: a document
whose table shows the list, or a draft that does, in which these values are not nested too
deep to be written.
-/
inductive Presents {α : Type} (f : RecordFormat α) (key : Text) (list : List α) :
    List Value → Text → Prop
  | document {t : Text} {table : Table}
      (hread : readDocument? t = some table)
      (hshows : ShowsList f.IsShown key list table) :
      Presents f key list (allAdditional f.names key table) t
  | draft {d : Draft}
      (hshows : ShowsList f.IsShown key list (d.entries key))
      (hnested : ∀ x ∈ allAdditional f.names key (d.entries key), Writable (maxDepth - 2) x) :
      Presents f key list (allAdditional f.names key (d.entries key)) (d.text key)

section Presents

variable {α : Type} {f : RecordFormat α} {key : Text} {list : List α}

/-- A list of records comes back from every document that shows it. -/
theorem decodeDocument_document
    {t : Text} {table : Table}
    (hread : readDocument? t = some table)
    (hshows : ShowsList f.IsShown key list table) :
    Yields (decodeDocument (decodeRecords key f.decode) t)
      (∀ x ∈ allAdditional f.names key table, Holdable x) list := by
  rw [decodeDocument, hread]
  refine decodeRecords_shows ?_ hshows
  rintro a v ⟨entries, hentries, hshown⟩
  exact f.decodes hentries hshown

/-- A list of records comes back from the text of every draft that shows it. -/
theorem decodeDocument_draft
    {d : Draft}
    (hshows : ShowsList f.IsShown key list (d.entries key))
    (hnested : ∀ x ∈ allAdditional f.names key (d.entries key), Writable (maxDepth - 2) x) :
    Yields (decodeDocument (decodeRecords key f.decode) (d.text key))
      (∀ x ∈ allAdditional f.names key (d.entries key), Holdable x) list := by
  have hread : readDocument? (d.text key) = some (arrangedTable (d.entries key)) :=
    Draft.readDocument?_text (hshows.isWritable hnested)
  refine (decodeDocument_document hread hshows.arrange).congr ?_
  exact forall_holdable_arrange_iff (fun _ => hshows.mem_allAdditional_arrange) hnested

/-- A list that a text presents is read from it if the values that are not used can be held. -/
theorem Presents.decodeDocument_yields
    {unused : List Value} {t : Text}
    (h : Presents f key list unused t) :
    Yields (decodeDocument (decodeRecords key f.decode) t) (∀ x ∈ unused, Holdable x) list := by
  cases h with
  | document hread hshows => exact decodeDocument_document hread hshows
  | draft hshows hnested => exact decodeDocument_draft hshows hnested

/-- Where the records have no additional values, a table with their list alone has none. -/
theorem allAdditional_singleton
    {names : List Text} {blocks : List Table}
    (hblocks : ∀ block ∈ blocks, additional names (.table block) = []) :
    allAdditional names key [(key, .array (blocks.map .table))] = [] := by
  have htable : additional [key] (.table [(key, .array (blocks.map .table))]) = [] :=
    additional_eq_nil (List.prefix_refl [key])
  have helements : elements key [(key, .array (blocks.map .table))] = blocks.map .table :=
    elements_eq (List.nodup_singleton key) List.mem_cons_self
  rw [allAdditional, htable, helements, List.nil_append, List.flatMap_eq_nil_iff,
    List.forall_mem_map]
  exact hblocks

/-- Blocks with the entries of the records, and with nothing else, present the list. -/
theorem Presents.blocks
    {write : α → Table}
    (hnames : f.names.Nodup)
    (hwrite : ∀ a ∈ list, f.IsEntries a (write a) ∧ (write a).map Prod.fst <+: f.names) :
    Presents f key list [] (Draft.text key ⟨[], list.map write⟩) := by
  have hshown : List.Forall₂ f.IsShown list ((list.map write).map .table) := by
    rw [List.map_map, List.forall₂_map_right_iff]
    refine List.forall₂_same.2 fun a ha => ?_
    obtain ⟨hentries, hinitial⟩ := hwrite a ha
    exact ⟨write a, hentries, shows_of_initial hnames hinitial⟩
  have hnothing : ∀ block ∈ list.map write, additional f.names (.table block) = [] :=
    List.forall_mem_map.2 fun a ha => additional_eq_nil (hwrite a ha).2
  cases list with
  | nil =>
      have hlist : ShowsList f.IsShown key [] (Draft.entries key ⟨[], []⟩) :=
        .absent List.nodup_nil List.not_mem_nil
      exact .draft hlist (List.forall_mem_nil _)
  | cons a list =>
      have hlist : ShowsList f.IsShown key (a :: list)
          (Draft.entries key ⟨[], (a :: list).map write⟩) :=
        .listed (List.nodup_singleton key) List.mem_cons_self hshown
      have hunused :
          allAdditional f.names key (Draft.entries key ⟨[], (a :: list).map write⟩) = [] :=
        allAdditional_singleton hnothing
      have hpresents := Presents.draft hlist (by rw [hunused]; exact List.forall_mem_nil _)
      rwa [hunused] at hpresents

end Presents

/-! ## Texts that present one record -/

/--
A text that presents one record, and the values in it that are not used: a document whose
table shows the record, or a draft that does, in which these values are not nested too deep
to be written.
-/
inductive PresentsRecord {α : Type} (f : RecordFormat α) (a : α) : List Value → Text → Prop
  | document {t : Text} {table : Table}
      (hread : readDocument? t = some table)
      (hshows : f.IsShown a (.table table)) :
      PresentsRecord f a (additional f.names (.table table)) t
  | draft {key : Text} {d : Draft}
      (hshows : f.IsShown a (.table (d.entries key)))
      (hnested : ∀ x ∈ additional f.names (.table (d.entries key)), Writable maxDepth x) :
      PresentsRecord f a (additional f.names (.table (d.entries key))) (d.text key)

section PresentsRecord

variable {α : Type} {f : RecordFormat α} {a : α}

theorem decodeDocument_record
    {t : Text} {table : Table}
    (hread : readDocument? t = some table)
    (hshows : f.IsShown a (.table table)) :
    Yields (decodeDocument f.decode t)
      (∀ x ∈ additional f.names (.table table), Holdable x) a := by
  obtain ⟨entries, hentries, hshown⟩ := hshows
  rw [decodeDocument, hread]
  exact f.decodes hentries hshown

/-- A draft that shows a record has no key twice, and is nested no deeper than its values. -/
theorem RecordFormat.IsShown.isWritable
    {key : Text} {d : Draft}
    (hshows : f.IsShown a (.table (d.entries key)))
    (hnested : ∀ x ∈ additional f.names (.table (d.entries key)), Writable maxDepth x) :
    d.IsWritable key := by
  have htable : Writable (maxDepth + 1) (.table (d.entries key)) := hshows.writable hnested
  obtain ⟨hkeys, hentries⟩ := writable_table_iff.1 htable
  exact d.isWritable hkeys hentries

/-- A record comes back from the text of every draft that shows it. -/
theorem decodeDocument_recordDraft
    {key : Text} {d : Draft}
    (hshows : f.IsShown a (.table (d.entries key)))
    (hnested : ∀ x ∈ additional f.names (.table (d.entries key)), Writable maxDepth x) :
    Yields (decodeDocument f.decode (d.text key))
      (∀ x ∈ additional f.names (.table (d.entries key)), Holdable x) a := by
  have hread : readDocument? (d.text key) = some (arrangedTable (d.entries key)) :=
    Draft.readDocument?_text (hshows.isWritable hnested)
  have harranged : f.IsShown a (.table (arrangedTable (d.entries key))) :=
    arrange_table (d.entries key) ▸ hshows.arrange
  obtain ⟨entries, -, hshown⟩ := hshows
  refine (decodeDocument_record hread harranged).congr ?_
  refine forall_holdable_arrange_iff (fun x => ?_) hnested
  rw [← arrange_table]
  exact hshown.mem_additional_arrange

/-- A record that a text presents is read from it if the values that are not used can be held. -/
theorem PresentsRecord.decodeDocument_yields
    {unused : List Value} {t : Text}
    (h : PresentsRecord f a unused t) :
    Yields (decodeDocument f.decode t) (∀ x ∈ unused, Holdable x) a := by
  cases h with
  | document hread hshows => exact decodeDocument_record hread hshows
  | draft hshows hnested => exact decodeDocument_recordDraft hshows hnested

/-- A draft that has the entries of the record and nothing else presents it. -/
theorem PresentsRecord.settings
    {entries : Table}
    (key : Text)
    (hnames : f.names.Nodup)
    (hentries : f.IsEntries a entries)
    (hinitial : entries.map Prod.fst <+: f.names) :
    PresentsRecord f a [] (Draft.text key ⟨entries, []⟩) := by
  have htable : Draft.entries key ⟨entries, []⟩ = entries := List.append_nil entries
  have hshows : f.IsShown a (.table (Draft.entries key ⟨entries, []⟩)) := by
    rw [htable]
    exact ⟨entries, hentries, shows_of_initial hnames hinitial⟩
  have hunused : additional f.names (.table (Draft.entries key ⟨entries, []⟩)) = [] := by
    rw [htable]
    exact additional_eq_nil hinitial
  have hpresents := PresentsRecord.draft hshows (by rw [hunused]; exact List.forall_mem_nil _)
  rwa [hunused] at hpresents

end PresentsRecord

end Toml
end TeachingEditor
