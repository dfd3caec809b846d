import TeachingEditor.Toml.Section
import Mathlib

/-!
# Tables of plain documents

In a plain document every header opens a table of the document itself and every
setting has one key.  If no key occurs twice in a table, the document describes the
tables that its lines list, and the order of the lines is forgotten.

**Algorithm.**  A table is known by two facts: what is found under each key, and
that it has no entries but those listed (`Lists`).  Putting entries with new keys into
their places establishes both (`lookup_fill`, `mem_fill`), whatever these places are.

**Results.**  `tableOf?_sections`: the table of a plain document lists its sections,
and each of them lists its settings.
-/

namespace TeachingEditor
namespace Toml

section Entries

variable {α : Type}

theorem lookup_cons_eq
    (key : Text) (value : α) (entries : List (Text × α)) (k : Text) :
    ((key, value) :: entries).lookup k = if k = key then some value else entries.lookup k := by
  by_cases hk : k = key
  · simp [hk]
  · have hbeq : (k == key) = false := beq_eq_false_iff_ne.2 hk
    simp [List.lookup_cons, hbeq, hk]

theorem lookup_putEntry
    (key : Text) (value : α) (entries : List (Text × α)) (k : Text) :
    (putEntry key value entries).lookup k =
      if k = key then some value else entries.lookup k := by
  induction entries with
  | nil => exact lookup_cons_eq key value [] k
  | cons entry entries ih =>
      obtain ⟨first, v⟩ := entry
      unfold putEntry
      split
      · exact lookup_cons_eq key value _ k
      · split
        · next hfirst =>
            subst hfirst
            simp only [lookup_cons_eq]
            split
            · rfl
            · rfl
        · next hfirst =>
            simp only [lookup_cons_eq, ih]
            by_cases hk : k = first
            · subst hk
              simp [Ne.symm hfirst]
            · simp [hk]

theorem mem_putEntry
    {key : Text} {value : α} {entries : List (Text × α)} {entry : Text × α}
    (hmem : entry ∈ putEntry key value entries) :
    entry = (key, value) ∨ entry ∈ entries := by
  induction entries with
  | nil => exact Or.inl (List.mem_singleton.1 hmem)
  | cons first entries ih =>
      unfold putEntry at hmem
      split at hmem
      · exact List.mem_cons.1 hmem
      · split at hmem
        · exact (List.mem_cons.1 hmem).imp_right (List.mem_cons_of_mem first)
        · rcases List.mem_cons.1 hmem with rfl | hmem
          · exact Or.inr List.mem_cons_self
          · exact (ih hmem).imp_right (List.mem_cons_of_mem first)

/-- An entry with a new key is put between the others. -/
theorem putEntry_perm
    {key : Text} {entries : List (Text × α)}
    (hnew : key ∉ entries.map Prod.fst)
    (value : α) :
    (putEntry key value entries).Perm ((key, value) :: entries) := by
  induction entries with
  | nil => exact List.Perm.refl _
  | cons first entries ih =>
      obtain ⟨hne, hnew⟩ := not_or.1 (mt List.mem_cons.2 hnew)
      unfold putEntry
      split
      · exact List.Perm.refl _
      · exact ((ih hnew).cons first).trans (List.Perm.swap _ _ entries)

/-- Of two entries with one key, the last one stays. -/
theorem putEntry_putEntry
    (key : Text) (value other : α) (entries : List (Text × α)) :
    putEntry key value (putEntry key other entries) = putEntry key value entries := by
  induction entries with
  | nil => simp [putEntry]
  | cons first entries ih =>
      by_cases hbefore : key < first.1
      · simp [putEntry, hbefore]
      · by_cases hsame : key = first.1
        · simp [putEntry, hsame]
        · simp [putEntry, hbefore, hsame, ih]

/-- Put entries into their places one after another. -/
def fill : List (Text × α) → List (Text × α) → List (Text × α)
  | [], entries => entries
  | (key, value) :: pairs, entries => fill pairs (putEntry key value entries)

theorem mem_fill
    {pairs entries : List (Text × α)} {entry : Text × α}
    (hmem : entry ∈ fill pairs entries) :
    entry ∈ pairs ∨ entry ∈ entries := by
  induction pairs generalizing entries with
  | nil => exact Or.inr hmem
  | cons pair pairs ih =>
      rcases ih hmem with hmem | hmem
      · exact Or.inl (List.mem_cons_of_mem pair hmem)
      · rcases mem_putEntry hmem with rfl | hmem
        · exact Or.inl List.mem_cons_self
        · exact Or.inr hmem

theorem fill_append
    (first second entries : List (Text × α)) :
    fill (first ++ second) entries = fill second (fill first entries) := by
  induction first generalizing entries with
  | nil => rfl
  | cons pair first ih => exact ih (putEntry pair.1 pair.2 entries)

/-- Entries with different new keys are put between the others. -/
theorem fill_perm
    {pairs entries : List (Text × α)}
    (hnodup : ((pairs ++ entries).map Prod.fst).Nodup) :
    (fill pairs entries).Perm (pairs ++ entries) := by
  induction pairs generalizing entries with
  | nil => exact List.Perm.refl _
  | cons pair pairs ih =>
      have hmiddle : (pair :: pairs ++ entries).Perm (pairs ++ pair :: entries) :=
        List.perm_middle.symm
      have hnew : pair.1 ∉ entries.map Prod.fst := by
        intro hmem
        have hfresh := (List.nodup_cons.1 hnodup).1
        exact hfresh (by simpa using Or.inr (by simpa using hmem))
      have hput := putEntry_perm hnew pair.2
      have hrest := (hput.append_left pairs).trans hmiddle.symm
      exact (ih ((hrest.map Prod.fst).nodup_iff.2 hnodup)).trans hrest

theorem fst_ne_of_mem
    {key : Text} {pairs : List (Text × α)} {pair : Text × α}
    (hfresh : key ∉ pairs.map Prod.fst)
    (hpair : pair ∈ pairs) :
    pair.1 ≠ key := by
  rintro rfl
  exact hfresh (List.mem_map_of_mem hpair)

theorem lookup_eq_none
    {key : Text} {pairs : List (Text × α)}
    (hfresh : key ∉ pairs.map Prod.fst) :
    pairs.lookup key = none := by
  rw [List.lookup_eq_none_iff]
  intro pair hpair
  simpa using (fst_ne_of_mem hfresh hpair).symm

/-- With different keys, the place of an entry does not matter for finding it. -/
theorem lookup_fill
    {pairs : List (Text × α)}
    (hnodup : (pairs.map Prod.fst).Nodup)
    (entries : List (Text × α)) (k : Text) :
    (fill pairs entries).lookup k = (pairs.lookup k).or (entries.lookup k) := by
  induction pairs generalizing entries with
  | nil => rfl
  | cons pair pairs ih =>
      obtain ⟨key, value⟩ := pair
      obtain ⟨hfresh, htail⟩ := List.nodup_cons.1 hnodup
      rw [fill, ih htail, lookup_putEntry, lookup_cons_eq]
      by_cases hk : k = key
      · rw [if_pos hk, if_pos hk, hk, lookup_eq_none hfresh]
        rfl
      · simp [hk]

/-- Entries that hold just what a list of pairs holds. -/
structure Lists (entries pairs : List (Text × α)) : Prop where
  lookup_eq : ∀ k, entries.lookup k = pairs.lookup k
  mem : ∀ entry ∈ entries, entry ∈ pairs

theorem lists_fill
    {pairs : List (Text × α)}
    (hnodup : (pairs.map Prod.fst).Nodup) :
    Lists (fill pairs []) pairs where
  lookup_eq := by
    intro k
    rw [lookup_fill hnodup]
    simp
  mem := by
    intro entry hmem
    exact (mem_fill hmem).resolve_right List.not_mem_nil

variable {β γ : Type}

/-- Change the values of entries and keep their keys. -/
def mapValues (f : α → β) (pairs : List (Text × α)) : List (Text × β) :=
  pairs.map fun pair => (pair.1, f pair.2)

@[simp] theorem mapValues_keys
    (f : α → β) (pairs : List (Text × α)) :
    (mapValues f pairs).map Prod.fst = pairs.map Prod.fst := by
  simp [mapValues]

theorem mapValues_mapValues
    (g : β → γ) (f : α → β) (pairs : List (Text × α)) :
    mapValues g (mapValues f pairs) = mapValues (fun value => g (f value)) pairs := by
  simp [mapValues]

theorem lookup_mapValues
    (f : α → β) (pairs : List (Text × α)) (k : Text) :
    (mapValues f pairs).lookup k = (pairs.lookup k).map f := by
  induction pairs with
  | nil => rfl
  | cons pair pairs ih =>
      obtain ⟨key, value⟩ := pair
      unfold mapValues at ih ⊢
      rw [List.map_cons, lookup_cons_eq, lookup_cons_eq, ih]
      split
      · rfl
      · rfl

theorem Lists.mapValues
    {entries pairs : List (Text × α)}
    (h : Lists entries pairs)
    (f : α → β) :
    Lists (mapValues f entries) (mapValues f pairs) where
  lookup_eq := by
    intro k
    rw [lookup_mapValues, lookup_mapValues, h.lookup_eq]
  mem := by
    intro entry hmem
    obtain ⟨source, hsource, rfl⟩ := List.mem_map.1 hmem
    exact List.mem_map_of_mem (h.mem source hsource)

end Entries

theorem sealEntries_eq
    (entries : Entries) :
    sealEntries entries = mapValues Node.seal entries := by
  induction entries with
  | nil => rfl
  | cons entry entries ih =>
      obtain ⟨key, node⟩ := entry
      rw [sealEntries, ih]
      rfl

theorem mapValues_putEntry
    {α β : Type}
    (f : α → β) (key : Text) (value : α) (entries : List (Text × α)) :
    mapValues f (putEntry key value entries) = putEntry key (f value) (mapValues f entries) := by
  induction entries with
  | nil => rfl
  | cons first entries ih =>
      have hcons : mapValues f (first :: entries) = (first.1, f first.2) :: mapValues f entries :=
        rfl
      rw [hcons, putEntry, putEntry]
      split
      · rfl
      · split
        · rfl
        · rw [← ih]
          rfl

theorem mapValues_fill
    {α β : Type}
    (f : α → β) (pairs entries : List (Text × α)) :
    mapValues f (fill pairs entries) = fill (mapValues f pairs) (mapValues f entries) := by
  induction pairs generalizing entries with
  | nil => rfl
  | cons pair pairs ih =>
      rw [fill, ih, mapValues_putEntry]
      rfl

/-! ## Plain documents -/

/-- The setting of one key. -/
def plainSetting (pair : Text × Value) : Setting :=
  ⟨[], pair.1, pair.2⟩

/-- The header of a table of the document. -/
def plainHeader (key : Text) : Header :=
  ⟨[], key, false⟩

/-- The entries that settings make. -/
def settingEntries (settings : List (Text × Value)) : Entries :=
  fill (mapValues Node.value settings) []

/-- The finished table of a section. -/
def sectionTable (settings : List (Text × Value)) : Table :=
  sealEntries (settingEntries settings)

/-- The table of a section has its settings in their places. -/
theorem sectionTable_eq_fill
    (settings : List (Text × Value)) :
    sectionTable settings = fill settings [] := by
  have hsame : mapValues (fun v => (Node.value v).seal) settings = settings := by
    simp [mapValues, Node.seal]
  rw [sectionTable, settingEntries, sealEntries_eq, mapValues_fill, mapValues_mapValues, hsame]
  rfl

/-- The table of a section lists its settings. -/
theorem lists_sectionTable
    {settings : List (Text × Value)}
    (hnodup : (settings.map Prod.fst).Nodup) :
    Lists (sectionTable settings) settings := by
  rw [sectionTable_eq_fill]
  exact lists_fill hnodup

/-- The table of a section has the entries of its settings, in another order. -/
theorem sectionTable_perm
    {settings : List (Text × Value)}
    (hnodup : (settings.map Prod.fst).Nodup) :
    (sectionTable settings).Perm settings := by
  have hperm : (fill settings []).Perm (settings ++ []) := fill_perm (by simpa using hnodup)
  rw [sectionTable_eq_fill]
  simpa using hperm

/-- The setting of a new key is put into its place. -/
theorem assign?_plain
    {key : Text} {entries : Entries}
    (hkey : entries.lookup key = none)
    (v : Value) :
    assign? .header entries false key v [] = some (putEntry key (.value v) entries) := by
  simp [assign?, hkey]

theorem assignAll?_plain
    {settings : List (Text × Value)} {entries : Entries}
    (hnodup : (settings.map Prod.fst).Nodup)
    (hnew : ∀ pair ∈ settings, entries.lookup pair.1 = none) :
    assignAll? (settings.map plainSetting) entries =
      some (fill (mapValues Node.value settings) entries) := by
  induction settings generalizing entries with
  | nil => rfl
  | cons pair settings ih =>
      obtain ⟨key, v⟩ := pair
      obtain ⟨hfresh, htail⟩ := List.nodup_cons.1 hnodup
      have hassign := assign?_plain (hnew (key, v) List.mem_cons_self) v
      have hrest : ∀ pair ∈ settings, (putEntry key (.value v) entries).lookup pair.1 = none := by
        intro pair hpair
        rw [lookup_putEntry, if_neg (fst_ne_of_mem hfresh hpair)]
        exact hnew pair (List.mem_cons_of_mem _ hpair)
      rw [List.map_cons, assignAll?]
      simp only [plainSetting]
      rw [hassign, Option.bind_some]
      exact ih htail hrest

/-- Settings with different keys make their entries in a new table. -/
theorem assignAll?_new
    {settings : List (Text × Value)}
    (hnodup : (settings.map Prod.fst).Nodup) :
    assignAll? (settings.map plainSetting) [] = some (settingEntries settings) :=
  assignAll?_plain hnodup fun _ _ => rfl

/-- The sections of a plain document: the key of each, and its settings. -/
abbrev Sections := List (Text × List (Text × Value))

namespace Sections

/-- The statements of a plain document. -/
def statements : Sections → List Statement
  | [] => []
  | (key, settings) :: sections =>
      .header (plainHeader key) ::
        (settings.map (fun pair => .setting (plainSetting pair)) ++ statements sections)

/-- The headers of a plain document, each with the settings behind it. -/
def blocks (sections : Sections) : List (Header × List Setting) :=
  sections.map fun (key, settings) => (plainHeader key, settings.map plainSetting)

/-- No key occurs twice in a table. -/
structure HasDistinctKeys (sections : Sections) : Prop where
  keys : (sections.map Prod.fst).Nodup
  settingKeys : ∀ part ∈ sections, (part.2.map Prod.fst).Nodup

end Sections

theorem groupStatements_settings
    (settings : List (Text × Value)) (rest : List Statement) :
    groupStatements (settings.map (fun pair => .setting (plainSetting pair)) ++ rest) =
      (settings.map plainSetting ++ (groupStatements rest).1, (groupStatements rest).2) := by
  induction settings with
  | nil => rfl
  | cons pair settings ih =>
      rw [List.map_cons, List.cons_append, groupStatements, ih]
      rfl

theorem groupStatements_sections
    (sections : Sections) :
    groupStatements sections.statements = ([], sections.blocks) := by
  induction sections with
  | nil => rfl
  | cons part sections ih =>
      obtain ⟨key, settings⟩ := part
      rw [Sections.statements, groupStatements, groupStatements_settings, ih]
      simp [Sections.blocks]

/-- The header of a new key opens a table for its settings. -/
theorem enter?_plain
    {key : Text} {settings : List (Text × Value)} {entries : Entries}
    (hkey : entries.lookup key = none)
    (hnodup : (settings.map Prod.fst).Nodup) :
    (plainHeader key).enter? (settings.map plainSetting) entries =
      some (putEntry key (.table .header (settingEntries settings)) entries) := by
  simp [Header.enter?, plainHeader, changeAt?, Header.openIn?, hkey, assignAll?_new hnodup]

theorem enterAll?_plain
    {sections : Sections} {entries : Entries}
    (hdistinct : sections.HasDistinctKeys)
    (hnew : ∀ part ∈ sections, entries.lookup part.1 = none) :
    enterAll? sections.blocks entries =
      some (fill (mapValues (fun settings => .table .header (settingEntries settings)) sections)
        entries) := by
  induction sections generalizing entries with
  | nil => rfl
  | cons part sections ih =>
      obtain ⟨key, settings⟩ := part
      obtain ⟨hfresh, htail⟩ := List.nodup_cons.1 hdistinct.keys
      have henter :=
        enter?_plain (hnew (key, settings) List.mem_cons_self)
          (hdistinct.settingKeys (key, settings) List.mem_cons_self)
      have hrest :
          ∀ part ∈ sections,
            (putEntry key (.table .header (settingEntries settings)) entries).lookup part.1 =
              none := by
        intro part hpart
        rw [lookup_putEntry, if_neg (fst_ne_of_mem hfresh hpart)]
        exact hnew part (List.mem_cons_of_mem _ hpart)
      have hothers : Sections.HasDistinctKeys sections :=
        ⟨htail, fun part hpart => hdistinct.settingKeys part (List.mem_cons_of_mem _ hpart)⟩
      rw [Sections.blocks, List.map_cons, enterAll?]
      simp only
      rw [henter, Option.bind_some]
      exact ih hothers hrest

/-- The table of a plain document lists its sections. -/
theorem tableOf?_sections
    {sections : Sections}
    (hdistinct : sections.HasDistinctKeys) :
    ∃ table,
      tableOf? sections.statements = some table ∧
      Lists table (mapValues (fun settings => .table (sectionTable settings)) sections) := by
  have hnew : ∀ part ∈ sections, List.lookup part.1 ([] : Entries) = none :=
    fun _ _ => rfl
  have henter := enterAll?_plain hdistinct hnew
  have hkeys :
      ((mapValues (fun settings => Node.table .header (settingEntries settings)) sections).map
        Prod.fst).Nodup := by
    rw [mapValues_keys]
    exact hdistinct.keys
  have hlists := (lists_fill hkeys).mapValues Node.seal
  rw [mapValues_mapValues] at hlists
  refine ⟨_, ?_, hlists⟩
  rw [tableOf?, groupStatements_sections]
  simp only [assignAll?, Option.bind_some, henter, Option.map_some, sealEntries_eq]

end Toml
end TeachingEditor
