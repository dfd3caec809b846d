import TeachingEditor.Text.WordSet
import TeachingEditor.Toml.Document
import TeachingEditor.Proofs.Toml.Section

/-!
# The keys of a document stand in increasing order

In whatever order the lines of a document come, its table has all keys in increasing
order, and so none of them twice.

**Algorithm.**  Whatever a line does to the table of the document, it puts one entry into
its place: a setting does (`exists_putEntry_of_assign?`), and so does a header, whose
settings go into a table further inside (`exists_putEntry_of_enter?`).  The keys of the
entries are a set of words, to which the key of the entry is added (`keys_putEntry`).

**Results.**  `readDocument?_keysIncrease`: the keys of a document that is read increase.
-/

namespace TeachingEditor
namespace Toml

/-- Entries whose keys are all different and stand in increasing order. -/
def KeysIncrease {α : Type} (entries : List (Text × α)) : Prop :=
  (entries.map Prod.fst).Pairwise (· < ·)

section PutEntry

variable {α : Type} {entries : List (Text × α)}

/-- Putting an entry into its place adds its key to the set of keys. -/
theorem keys_putEntry
    (key : Text) (value : α) (entries : List (Text × α)) :
    (putEntry key value entries).map Prod.fst = insertWord key (entries.map Prod.fst) := by
  induction entries with
  | nil => rfl
  | cons entry entries ih =>
      rw [putEntry, List.map_cons, insertWord]
      split
      · rfl
      · split
        · next hsame => rw [List.map_cons, hsame]
        · rw [List.map_cons, ih]

theorem KeysIncrease.putEntry
    (h : KeysIncrease entries)
    (key : Text) (value : α) :
    KeysIncrease (putEntry key value entries) := by
  unfold KeysIncrease
  rw [keys_putEntry]
  exact insertWord_pairwise h

theorem KeysIncrease.nodup
    (h : KeysIncrease entries) :
    (entries.map Prod.fst).Nodup := by
  refine List.Pairwise.imp ?_ h
  intro first second hlt heq
  rw [heq] at hlt
  exact List.lt_irrefl second hlt

end PutEntry

/-! ## Lines of a document -/

/-- A setting puts one entry into the table that it is added to. -/
theorem exists_putEntry_of_assign?
    {origin : Origin} {entries changed : Entries} {reached : Bool} {key : Text} {v : Value}
    {path : List Text}
    (h : assign? origin entries reached key v path = some changed) :
    ∃ k node, changed = putEntry k node entries := by
  cases path with
  | nil =>
      rw [assign?] at h
      split at h
      · exact ⟨key, .value v, (Option.some.inj h).symm⟩
      · cases h
  | cons part path =>
      rw [assign?] at h
      split at h
      · obtain ⟨inner, -, rfl⟩ := Option.map_eq_some_iff.1 h
        exact ⟨part, .table .dotted inner, rfl⟩
      · split at h
        · cases h
        · obtain ⟨inner, -, rfl⟩ := Option.map_eq_some_iff.1 h
          exact ⟨part, _, rfl⟩
      · obtain ⟨last, -, rfl⟩ := Option.map_eq_some_iff.1 h
        exact ⟨part, _, rfl⟩
      · cases h

/-- Opening the table of a header puts one entry into the table around it. -/
theorem exists_putEntry_of_openIn?
    {h : Header} {fill : Entries → Option Entries} {entries changed : Entries}
    (hopen : h.openIn? fill entries = some changed) :
    ∃ k node, changed = putEntry k node entries := by
  rw [Header.openIn?] at hopen
  split at hopen
  · obtain ⟨inner, -, rfl⟩ := Option.map_eq_some_iff.1 hopen
    exact ⟨h.key, _, rfl⟩
  · split at hopen
    · cases hopen
    · obtain ⟨inner, -, rfl⟩ := Option.map_eq_some_iff.1 hopen
      exact ⟨h.key, _, rfl⟩
  · split at hopen
    · obtain ⟨inner, -, rfl⟩ := Option.map_eq_some_iff.1 hopen
      exact ⟨h.key, _, rfl⟩
    · cases hopen
  · cases hopen

/-- A header with its settings puts one entry into the table of the document. -/
theorem exists_putEntry_of_enter?
    {h : Header} {settings : List Setting} {entries changed : Entries}
    (henter : h.enter? settings entries = some changed) :
    ∃ k node, changed = putEntry k node entries := by
  rw [Header.enter?] at henter
  cases hpath : h.path with
  | nil =>
      rw [hpath, changeAt?] at henter
      exact exists_putEntry_of_openIn? henter
  | cons part path =>
      rw [hpath, changeAt?] at henter
      split at henter
      · obtain ⟨inner, -, rfl⟩ := Option.map_eq_some_iff.1 henter
        exact ⟨part, _, rfl⟩
      · obtain ⟨inner, -, rfl⟩ := Option.map_eq_some_iff.1 henter
        exact ⟨part, _, rfl⟩
      · obtain ⟨last, -, rfl⟩ := Option.map_eq_some_iff.1 henter
        exact ⟨part, _, rfl⟩
      · cases henter

/-! ## Whole documents -/

theorem KeysIncrease.assignAll?
    {settings : List Setting} {entries changed : Entries}
    (h : KeysIncrease entries)
    (hassign : assignAll? settings entries = some changed) :
    KeysIncrease changed := by
  induction settings generalizing entries with
  | nil =>
      obtain rfl := Option.some.inj hassign
      exact h
  | cons s settings ih =>
      obtain ⟨next, hnext, hrest⟩ := Option.bind_eq_some_iff.1 hassign
      obtain ⟨k, node, rfl⟩ := exists_putEntry_of_assign? hnext
      exact ih (h.putEntry k node) hrest

theorem KeysIncrease.enterAll?
    {blocks : List (Header × List Setting)} {entries changed : Entries}
    (h : KeysIncrease entries)
    (henter : enterAll? blocks entries = some changed) :
    KeysIncrease changed := by
  induction blocks generalizing entries with
  | nil =>
      obtain rfl := Option.some.inj henter
      exact h
  | cons block blocks ih =>
      obtain ⟨next, hnext, hrest⟩ := Option.bind_eq_some_iff.1 henter
      obtain ⟨k, node, rfl⟩ := exists_putEntry_of_enter? hnext
      exact ih (h.putEntry k node) hrest

theorem tableOf?_keysIncrease
    {statements : List Statement} {table : Table}
    (h : tableOf? statements = some table) :
    KeysIncrease table := by
  obtain ⟨entries, hentries, rfl⟩ := Option.map_eq_some_iff.1 h
  obtain ⟨document, hassign, henter⟩ := Option.bind_eq_some_iff.1 hentries
  have hempty : KeysIncrease ([] : Entries) := List.Pairwise.nil
  have hincrease := (hempty.assignAll? hassign).enterAll? henter
  unfold KeysIncrease
  rwa [sealEntries_eq, mapValues_keys]

/-- The keys of a document are all different and stand in increasing order. -/
theorem readDocument?_keysIncrease
    {t : Text} {table : Table}
    (h : readDocument? t = some table) :
    KeysIncrease table := by
  obtain ⟨statements, -, htable⟩ := Option.bind_eq_some_iff.1 h
  exact tableOf?_keysIncrease htable

end Toml
end TeachingEditor
