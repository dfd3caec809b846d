import TeachingEditor.Proofs.Catalog.Authoring
import TeachingEditor.Proofs.Toml.KeyOrder

/-!
# Written vocabularies

A vocabulary is a document with two lists of strings.  In each of them the words come in any
order, and a word may be written twice.  Other keys may stand in the document.

**Algorithm.**  A table shows a vocabulary when its two lists have the words of the two sets
(`IsVocabulary`).  The keys of a document are all different, so what is looked up under a key
is all that stands under it, and a table that is accepted shows what is read from it.

**Results.**
* `authored_vocabulary_read`: a vocabulary comes back from every document that shows it and
  from the text of every draft that does, exactly if the numbers under the other keys can be
  held.
* `parseVocabulary_eq_ok_iff`: no other document is accepted.
* `parseVocabulary_draft`: every vocabulary can be written.
-/

namespace TeachingEditor

/-- Sets with the same words are the same. -/
theorem WordSet.eq_of_mem_iff
    {s other : WordSet}
    (h : ∀ w, w ∈ s ↔ w ∈ other) :
    s = other := by
  obtain ⟨words, hwords⟩ := s
  obtain ⟨others, hothers⟩ := other
  obtain rfl : words = others := hwords.eq_of_mem_iff hothers h
  rfl

namespace Catalogs

open Toml

/-! ## The entries of a vocabulary -/

/-- The fields of a vocabulary, in their order. -/
def vocabularyFields : List Field :=
  [field keywordsKey decodeWords, field builtinsKey decodeWords]

/-- The entries of two lists of reserved words. -/
def vocabularyEntries (keywords builtins : List Text) : Table :=
  [(keywordsKey, textsValue keywords), (builtinsKey, textsValue builtins)]

/-- Entries that stand for a vocabulary: lists with its words. -/
inductive IsVocabulary (v : Vocabulary) : Table → Prop
  | intro {keywords builtins : List Text}
      (hkeywords : ∀ w, w ∈ v.keywords ↔ w ∈ keywords)
      (hbuiltins : ∀ w, w ∈ v.builtins ↔ w ∈ builtins) :
      IsVocabulary v (vocabularyEntries keywords builtins)

theorem vocabularyFields_nodup :
    (vocabularyFields.map Field.name).Nodup := by
  decide

theorem vocabularyEntries_keys
    (keywords builtins : List Text) :
    (vocabularyEntries keywords builtins).map Prod.fst <+: vocabularyFields.map Field.name :=
  List.prefix_refl _

/-- Each list of words is read as its field. -/
theorem checkField_vocabularyEntries
    (keywords builtins : List Text) :
    ∀ entry ∈ vocabularyEntries keywords builtins,
      checkField vocabularyFields entry.1 entry.2 = .ok () := by
  have hwords : ∀ name, field name decodeWords ∈ vocabularyFields →
      ∀ words, checkField vocabularyFields name (textsValue words) = .ok () :=
    fun name hfield words =>
      checkField_eq_ok_of_mem vocabularyFields_nodup hfield (decodeWords_textsValue words)
  refine List.forall_mem_cons.2 ⟨?_, List.forall_mem_singleton.2 ?_⟩
  · exact hwords keywordsKey List.mem_cons_self keywords
  · exact hwords builtinsKey (List.mem_cons_of_mem _ List.mem_cons_self) builtins

/-- Two lists of words make the vocabulary that has them. -/
theorem ofLists_eq
    {v : Vocabulary} {keywords builtins : List Text}
    (hkeywords : ∀ w, w ∈ v.keywords ↔ w ∈ keywords)
    (hbuiltins : ∀ w, w ∈ v.builtins ↔ w ∈ builtins) :
    Vocabulary.ofLists keywords builtins = v := by
  obtain ⟨keywordSet, builtinSet⟩ := v
  have hfirst : WordSet.ofList keywords = keywordSet :=
    WordSet.eq_of_mem_iff fun w => WordSet.mem_ofList.trans (hkeywords w).symm
  have hsecond : WordSet.ofList builtins = builtinSet :=
    WordSet.eq_of_mem_iff fun w => WordSet.mem_ofList.trans (hbuiltins w).symm
  rw [Vocabulary.ofLists, hfirst, hsecond]

theorem decodeVocabulary_shows
    {v : Vocabulary} {entries : Table} {value : Value}
    (h : IsVocabulary v entries)
    (hshows : Shows (vocabularyFields.map Field.name) entries value) :
    Yields (decodeVocabulary value)
      (∀ x ∈ additional (vocabularyFields.map Field.name) value, Holdable x) v := by
  obtain @⟨keywords, builtins, hkeywords, hbuiltins⟩ := h
  obtain ⟨r, hlookup, hrecord⟩ :=
    readRecord_shows_ok vocabularyFields hshows vocabularyFields_nodup
      (vocabularyEntries_keys keywords builtins) (checkField_vocabularyEntries keywords builtins)
  simp only [vocabularyFields, field, List.map_cons, List.map_nil, List.forall_mem_cons] at hlookup
  obtain ⟨hfirst, hsecond, -⟩ := hlookup
  refine (hrecord.bind fun _ => .of_eq_ok ?_).congr (and_iff_left trivial)
  rw [required_of_lookup hfirst, required_of_lookup hsecond, decodeWords_textsValue,
    decodeWords_textsValue, ← ofLists_eq hkeywords hbuiltins]
  rfl

/-- How a vocabulary is written. -/
def vocabularyFormat : RecordFormat Vocabulary where
  names := vocabularyFields.map Field.name
  IsEntries := IsVocabulary
  decode := decodeVocabulary
  arranged := by
    rintro v - ⟨hkeywords, hbuiltins⟩
    simp [vocabularyEntries, textsValue, arrangeEntries, arrange, arrangeItems_eq,
      Function.comp_def]
  writable := by
    rintro v - ⟨hkeywords, hbuiltins⟩
    have hwords : ∀ words, Writable 2 (textsValue words) :=
      fun words => .array (List.forall_mem_map.2 fun _ _ => .string)
    simp [vocabularyEntries, hwords]
  decodes := decodeVocabulary_shows

/--
A vocabulary comes back from every text that presents it, if the numbers that are not used
can be held.  If they cannot, the text is malformed.
-/
theorem authored_vocabulary_read
    {v : Vocabulary} {unused : List Value} {t : Text}
    (h : PresentsRecord vocabularyFormat v unused t) :
    Yields (parseVocabulary t) (∀ x ∈ unused, Holdable x) v :=
  h.decodeDocument_yields

/-- Two lists of words come back from the draft that has them and nothing else. -/
theorem parseVocabulary_draft
    (keywords builtins : List Text) (key : Text) :
    parseVocabulary (Draft.text key ⟨vocabularyEntries keywords builtins, []⟩) =
      .ok (.ofLists keywords builtins) := by
  have hentries : IsVocabulary (.ofLists keywords builtins) (vocabularyEntries keywords builtins) :=
    .intro (fun _ => WordSet.mem_ofList) (fun _ => WordSet.mem_ofList)
  have hpresents : PresentsRecord vocabularyFormat (.ofLists keywords builtins) [] _ :=
    .settings key vocabularyFields_nodup hentries (vocabularyEntries_keys keywords builtins)
  exact hpresents.decodeDocument_yields.ok (List.forall_mem_nil _)

/-! ## The documents that are accepted -/

theorem decodeText_eq_ok_iff
    {value : Value} {t : Text} :
    decodeText value = .ok t ↔ value = .string t := by
  cases value <;> simp [decodeText]

theorem eq_map_of_decodeItems
    {items : List Value} {words : List Text}
    (h : decodeItems decodeText items = .ok words) :
    items = words.map .string := by
  induction items generalizing words with
  | nil =>
      obtain rfl := Except.ok.inj h
      rfl
  | cons item items ih =>
      obtain ⟨word, hword, hrest⟩ := bind_eq_ok_iff.1 h
      obtain ⟨others, hothers, hwords⟩ := bind_eq_ok_iff.1 hrest
      obtain rfl := Except.ok.inj hwords
      rw [List.map_cons, decodeText_eq_ok_iff.1 hword, ih hothers]

/-- A list of words is read from an array of strings, and from nothing else. -/
theorem decodeWords_eq_ok_iff
    {value : Value} {words : List Text} :
    decodeWords value = .ok words ↔ value = textsValue words := by
  constructor
  · intro h
    cases value with
    | array items => rw [textsValue, eq_map_of_decodeItems h]
    | string t => cases h
    | integer n => cases h
    | float inRange => cases h
    | boolean b => cases h
    | dateTime => cases h
    | table entries => cases h
  · rintro rfl
    exact decodeWords_textsValue words

/-- The list of a field that is read stands under its name. -/
theorem lookup_of_required
    {r : Record} {name : Text} {words : List Text}
    (h : r.required name decodeWords = .ok words) :
    r.entries.lookup name = some (textsValue words) := by
  obtain ⟨value, hlookup, hvalue⟩ := required_eq_ok_iff.1 h
  rw [hlookup, decodeWords_eq_ok_iff.1 hvalue]

/-- A table that has, under a key, a list with the words of a set. -/
def ListsWords (table : Table) (key : Text) (words : WordSet) : Prop :=
  ∃ texts, table.lookup key = some (textsValue texts) ∧ ∀ w, w ∈ words ↔ w ∈ texts

/--
A document is accepted as a vocabulary exactly if it has both lists of strings and the
numbers under all other keys can be held.  It is read as the sets of the listed words.
-/
theorem parseVocabulary_eq_ok_iff
    {t : Text} {v : Vocabulary} :
    parseVocabulary t = .ok v ↔
      ∃ table,
        readDocument? t = some table ∧
        ListsWords table keywordsKey v.keywords ∧
        ListsWords table builtinsKey v.builtins ∧
        ∀ x ∈ additional vocabularyFormat.names (.table table), Holdable x := by
  rw [parseVocabulary, decodeDocument_eq_ok_iff]
  refine exists_congr fun table => and_congr_right fun hread => ?_
  constructor
  · intro h
    obtain ⟨r, hrecord, hrest⟩ := bind_eq_ok_iff.1 h
    obtain ⟨rfl, hcheck⟩ := readRecord_table_eq_ok_iff.1 hrecord
    obtain ⟨keywords, hkeywords, hrest⟩ := bind_eq_ok_iff.1 hrest
    obtain ⟨builtins, hbuiltins, hv⟩ := bind_eq_ok_iff.1 hrest
    obtain rfl := Except.ok.inj hv
    refine ⟨⟨keywords, lookup_of_required hkeywords, fun _ => WordSet.mem_ofList⟩,
      ⟨builtins, lookup_of_required hbuiltins, fun _ => WordSet.mem_ofList⟩, ?_⟩
    intro x hx
    obtain ⟨entry, hentry, rfl⟩ := List.mem_map.1 hx
    obtain ⟨hmem, hname⟩ := List.mem_filter.1 hentry
    have hignore : checkField vocabularyFields entry.1 entry.2 = .ok () := hcheck entry hmem
    rw [checkField_other (of_decide_eq_true hname)] at hignore
    exact (ignore_yields entry.2).eq_ok_iff.1 hignore
  · rintro ⟨⟨keywords, hkeywords, hfirst⟩, ⟨builtins, hbuiltins, hsecond⟩, hother⟩
    have hshows : Shows vocabularyFormat.names (vocabularyEntries keywords builtins)
        (.table table) := by
      refine shows_of_lookup (readDocument?_keysIncrease hread).nodup rfl ?_
      exact List.forall_mem_cons.2 ⟨hkeywords, List.forall_mem_singleton.2 hbuiltins⟩
    exact (decodeVocabulary_shows (.intro hfirst hsecond) hshows).ok hother

end Catalogs
end TeachingEditor
