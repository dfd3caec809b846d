import TeachingEditor.Catalog
import TeachingEditor.Proofs.Toml.Arrangement

/-!
# Written catalogs

Whoever writes a catalog has choices: the keys of a record come in any order, other keys
may stand among them, a record can be the array of its values, and a kind can be a table.
None of this changes the catalog that is read.

**Algorithm.**  The two formats of records are given by the entries that can stand for an
item or for a predefined answer (`IsItem`, `IsEntry`).  Each field of these entries is read
as the field of the record, and the rest is the same for all lists of records.

**Results.**  `authored_catalogs_read`: items and predefined answers come back, in their
order, from every document that shows them and from the text of every draft that does,
exactly if the numbers under the other keys can be held.
-/

namespace TeachingEditor
namespace Catalogs

open Toml

/-! ## Texts that may be left out -/

/-- The entry of a text that may be left out. -/
def optionalEntry (key : Text) (t : Option Text) : Table :=
  t.toList.map fun t => (key, .string t)

theorem optional_decodeOptionalText
    {r : Record} {name : Text} {t : Option Text}
    (hlookup : r.entries.lookup name = t.map .string) :
    r.optional name decodeOptionalText none = .ok t := by
  cases t with
  | none => exact optional_of_lookup_eq_none hlookup _ _
  | some t => exact optional_of_lookup_eq_some hlookup _ _

/-! ## Items -/

/-- A kind is its name, or a table that has this name as its only key and nothing under it. -/
inductive IsKind (kind : CompletionKind) : Value → Prop
  | name : IsKind kind (.string kind.name)
  | table : IsKind kind (.table [(kind.name, .table [])])

/-- The entries of an item whose kind is a value. -/
def itemEntries (item : CompletionItem) (kind : Value) : Table :=
  [(labelKey, .string item.label), (insertTextKey, .string item.insertText),
    (detailKey, .string item.detail), (kindKey, kind)] ++
      optionalEntry descriptionKey item.description

/-- Entries that stand for an item. -/
inductive IsItem (item : CompletionItem) : Table → Prop
  | intro {kind : Value}
      (hkind : IsKind item.kind kind) :
      IsItem item (itemEntries item kind)

/-- The fields of an item, in their order. -/
def itemFields : List Field :=
  [field labelKey decodeText, field insertTextKey decodeText, field detailKey decodeText,
    field kindKey decodeKind, field descriptionKey decodeOptionalText]

theorem decodeKind_eq
    {kind : CompletionKind} {v : Value}
    (h : IsKind kind v) :
    decodeKind v = .ok kind := by
  cases h with
  | name => cases kind <;> rfl
  | table => cases kind <;> rfl

theorem itemFields_nodup :
    (itemFields.map Field.name).Nodup := by
  decide

theorem itemEntries_keys
    (item : CompletionItem) (kind : Value) :
    (itemEntries item kind).map Prod.fst <+: itemFields.map Field.name := by
  obtain ⟨label, insertText, detail, _, description⟩ := item
  cases description with
  | none => exact ⟨[descriptionKey], rfl⟩
  | some t => exact ⟨[], rfl⟩

theorem lookup_itemEntries_description
    (item : CompletionItem) (kind : Value) :
    (itemEntries item kind).lookup descriptionKey = item.description.map .string := by
  obtain ⟨label, insertText, detail, _, description⟩ := item
  cases description with
  | none => rfl
  | some t => rfl

/-- Each entry of an item is read as its field. -/
theorem checkField_itemEntries
    {item : CompletionItem} {kind : Value}
    (hkind : IsKind item.kind kind) :
    ∀ entry ∈ itemEntries item kind, checkField itemFields entry.1 entry.2 = .ok () := by
  have htext : ∀ name, field name decodeText ∈ itemFields →
      ∀ t : Text, checkField itemFields name (.string t) = .ok () :=
    fun name hfield t => checkField_eq_ok_of_mem itemFields_nodup hfield rfl
  have hdescription : field descriptionKey decodeOptionalText ∈ itemFields := by
    simp [itemFields]
  intro entry hmem
  simp only [itemEntries, optionalEntry, List.cons_append, List.nil_append, List.mem_cons,
    List.mem_map] at hmem
  rcases hmem with rfl | rfl | rfl | rfl | ⟨t, -, rfl⟩
  · exact htext labelKey (by simp [itemFields]) item.label
  · exact htext insertTextKey (by simp [itemFields]) item.insertText
  · exact htext detailKey (by simp [itemFields]) item.detail
  · exact checkField_eq_ok_of_mem itemFields_nodup (by simp [itemFields]) (decodeKind_eq hkind)
  · exact checkField_eq_ok_of_mem itemFields_nodup hdescription rfl

theorem decodeItem_shows
    {item : CompletionItem} {entries : Table} {v : Value}
    (h : IsItem item entries)
    (hshows : Shows (itemFields.map Field.name) entries v) :
    Yields (decodeItem v) (∀ x ∈ additional (itemFields.map Field.name) v, Holdable x) item := by
  obtain @⟨kind, hkind⟩ := h
  obtain ⟨r, hlookup, hrecord⟩ :=
    readRecord_shows_ok itemFields hshows itemFields_nodup (itemEntries_keys item kind)
      (checkField_itemEntries hkind)
  simp only [itemFields, field, List.map_cons, List.map_nil, List.forall_mem_cons] at hlookup
  obtain ⟨hlabel, hinsertText, hdetail, hvalue, hdescription, -⟩ := hlookup
  rw [lookup_itemEntries_description] at hdescription
  refine (hrecord.bind fun _ => .of_eq_ok ?_).congr (and_iff_left trivial)
  rw [required_of_lookup hlabel, required_of_lookup hinsertText, required_of_lookup hdetail,
    required_of_lookup hvalue, decodeKind_eq hkind, optional_decodeOptionalText hdescription]
  rfl

theorem IsKind.arrange_eq
    {kind : CompletionKind} {v : Value}
    (h : IsKind kind v) :
    arrange v = v := by
  cases h with
  | name => rw [arrange]
  | table => simp [arrange, arrangeEntries, sectionTable_eq_fill, fill, putEntry]

theorem IsKind.writable
    {kind : CompletionKind} {v : Value}
    (h : IsKind kind v) :
    Writable 2 v := by
  cases h with
  | name => exact .string
  | table =>
      refine .table (List.nodup_singleton _) (List.forall_mem_singleton.2 ?_)
      exact .table List.nodup_nil fun _ hmem => absurd hmem List.not_mem_nil

theorem arrangeEntries_optionalEntry
    (key : Text) (t : Option Text) :
    arrangeEntries (optionalEntry key t) = optionalEntry key t := by
  cases t with
  | none => rfl
  | some t => simp [optionalEntry, arrangeEntries, arrange]

theorem writable_optionalEntry
    {depth : Nat} {key : Text} {t : Option Text} :
    ∀ entry ∈ optionalEntry key t, Writable depth entry.2 := by
  intro entry hmem
  obtain ⟨t, -, rfl⟩ := List.mem_map.1 hmem
  exact .string

/-- How items are written. -/
def itemFormat : RecordFormat CompletionItem where
  names := itemFields.map Field.name
  IsEntries := IsItem
  decode := decodeItem
  arranged := by
    rintro item - ⟨hkind⟩
    simp [itemEntries, arrangeEntries, arrange, hkind.arrange_eq, arrangeEntries_optionalEntry]
  writable := by
    rintro item - ⟨hkind⟩
    refine List.forall_mem_append.2 ⟨?_, writable_optionalEntry⟩
    simp [Writable.string, hkind.writable]
  decodes := decodeItem_shows

/-! ## Predefined answers -/

/-- The value of a list of texts. -/
def textsValue (texts : List Text) : Value :=
  .array (texts.map .string)

/-- The entries of a predefined answer. -/
def faqEntries (entry : FaqEntry) : Table :=
  [(questionKey, .string entry.question), (keywordsKey, textsValue entry.keywords),
    (answerKey, .string entry.answer)] ++ optionalEntry codeExampleKey entry.codeExample

/-- The fields of a predefined answer, in their order. -/
def faqFields : List Field :=
  [field questionKey decodeText, field keywordsKey decodeWords, field answerKey decodeText,
    field codeExampleKey decodeOptionalText]

theorem decodeWords_textsValue
    (texts : List Text) :
    decodeWords (textsValue texts) = .ok texts := by
  have hitems : Yields (decodeItems decodeText (texts.map .string)) _ texts :=
    decodeItems_yields (p := fun _ => True) <|
      List.forall₂_map_right_iff.2 (List.forall₂_same.2 fun t _ => .of_eq_ok rfl)
  exact hitems.ok fun _ _ => trivial

theorem faqFields_nodup :
    (faqFields.map Field.name).Nodup := by
  decide

theorem faqEntries_keys
    (entry : FaqEntry) :
    (faqEntries entry).map Prod.fst <+: faqFields.map Field.name := by
  obtain ⟨question, keywords, answer, codeExample⟩ := entry
  cases codeExample with
  | none => exact ⟨[codeExampleKey], rfl⟩
  | some t => exact ⟨[], rfl⟩

theorem lookup_faqEntries_codeExample
    (entry : FaqEntry) :
    (faqEntries entry).lookup codeExampleKey = entry.codeExample.map .string := by
  obtain ⟨question, keywords, answer, codeExample⟩ := entry
  cases codeExample with
  | none => rfl
  | some t => rfl

/-- Each entry of a predefined answer is read as its field. -/
theorem checkField_faqEntries
    (entry : FaqEntry) :
    ∀ pair ∈ faqEntries entry, checkField faqFields pair.1 pair.2 = .ok () := by
  have htext : ∀ name, field name decodeText ∈ faqFields →
      ∀ t : Text, checkField faqFields name (.string t) = .ok () :=
    fun name hfield t => checkField_eq_ok_of_mem faqFields_nodup hfield rfl
  have hcodeExample : field codeExampleKey decodeOptionalText ∈ faqFields := by
    simp [faqFields]
  intro pair hmem
  simp only [faqEntries, optionalEntry, List.cons_append, List.nil_append, List.mem_cons,
    List.mem_map] at hmem
  rcases hmem with rfl | rfl | rfl | ⟨t, -, rfl⟩
  · exact htext questionKey (by simp [faqFields]) entry.question
  · exact checkField_eq_ok_of_mem faqFields_nodup (by simp [faqFields])
      (decodeWords_textsValue entry.keywords)
  · exact htext answerKey (by simp [faqFields]) entry.answer
  · exact checkField_eq_ok_of_mem faqFields_nodup hcodeExample rfl

theorem decodeEntry_shows
    {entry : FaqEntry} {v : Value}
    (hshows : Shows (faqFields.map Field.name) (faqEntries entry) v) :
    Yields (decodeEntry v) (∀ x ∈ additional (faqFields.map Field.name) v, Holdable x) entry := by
  obtain ⟨r, hlookup, hrecord⟩ :=
    readRecord_shows_ok faqFields hshows faqFields_nodup (faqEntries_keys entry)
      (checkField_faqEntries entry)
  simp only [faqFields, field, List.map_cons, List.map_nil, List.forall_mem_cons] at hlookup
  obtain ⟨hquestion, hkeywords, hanswer, hcodeExample, -⟩ := hlookup
  rw [lookup_faqEntries_codeExample] at hcodeExample
  refine (hrecord.bind fun _ => .of_eq_ok ?_).congr (and_iff_left trivial)
  rw [required_of_lookup hquestion, required_of_lookup hkeywords, required_of_lookup hanswer,
    decodeWords_textsValue, optional_decodeOptionalText hcodeExample]
  rfl

/-- How predefined answers are written. -/
def faqFormat : RecordFormat FaqEntry where
  names := faqFields.map Field.name
  IsEntries := fun entry entries => entries = faqEntries entry
  decode := decodeEntry
  arranged := by
    rintro entry - rfl
    simp [faqEntries, textsValue, arrangeEntries, arrange, arrangeItems_eq,
      arrangeEntries_optionalEntry, Function.comp_def]
  writable := by
    rintro entry - rfl
    refine List.forall_mem_append.2 ⟨?_, writable_optionalEntry⟩
    have hkeywords : Writable 2 (textsValue entry.keywords) :=
      .array (List.forall_mem_map.2 fun _ _ => .string)
    simp [Writable.string, hkeywords]
  decodes := by
    rintro entry - v rfl hshows
    exact decodeEntry_shows hshows

/-! ## Main result -/

/--
Items come back in their order from every text that presents them, and so do predefined
answers, if the numbers that are not used can be held.  If they cannot, the text is
malformed.
-/
theorem authored_catalogs_read :
    (∀ {items : List CompletionItem} {unused : List Value} {t : Text},
      Presents itemFormat itemsKey items unused t →
        Yields (parseCompletions t) (∀ x ∈ unused, Holdable x) items) ∧
    (∀ {entries : List FaqEntry} {unused : List Value} {t : Text},
      Presents faqFormat entriesKey entries unused t →
        Yields (parseKnowledge t) (∀ x ∈ unused, Holdable x) entries) :=
  ⟨fun h => h.decodeDocument_yields, fun h => h.decodeDocument_yields⟩

/-- A kind as a table. -/
def operatorTable : Value :=
  .table [(CompletionKind.operator.name, .table [])]

/-- An item as a block, with its keys out of order and one key that is no field. -/
def blockDraft : Draft where
  settings := [("version".toList, .integer (-1))]
  blocks := [[(detailKey, .string []), (kindKey, operatorTable), ("a b".toList, .boolean true),
    (labelKey, .string "or".toList), (insertTextKey, .string "||".toList)]]

/-- A predefined answer as the array of its values, with a keyword that is written twice. -/
def arrayDraft : Draft where
  settings := [(entriesKey, .array [.array
    [.string "q".toList, textsValue ["a".toList, "a".toList], .string [], .string []]])]

theorem presents_blockDraft :
    Presents itemFormat itemsKey [⟨"or".toList, "||".toList, [], .operator, none⟩]
      (allAdditional itemFormat.names itemsKey (blockDraft.entries itemsKey))
      (blockDraft.text itemsKey) := by
  have hblock :
      Shows itemFormat.names
        (itemEntries ⟨"or".toList, "||".toList, [], .operator, none⟩ operatorTable)
        (.table ([(detailKey, .string []), (kindKey, operatorTable),
          ("a b".toList, .boolean true)] ++
            [(labelKey, .string "or".toList), (insertTextKey, .string "||".toList)])) :=
    shows_of_perm List.perm_append_comm (by decide) (by decide) (by decide)
  refine .draft ?_ ?_
  · refine .listed (by decide) (List.mem_cons_of_mem _ List.mem_cons_self) ?_
    exact .cons ⟨_, .intro .table, hblock⟩ .nil
  · refine List.forall_mem_cons.2 ⟨.integer, List.forall_mem_singleton.2 ?_⟩
    exact .boolean

theorem presents_arrayDraft :
    Presents faqFormat entriesKey [⟨"q".toList, ["a".toList, "a".toList], [], some []⟩]
      [] (arrayDraft.text entriesKey) := by
  refine .draft (d := arrayDraft) ?_ (List.forall_mem_nil _)
  refine .listed (by decide) List.mem_cons_self ?_
  exact .cons ⟨_, rfl, .array⟩ .nil

/-- The texts of the two drafts. -/
theorem draft_texts :
    blockDraft.text itemsKey =
        "version = -1\n[[items]]\ndetail = \"\"\nkind = \x7boperator = \x7b\x7d,\x7d\n".toList ++
          "\"a b\" = true\nlabel = \"or\"\ninsert_text = \"||\"\n".toList ∧
      arrayDraft.text entriesKey =
        "entries = [[\"q\",[\"a\",\"a\",],\"\",\"\",],]\n".toList := by
  decide +kernel

/-- An item and a predefined answer come back from what is written of them. -/
theorem authored_catalogs_read_drafts :
    parseCompletions
        ("version = -1\n[[items]]\ndetail = \"\"\nkind = \x7boperator = \x7b\x7d,\x7d\n".toList ++
          "\"a b\" = true\nlabel = \"or\"\ninsert_text = \"||\"\n".toList) =
        .ok [⟨"or".toList, "||".toList, [], .operator, none⟩] ∧
      parseKnowledge "entries = [[\"q\",[\"a\",\"a\",],\"\",\"\",],]\n".toList =
        .ok [⟨"q".toList, ["a".toList, "a".toList], [], some []⟩] := by
  rw [← draft_texts.1, ← draft_texts.2]
  constructor
  · refine (authored_catalogs_read.1 presents_blockDraft).ok ?_
    refine List.forall_mem_cons.2 ⟨.integer (by decide) (by decide), ?_⟩
    exact List.forall_mem_singleton.2 .boolean
  · exact (authored_catalogs_read.2 presents_arrayDraft).ok (List.forall_mem_nil _)

/-- An item with one key more, under which an integer stands that does not have 128 bits. -/
def wideDraft : Draft where
  settings := []
  blocks := [[(labelKey, .string "l".toList), (insertTextKey, .string "i".toList),
    (detailKey, .string "d".toList), (kindKey, .string CompletionKind.keyword.name),
    ("n".toList, .integer (2 ^ 128))]]

/-- No items, and one key more, under which more arrays are nested than are read. -/
def deepDraft : Draft where
  settings := [("n".toList, nestedArray maxDepth)]

/--
What stands under a key that is no field makes a text malformed if it is an integer of more
than 128 bits, and also if too many arrays are nested in it.
-/
theorem unused_value_refused :
    Presents itemFormat itemsKey [⟨"l".toList, "i".toList, "d".toList, .keyword, none⟩]
        [.integer (2 ^ 128)] (wideDraft.text itemsKey) ∧
      wideDraft.text itemsKey =
        "[[items]]\nlabel = \"l\"\ninsert_text = \"i\"\ndetail = \"d\"\n".toList ++
          "kind = \"keyword\"\nn = 340282366920938463463374607431768211456\n".toList ∧
      parseCompletions (wideDraft.text itemsKey) = .error .malformed ∧
      ShowsList itemFormat.IsShown itemsKey [] (deepDraft.entries itemsKey) ∧
      parseCompletions (deepDraft.text itemsKey) = .error .malformed := by
  have hblock :
      Shows itemFormat.names
        (itemEntries ⟨"l".toList, "i".toList, "d".toList, .keyword, none⟩
          (.string CompletionKind.keyword.name))
        (.table [(labelKey, .string "l".toList), (insertTextKey, .string "i".toList),
          (detailKey, .string "d".toList), (kindKey, .string CompletionKind.keyword.name),
          ("n".toList, .integer (2 ^ 128))]) :=
    shows_of_perm (List.Perm.refl _) (by decide) (by decide) (by decide)
  have hpresents :
      Presents itemFormat itemsKey [⟨"l".toList, "i".toList, "d".toList, .keyword, none⟩]
        (allAdditional itemFormat.names itemsKey (wideDraft.entries itemsKey))
        (wideDraft.text itemsKey) := by
    refine .draft ?_ (List.forall_mem_singleton.2 .integer)
    refine .listed (by decide) List.mem_cons_self ?_
    exact .cons ⟨_, .intro .name, hblock⟩ .nil
  refine ⟨hpresents, by decide +kernel, ?_, ?_, ?_⟩
  · refine hpresents.decodeDocument_yields.malformed ?_
    intro hall
    have hwide := List.forall_mem_singleton.1 hall
    cases hwide with
    | integer hlow hhigh => exact absurd hhigh (by decide)
  · exact .absent (List.nodup_singleton _) (by decide)
  · have hread : readDocument? (deepDraft.text itemsKey) = none :=
      Draft.readDocument?_text_eq_none ⟨'[', _, rfl, rfl⟩ (readValue?_nestedArray maxDepth)
    rw [parseCompletions, decodeDocument, hread]

end Catalogs
end TeachingEditor
