import TeachingEditor.Catalog.Shipped
import TeachingEditor.Proofs.Catalog.Vocabulary
import TeachingEditor.Proofs.Toml.Layout

/-!
# The shipped documents

Each shipped catalog stands in a document that has been laid out by hand.  The catalogs are
given as values in this library; here they are what is read from the documents.

**Format.**  After some remarks, the document of reserved words has its keywords on a line
each and its builtin functions on one line.  The items and the predefined answers have a
block each, with a line for every field.

**Algorithm.**  A layout is read as the draft that says the same.  The blocks of such a draft
have the entries of the records and nothing else, so nothing else has to be looked at.

**Results.**
* `parseVocabulary_layout`, `parseCompletions_layout` and `parseKnowledge_layout`: every
  catalog comes back from its layout, whatever the remarks are.
* `shipped_documents_read`: the shipped documents are read as the shipped catalogs.
-/

namespace TeachingEditor
namespace Catalogs

open Toml

/-! ## Catalogs that are laid out -/

/-- Remarks that can stand on lines of their own. -/
def ArePlain (remarks : List Text) : Prop :=
  ∀ remark ∈ remarks, ∀ c ∈ remark, isPlainChar c = true

instance (remarks : List Text) : Decidable (ArePlain remarks) :=
  decidable_of_iff (remarks.all (fun remark => remark.all isPlainChar) = true) <| by
    simp only [ArePlain, List.all_eq_true]

variable {remarks : List Text}

theorem decodeDocument_layout
    {α : Type} {l : Layout}
    (hplain : ArePlain l.remarks)
    (decode : Decoder α) (key : Text) :
    decodeDocument decode (l.text key) = decodeDocument decode (l.draft.text key) := by
  rw [decodeDocument, decodeDocument, Layout.readDocument?_text key hplain]

/-- Two lists of words come back from their layout. -/
theorem parseVocabulary_layout
    (hplain : ArePlain remarks)
    {keywords builtins : List Text} {first second : LaidValue}
    (hkeywords : first.value = textsValue keywords)
    (hbuiltins : second.value = textsValue builtins)
    (key : Text) :
    parseVocabulary (Layout.text key
        { remarks, settings := [(keywordsKey, first), (builtinsKey, second)] }) =
      .ok (.ofLists keywords builtins) := by
  have hdraft :
      Layout.draft { remarks, settings := [(keywordsKey, first), (builtinsKey, second)] } =
        ⟨vocabularyEntries keywords builtins, []⟩ := by
    rw [vocabularyEntries, ← hkeywords, ← hbuiltins]
    rfl
  rw [parseVocabulary, decodeDocument_layout hplain, hdraft]
  exact parseVocabulary_draft keywords builtins key

/-- The line of a text that may be left out. -/
def optionalSetting (key : Text) (t : Option Text) : LaidSettings :=
  t.toList.map fun t => (key, .text t)

theorem values_append_optionalSetting
    (settings : LaidSettings) (key : Text) (t : Option Text) :
    LaidSettings.values (settings ++ optionalSetting key t) =
      settings.values ++ optionalEntry key t := by
  cases t with
  | none => simp [LaidSettings.values, mapValues, optionalSetting, optionalEntry]
  | some t =>
      simp [LaidSettings.values, mapValues, optionalSetting, optionalEntry, LaidValue.value]

/-- The lines of an item. -/
def itemSettings (item : CompletionItem) : LaidSettings :=
  [(labelKey, .text item.label), (insertTextKey, .text item.insertText),
    (detailKey, .text item.detail), (kindKey, .text item.kind.name)] ++
      optionalSetting descriptionKey item.description

/-- The lines of a predefined answer. -/
def faqSettings (entry : FaqEntry) : LaidSettings :=
  [(questionKey, .text entry.question), (keywordsKey, .row entry.keywords),
    (answerKey, .text entry.answer)] ++ optionalSetting codeExampleKey entry.codeExample

/-- Items come back from their layout. -/
theorem parseCompletions_layout
    (hplain : ArePlain remarks)
    (items : List CompletionItem) :
    parseCompletions (Layout.text itemsKey { remarks, blocks := items.map itemSettings }) =
      .ok items := by
  have hvalues : ∀ item, (itemSettings item).values = itemEntries item (.string item.kind.name) :=
    fun item => values_append_optionalSetting _ descriptionKey item.description
  have hdraft : Layout.draft { remarks, blocks := items.map itemSettings } =
      ⟨[], items.map fun item => itemEntries item (.string item.kind.name)⟩ := by
    simp [Layout.draft, LaidSettings.values, mapValues, ← hvalues]
  have hpresents : Presents itemFormat itemsKey items [] _ :=
    .blocks itemFields_nodup fun item _ => ⟨.intro .name, itemEntries_keys item _⟩
  rw [parseCompletions, decodeDocument_layout hplain, hdraft]
  exact hpresents.decodeDocument_yields.ok (List.forall_mem_nil _)

example :
    Layout.text itemsKey
        { remarks := [" One item.".toList]
          blocks := [itemSettings
            ⟨"if".toList, "if () \x7b\n\x7d".toList, "a test".toList, .keyword, none⟩] } =
      "# One item.\n\n[[items]]\nlabel = \"if\"\ninsert_text = \"if () \x7b\\n\x7d\"\n".toList ++
        "detail = \"a test\"\nkind = \"keyword\"\n".toList := by
  decide +kernel

/-- Predefined answers come back from their layout. -/
theorem parseKnowledge_layout
    (hplain : ArePlain remarks)
    (entries : List FaqEntry) :
    parseKnowledge (Layout.text entriesKey { remarks, blocks := entries.map faqSettings }) =
      .ok entries := by
  have hvalues : ∀ entry, (faqSettings entry).values = faqEntries entry :=
    fun entry => values_append_optionalSetting _ codeExampleKey entry.codeExample
  have hdraft : Layout.draft { remarks, blocks := entries.map faqSettings } =
      ⟨[], entries.map faqEntries⟩ := by
    simp [Layout.draft, LaidSettings.values, mapValues, ← hvalues]
  have hpresents : Presents faqFormat entriesKey entries [] _ :=
    .blocks faqFields_nodup fun entry _ => ⟨rfl, faqEntries_keys entry⟩
  rw [parseKnowledge, decodeDocument_layout hplain, hdraft]
  exact hpresents.decodeDocument_yields.ok (List.forall_mem_nil _)

end Catalogs

namespace Shipped

open Catalogs Toml

/-! ## The three documents -/

/-- The shipped keywords. -/
def keywords : List Text :=
  ["var", "fun", "if", "else", "while", "for", "return", "true", "false", "nil", "and", "or",
    "not"].map String.toList

/-- The shipped builtin functions. -/
def builtins : List Text :=
  ["write", "scan", "clock"].map String.toList

/-- The document of reserved words, as it is shipped. -/
def vocabularyDocument : Text :=
  joinLines [
    "# Reserved words of the AOI language.",
    "#",
    "# Lookup order is keywords first, then builtins; a word listed in both sets",
    "# classifies as a keyword.",
    "",
    "keywords = [",
    "    \"var\",",
    "    \"fun\",",
    "    \"if\",",
    "    \"else\",",
    "    \"while\",",
    "    \"for\",",
    "    \"return\",",
    "    \"true\",",
    "    \"false\",",
    "    \"nil\",",
    "    \"and\",",
    "    \"or\",",
    "    \"not\",",
    "]",
    "",
    "builtins = [\"write\", \"scan\", \"clock\"]",
    ""]

/-- The remarks in the document of reserved words. -/
def vocabularyRemarks : List Text :=
  [" Reserved words of the AOI language.", "",
    " Lookup order is keywords first, then builtins; a word listed in both sets",
    " classifies as a keyword."].map String.toList

/-- The document of reserved words is a layout of two lists. -/
theorem vocabularyDocument_eq :
    vocabularyDocument =
      Layout.text []
        { remarks := vocabularyRemarks
          settings := [(keywordsKey, .column keywords), (builtinsKey, .row builtins)] } := by
  decide +kernel

/-- The remarks in the document of completion items. -/
def completionRemarks : List Text :=
  [" Completion catalog for the AOI editor.", "",
    " Entries are kept in authoring order; the suggestion ranking falls back to",
    " this order for otherwise equal candidates."].map String.toList

/-- The document of completion items, in the layout in which it is shipped. -/
def completionsDocument : Text :=
  Layout.text itemsKey { remarks := completionRemarks, blocks := completions.map itemSettings }

/-- The remarks in the document of predefined answers. -/
def knowledgeRemarks : List Text :=
  [" Predefined answers for the AOI help assistant.", "",
    " Entries are matched in order. Keywords containing a space are phrases and",
    " take priority over single-word keywords across the whole catalog."].map String.toList

/-- The document of predefined answers, in the layout in which it is shipped. -/
def knowledgeDocument : Text :=
  Layout.text entriesKey { remarks := knowledgeRemarks, blocks := knowledge.map faqSettings }

theorem arePlain_remarks :
    ArePlain vocabularyRemarks ∧ ArePlain completionRemarks ∧ ArePlain knowledgeRemarks := by
  decide +kernel

/-- The shipped documents are read as the shipped catalogs. -/
theorem shipped_documents_read :
    parseVocabulary vocabularyDocument = .ok vocabulary ∧
      parseCompletions completionsDocument = .ok completions ∧
      parseKnowledge knowledgeDocument = .ok knowledge := by
  obtain ⟨hvocabulary, hcompletions, hknowledge⟩ := arePlain_remarks
  refine ⟨?_, parseCompletions_layout hcompletions completions,
    parseKnowledge_layout hknowledge knowledge⟩
  rw [vocabularyDocument_eq]
  exact parseVocabulary_layout hvocabulary rfl rfl []

end Shipped
end TeachingEditor
