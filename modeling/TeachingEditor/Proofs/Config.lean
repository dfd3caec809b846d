import TeachingEditor.Config
import TeachingEditor.Proofs.Toml.Decoding
import TeachingEditor.Proofs.Toml.Document

/-!
# Configurations are read back

A configuration that is written as a document and read again is the same
configuration, and it is refused exactly for the problem it had before.

**Algorithm.**  `sections` lists what a configuration says: the keys of its sections
with their keys and values.  Writing gives a plain document with these sections
(`readsAs_print`).  Its table lists them, whatever the order in which tables keep their
keys, and what a table lists is all that reading a record looks at (`readRecord_lists`,
`optional_lists`).

**Results.**
* `decodeDocument_print`: every configuration, admissible or not, is read back.
* `parse_print`: checking what is read gives the problem of the configuration, if it
  has one, and otherwise the configuration.
-/

namespace TeachingEditor
namespace Config

open Toml

/-! ## What a configuration says -/

/-- The entry of a path, if it is set. -/
def pathEntries (key : Text) : Option Text → List (Text × Value)
  | some path => [(key, .string path)]
  | none => []

def loggingEntries (s : LoggingSettings) : List (Text × Value) :=
  [(levelKey, .string s.level)]

def highlightEntries (s : HighlightSettings) : List (Text × Value) :=
  [(themeKey, .string s.theme)]

def catalogEntries (s : CatalogPaths) : List (Text × Value) :=
  pathEntries vocabularyPathKey s.vocabulary ++
    (pathEntries completionsPathKey s.completions ++
      pathEntries knowledgePathKey s.knowledge)

def assistantEntries (s : AssistantSettings) : List (Text × Value) :=
  [(escalateKey, .boolean s.escalate), (timeoutKey, .integer s.timeoutSeconds.toNat)]

/-- The sections of a configuration. -/
def sections (c : Config) : Sections :=
  [(loggingKey, loggingEntries c.logging), (highlightKey, highlightEntries c.highlight),
    (catalogKey, catalogEntries c.catalog), (assistantKey, assistantEntries c.assistant)]

theorem pathEntries_keys
    (key : Text) (path : Option Text) :
    ((pathEntries key path).map Prod.fst).Sublist [key] := by
  cases path with
  | none => exact List.nil_sublist [key]
  | some path => exact List.Sublist.refl [key]

theorem catalogEntries_nodup
    (s : CatalogPaths) :
    ((catalogEntries s).map Prod.fst).Nodup := by
  have hkeys : ([vocabularyPathKey] ++ ([completionsPathKey] ++ [knowledgePathKey])).Nodup := by
    decide
  refine hkeys.sublist ?_
  rw [catalogEntries, List.map_append, List.map_append]
  exact
    (pathEntries_keys _ _).append ((pathEntries_keys _ _).append (pathEntries_keys _ _))

theorem assistantEntries_nodup
    (s : AssistantSettings) :
    ((assistantEntries s).map Prod.fst).Nodup := by
  have hkeys : [escalateKey, timeoutKey].Nodup := by decide
  exact hkeys

theorem sections_hasDistinctKeys
    (c : Config) :
    (sections c).HasDistinctKeys := by
  constructor
  · have hkeys : [loggingKey, highlightKey, catalogKey, assistantKey].Nodup := by decide
    exact hkeys
  · intro part hpart
    simp only [sections, List.mem_cons, List.not_mem_nil, or_false] at hpart
    rcases hpart with rfl | rfl | rfl | rfl
    · exact List.nodup_singleton levelKey
    · exact List.nodup_singleton themeKey
    · exact catalogEntries_nodup c.catalog
    · exact assistantEntries_nodup c.assistant

/-! ## Reading the sections -/

variable {table : Table}

/-- The table of a section with one text is read with that text. -/
theorem readRecord_textSection
    (key t default : Text) :
    ∃ r,
      readRecord [field key decodeText] (.table (sectionTable [(key, .string t)])) = .ok r ∧
        r.optional key decodeText default = .ok t := by
  have hlists : Lists (sectionTable [(key, .string t)]) [(key, .string t)] :=
    lists_sectionTable (List.nodup_singleton key)
  have hcheck :
      ∀ pair ∈ [(key, Value.string t)],
        checkField [field key decodeText] pair.1 pair.2 = .ok () := by
    simp [checkField, field, decodeText, Except.map]
  have hlookup : List.lookup key [(key, Value.string t)] = some (.string t) := by
    simp
  refine ⟨⟨_, false⟩, readRecord_lists hlists hcheck, ?_⟩
  rw [optional_lists hlists, optional_of_lookup hlookup]
  rfl

theorem decodeLogging_sectionTable
    (s : LoggingSettings) :
    decodeLogging (.table (sectionTable (loggingEntries s))) = .ok s := by
  obtain ⟨r, hread, hlevel⟩ :=
    readRecord_textSection levelKey s.level ({} : LoggingSettings).level
  unfold decodeLogging loggingEntries
  rw [hread, ok_bind, hlevel]
  rfl

theorem decodeHighlight_sectionTable
    (s : HighlightSettings) :
    decodeHighlight (.table (sectionTable (highlightEntries s))) = .ok s := by
  obtain ⟨r, hread, htheme⟩ :=
    readRecord_textSection themeKey s.theme ({} : HighlightSettings).theme
  unfold decodeHighlight highlightEntries
  rw [hread, ok_bind, htheme]
  rfl

theorem decodePath_lookup
    {entries : List (Text × Value)} {key : Text} {path : Option Text}
    (hlookup : entries.lookup key = path.map .string) :
    Record.optional ⟨entries, false⟩ key decodePath none = .ok path := by
  cases path with
  | none => simp [Record.optional, hlookup]
  | some path => simp [Record.optional, hlookup, decodePath, decodeText, Except.map]

theorem lookup_catalogEntries
    (s : CatalogPaths) :
    (catalogEntries s).lookup vocabularyPathKey = s.vocabulary.map .string ∧
      (catalogEntries s).lookup completionsPathKey = s.completions.map .string ∧
      (catalogEntries s).lookup knowledgePathKey = s.knowledge.map .string := by
  obtain ⟨vocabulary, completions, knowledge⟩ := s
  cases vocabulary <;> cases completions <;> cases knowledge <;> exact ⟨rfl, rfl, rfl⟩

theorem mem_pathEntries
    {key : Text} {path : Option Text} {pair : Text × Value}
    (hpair : pair ∈ pathEntries key path) :
    ∃ t, pair = (key, .string t) := by
  cases path with
  | none => cases hpair
  | some t => exact ⟨t, List.mem_singleton.1 hpair⟩

theorem checkField_catalog
    (s : CatalogPaths) :
    ∀ pair ∈ catalogEntries s,
      checkField
        [field vocabularyPathKey decodePath, field completionsPathKey decodePath,
          field knowledgePathKey decodePath] pair.1 pair.2 = .ok () := by
  intro pair hpair
  simp only [catalogEntries, List.mem_append] at hpair
  rcases hpair with hpair | hpair | hpair
  · obtain ⟨t, rfl⟩ := mem_pathEntries hpair
    rfl
  · obtain ⟨t, rfl⟩ := mem_pathEntries hpair
    rfl
  · obtain ⟨t, rfl⟩ := mem_pathEntries hpair
    rfl

theorem decodeCatalog_sectionTable
    (s : CatalogPaths) :
    decodeCatalog (.table (sectionTable (catalogEntries s))) = .ok s := by
  have hlists := lists_sectionTable (catalogEntries_nodup s)
  obtain ⟨hvocabulary, hcompletions, hknowledge⟩ := lookup_catalogEntries s
  unfold decodeCatalog
  rw [readRecord_lists hlists (checkField_catalog s)]
  rw [ok_bind, optional_lists hlists, decodePath_lookup hvocabulary, ok_bind]
  rw [optional_lists hlists, decodePath_lookup hcompletions, ok_bind]
  rw [optional_lists hlists, decodePath_lookup hknowledge]
  rfl

/-- Every number of 64 bits is read as itself. -/
theorem decodeUInt64_toNat
    (n : UInt64) :
    decodeUInt64 (.integer n.toNat) = .ok n := by
  have hrange : (0 : Int) ≤ n.toNat ∧ (n.toNat : Int) < UInt64.size := by
    have hlt := n.toNat_lt_size
    omega
  rw [decodeUInt64, if_pos hrange, Int.toNat_natCast, UInt64.ofNat_toNat]

theorem checkField_assistant
    (s : AssistantSettings) :
    ∀ pair ∈ assistantEntries s,
      checkField [field escalateKey decodeBool, field timeoutKey decodeUInt64] pair.1 pair.2 =
        .ok () := by
  intro pair hpair
  simp only [assistantEntries, List.mem_cons, List.not_mem_nil, or_false] at hpair
  rcases hpair with rfl | rfl
  · rfl
  · have hne : escalateKey ≠ timeoutKey := by decide
    rw [checkField_field, if_neg hne, checkField_field, if_pos rfl, decodeUInt64_toNat]
    rfl

theorem decodeAssistant_sectionTable
    (s : AssistantSettings) :
    decodeAssistant (.table (sectionTable (assistantEntries s))) = .ok s := by
  have hlists := lists_sectionTable (assistantEntries_nodup s)
  have hescalate : (assistantEntries s).lookup escalateKey = some (.boolean s.escalate) := rfl
  have htimeout :
      (assistantEntries s).lookup timeoutKey = some (.integer s.timeoutSeconds.toNat) :=
    rfl
  unfold decodeAssistant
  rw [readRecord_lists hlists (checkField_assistant s)]
  rw [ok_bind, optional_lists hlists, optional_of_lookup hescalate, decodeBool, ok_bind]
  rw [optional_lists hlists, optional_of_lookup htimeout, decodeUInt64_toNat]
  rfl

/-- Every section of a configuration is read back from its table. -/
theorem checkField_sections
    (c : Config) :
    ∀ pair ∈ mapValues (fun settings => Value.table (sectionTable settings)) (sections c),
      checkField
        [field loggingKey decodeLogging, field highlightKey decodeHighlight,
          field catalogKey decodeCatalog, field assistantKey decodeAssistant] pair.1 pair.2 =
        .ok () := by
  have hlogging : ∀ key ∈ [highlightKey, catalogKey, assistantKey], loggingKey ≠ key := by
    decide
  have hhighlight : ∀ key ∈ [catalogKey, assistantKey], highlightKey ≠ key := by
    decide
  have hcatalog : catalogKey ≠ assistantKey := by
    decide
  simp only [List.forall_mem_cons, List.not_mem_nil, false_implies, implies_true, and_true]
    at hlogging hhighlight
  obtain ⟨hlogging₁, hlogging₂, hlogging₃⟩ := hlogging
  obtain ⟨hhighlight₁, hhighlight₂⟩ := hhighlight
  intro pair hpair
  simp only [mapValues, sections, List.map_cons, List.map_nil, List.mem_cons, List.not_mem_nil,
    or_false] at hpair
  rcases hpair with rfl | rfl | rfl | rfl
  · rw [checkField_field, if_pos rfl, decodeLogging_sectionTable]
    rfl
  · rw [checkField_field, if_neg hlogging₁]
    rw [checkField_field, if_pos rfl, decodeHighlight_sectionTable]
    rfl
  · rw [checkField_field, if_neg hlogging₂, checkField_field, if_neg hhighlight₁]
    rw [checkField_field, if_pos rfl, decodeCatalog_sectionTable]
    rfl
  · rw [checkField_field, if_neg hlogging₃, checkField_field, if_neg hhighlight₂]
    rw [checkField_field, if_neg hcatalog]
    rw [checkField_field, if_pos rfl, decodeAssistant_sectionTable]
    rfl

/-- A table that lists the sections of a configuration is read as that configuration. -/
theorem decode_lists
    {c : Config}
    (h : Lists table (mapValues (fun settings => .table (sectionTable settings)) (sections c))) :
    decode (.table table) = .ok c := by
  have hlookup :
      ∀ {key : Text} {settings : List (Text × Value)},
        (sections c).lookup key = some settings →
        (mapValues (fun settings => Value.table (sectionTable settings)) (sections c)).lookup key =
          some (.table (sectionTable settings)) := by
    intro key settings hsettings
    rw [lookup_mapValues, hsettings]
    rfl
  have hlogging : (sections c).lookup loggingKey = some (loggingEntries c.logging) := rfl
  have hhighlight : (sections c).lookup highlightKey = some (highlightEntries c.highlight) := rfl
  have hcatalog : (sections c).lookup catalogKey = some (catalogEntries c.catalog) := rfl
  have hassistant : (sections c).lookup assistantKey = some (assistantEntries c.assistant) := rfl
  unfold decode
  rw [readRecord_lists h (checkField_sections c)]
  rw [ok_bind, optional_lists h, optional_of_lookup (hlookup hlogging)]
  rw [decodeLogging_sectionTable, ok_bind, optional_lists h]
  rw [optional_of_lookup (hlookup hhighlight), decodeHighlight_sectionTable, ok_bind]
  rw [optional_lists h, optional_of_lookup (hlookup hcatalog), decodeCatalog_sectionTable]
  rw [ok_bind, optional_lists h, optional_of_lookup (hlookup hassistant)]
  rw [decodeAssistant_sectionTable]
  rfl

/-! ## Writing -/

theorem readsValue_writeBool
    (b : Bool) :
    ReadsValue (writeBool b) (.boolean b) := by
  cases b with
  | true =>
      have hchars : (writeBool true).all isScalarChar = true := rfl
      refine readsValue_bare (List.all_eq_true.1 hchars) (List.cons_ne_nil _ _) ?_
      simp [writeBool, readScalar?]
  | false =>
      have hchars : (writeBool false).all isScalarChar = true := rfl
      refine readsValue_bare (List.all_eq_true.1 hchars) (List.cons_ne_nil _ _) ?_
      simp [writeBool, readScalar?]

theorem readsValue_ofNat
    (n : Nat) :
    ReadsValue (Text.ofNat n) (.integer n) := by
  refine readsValue_bare ?_ (ofNat_ne_nil n) (readScalar?_ofNat n)
  intro c hc
  have hdigit := allDigits_ofNat n c hc
  simp [isScalarChar, Char.isAlphanum, hdigit]

theorem readsAs_pathLine
    {key rest : Text} {statements : List Statement}
    (hkey : IsBareKey key)
    (path : Option Text)
    (hrest : ReadsAs rest statements) :
    ReadsAs (pathLine key path ++ rest)
      ((pathEntries key path).map (fun pair => .setting (plainSetting pair)) ++ statements) := by
  cases path with
  | none => exact hrest
  | some t => exact ReadsAs.setting hkey (readsValue_writeString t) hrest

/-- A section with one text, and the line after it. -/
theorem readsAs_textSection
    {sectionKey key rest : Text} {statements : List Statement}
    (hsection : IsBareKey sectionKey)
    (hkey : IsBareKey key)
    (t : Text)
    (hrest : ReadsAs rest statements) :
    ReadsAs (headerLine sectionKey ++ (settingLine key (writeString t) ++ '\n' :: rest))
      (.header (plainHeader sectionKey) :: .setting (plainSetting (key, .string t)) :: statements) :=
  ReadsAs.header hsection (ReadsAs.setting hkey (readsValue_writeString t) hrest.blank)

theorem readsAs_catalog
    {rest : Text} {statements : List Statement}
    (s : CatalogPaths)
    (hrest : ReadsAs rest statements) :
    ReadsAs
      (headerLine catalogKey ++
        (pathLine vocabularyPathKey s.vocabulary ++
          (pathLine completionsPathKey s.completions ++
            (pathLine knowledgePathKey s.knowledge ++ '\n' :: rest))))
      (.header (plainHeader catalogKey) ::
        ((catalogEntries s).map (fun pair => .setting (plainSetting pair)) ++ statements)) := by
  have hvocabulary : IsBareKey vocabularyPathKey := by decide
  have hcompletions : IsBareKey completionsPathKey := by decide
  have hknowledge : IsBareKey knowledgePathKey := by decide
  have hlines :=
    readsAs_pathLine hvocabulary s.vocabulary
      (readsAs_pathLine hcompletions s.completions
        (readsAs_pathLine hknowledge s.knowledge hrest.blank))
  rw [catalogEntries, List.map_append, List.map_append, List.append_assoc, List.append_assoc]
  exact ReadsAs.header (by decide) hlines

theorem readsAs_assistant
    (s : AssistantSettings) :
    ReadsAs
      (headerLine assistantKey ++
        (settingLine escalateKey (writeBool s.escalate) ++
          (settingLine timeoutKey (Text.ofNat s.timeoutSeconds.toNat) ++ [])))
      (Sections.statements [(assistantKey, assistantEntries s)]) :=
  ReadsAs.header (by decide)
    (ReadsAs.setting (by decide) (readsValue_writeBool s.escalate)
      (ReadsAs.setting (by decide) (readsValue_ofNat s.timeoutSeconds.toNat) ReadsAs.nil))

/-- A configuration is written as a plain document of its sections. -/
theorem readsAs_print
    (c : Config) :
    ReadsAs c.print (sections c).statements := by
  have hlogging : IsBareKey loggingKey ∧ IsBareKey levelKey := by decide
  have hhighlight : IsBareKey highlightKey ∧ IsBareKey themeKey := by decide
  have hread : ReadsAs _ (sections c).statements :=
    readsAs_textSection hlogging.1 hlogging.2 c.logging.level
      (readsAs_textSection hhighlight.1 hhighlight.2 c.highlight.theme
        (readsAs_catalog c.catalog (readsAs_assistant c.assistant)))
  simpa only [print, List.append_assoc, List.cons_append, List.nil_append, List.append_nil]
    using hread

/-! ## Main results -/

/-- Every configuration is read back from what is written for it. -/
theorem decodeDocument_print
    (c : Config) :
    decodeDocument decode c.print = .ok c := by
  have hmark : c.print.head? ≠ some '\ufeff' := by
    have hhead : c.print.head? = some '[' := rfl
    rw [hhead]
    decide
  obtain ⟨table, htable, hlists⟩ := tableOf?_sections (sections_hasDistinctKeys c)
  have hdocument : readDocument? c.print = some table := by
    rw [readDocument?, readStatements?_eq hmark (readsAs_print c)]
    exact htable
  rw [decodeDocument, hdocument]
  exact decode_lists hlists

/-- Reading what is written checks the configuration itself: it is refused for its own
first problem, and otherwise it is what comes back. -/
theorem parse_print
    (c : Config) :
    parse c.print =
      match c.problem? with
      | some problem => .error (.inadmissible problem)
      | none => .ok c := by
  rw [parse, decodeDocument_print]
  rfl

end Config
end TeachingEditor
