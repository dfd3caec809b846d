import TeachingEditor.Proofs.Config

/-!
# Settings replace the defaults

A configuration is read section by section, and a section that is not there gets its
defaults in another way than a setting that is not there.  Here a configuration is
described by its seven settings alone: each of them has the value that the document
gives it, or else the one it has by default.

**Format.**  `KnownSetting` names the settings, `SettingType.Admits` says which values
they may have, and `setting?` is what a document says of one.  A document is well typed if
its sections are tables and its settings have their types; it is mistyped if a section
is a plain value or a setting has a value that it may not have.

**Algorithm.**  The sections are a family (`KnownSection`), and so are the fields of the
settings in them: the field of a setting reads exactly the values that the setting may
have (`check_eq_ok_iff`).  So the entries of a well-typed section pass whatever else is
in it (`Fits.readRecord_eq`), and a section that is missing is read like an empty one
(`optional_section`).

**Results.**
* `decode_eq_overlay`: a well-typed document is read as its settings over the defaults.
* `parse_overlays_defaults`: the same for texts, with the check behind it; that nothing
  but the seven settings counts; and that a mistyped document is never checked.
-/

namespace TeachingEditor
namespace Config

open Toml

/-! ## The settings -/

/-- A section that the program knows. -/
inductive KnownSection where
  | logging
  | highlight
  | catalog
  | assistant
  deriving DecidableEq

/-- The type of a setting. -/
inductive SettingType where
  | text
  | flag
  | seconds

/-- The values of a type; a number of seconds has at most 64 bits. -/
inductive SettingType.Admits : SettingType → Value → Prop
  | text {t : Text} :
      Admits text (.string t)
  | flag {b : Bool} :
      Admits flag (.boolean b)
  | seconds {n : Int}
      (hlow : 0 ≤ n)
      (hhigh : n < 2 ^ 64) :
      Admits seconds (.integer n)

/-- A setting that the program knows. -/
inductive KnownSetting where
  | level
  | theme
  | vocabulary
  | completions
  | knowledge
  | escalate
  | timeout
  deriving DecidableEq

namespace KnownSetting

/-- The section of a setting. -/
def place : KnownSetting → KnownSection
  | level => .logging
  | theme => .highlight
  | vocabulary | completions | knowledge => .catalog
  | escalate | timeout => .assistant

/-- The key of a setting in its section. -/
def key : KnownSetting → Text
  | level => levelKey
  | theme => themeKey
  | vocabulary => vocabularyPathKey
  | completions => completionsPathKey
  | knowledge => knowledgePathKey
  | escalate => escalateKey
  | timeout => timeoutKey

/-- The type of a setting. -/
def type : KnownSetting → SettingType
  | level | theme | vocabulary | completions | knowledge => .text
  | escalate => .flag
  | timeout => .seconds

/-- A setting as a field of its section. -/
def field : KnownSetting → Field
  | level => Toml.field levelKey decodeText
  | theme => Toml.field themeKey decodeText
  | vocabulary => Toml.field vocabularyPathKey decodePath
  | completions => Toml.field completionsPathKey decodePath
  | knowledge => Toml.field knowledgePathKey decodePath
  | escalate => Toml.field escalateKey decodeBool
  | timeout => Toml.field timeoutKey decodeUInt64

end KnownSetting

namespace KnownSection

/-- The key of a section. -/
def key : KnownSection → Text
  | logging => loggingKey
  | highlight => highlightKey
  | catalog => catalogKey
  | assistant => assistantKey

/-- The settings of a section. -/
def settings : KnownSection → List KnownSetting
  | logging => [.level]
  | highlight => [.theme]
  | catalog => [.vocabulary, .completions, .knowledge]
  | assistant => [.escalate, .timeout]

/-- The fields of a section. -/
def fields (p : KnownSection) : List Field :=
  p.settings.map KnownSetting.field

/-- A section as a field of the document. -/
def field : KnownSection → Field
  | logging => Toml.field loggingKey decodeLogging
  | highlight => Toml.field highlightKey decodeHighlight
  | catalog => Toml.field catalogKey decodeCatalog
  | assistant => Toml.field assistantKey decodeAssistant

/-- All sections. -/
def all : List KnownSection :=
  [logging, highlight, catalog, assistant]

end KnownSection

/-! ## What a document says -/

/-- The entries of a section; a section that is not there has none. -/
def sectionEntries (table : Table) (p : KnownSection) : Table :=
  match table.lookup p.key with
  | some (.table entries) => entries
  | _ => []

/-- What a document says of a setting. -/
def setting? (table : Table) (s : KnownSetting) : Option Value :=
  (sectionEntries table s.place).lookup s.key

/-- The text of a value. -/
def text? : Value → Option Text
  | .string t => some t
  | _ => none

/-- The path that a value sets. -/
def path? : Value → Option (Option Text)
  | .string t => some (some t)
  | _ => none

/-- The truth value of a value. -/
def flag? : Value → Option Bool
  | .boolean b => some b
  | _ => none

/-- The number of seconds of a value. -/
def seconds? : Value → Option UInt64
  | .integer n => some (UInt64.ofNat n.toNat)
  | _ => none

/-- The configuration by default, with the settings that are given in their places. -/
def overlay (given : KnownSetting → Option Value) : Config :=
  let base : Config := {}
  { logging :=
      { level := ((given .level).bind text?).getD base.logging.level }
    highlight :=
      { theme := ((given .theme).bind text?).getD base.highlight.theme }
    catalog :=
      { vocabulary := ((given .vocabulary).bind path?).getD base.catalog.vocabulary
        completions := ((given .completions).bind path?).getD base.catalog.completions
        knowledge := ((given .knowledge).bind path?).getD base.catalog.knowledge }
    assistant :=
      { escalate := ((given .escalate).bind flag?).getD base.assistant.escalate
        timeoutSeconds := ((given .timeout).bind seconds?).getD base.assistant.timeoutSeconds } }

/-- A text is a document with a table, and all its numbers can be held. -/
structure IsDocument (t : Text) (table : Table) : Prop where
  read : readDocument? t = some table
  holdable : ∀ entry ∈ table, Holdable entry.2

/-- The known sections are tables, and the known settings in them have their types. -/
structure WellTyped (table : Table) : Prop where
  sections : ∀ (p : KnownSection) (v : Value),
    (p.key, v) ∈ table → ∃ entries, v = .table entries
  settings : ∀ (s : KnownSetting) (entries : Table) (v : Value),
    (s.place.key, .table entries) ∈ table → (s.key, v) ∈ entries → s.type.Admits v

/-- A known section is a plain value, or a known setting in it has a value of another type. -/
inductive Mistyped (table : Table) : Prop
  | ofSection {p : KnownSection} {v : Value}
      (hsection : (p.key, v) ∈ table)
      (hv : IsScalar v)
  | ofSetting {s : KnownSetting} {entries : Table} {v : Value}
      (hsection : (s.place.key, .table entries) ∈ table)
      (hsetting : (s.key, v) ∈ entries)
      (hv : ¬ s.type.Admits v)

/-! ## Fields -/

theorem mem_settings_iff
    {s : KnownSetting} {p : KnownSection} :
    s ∈ p.settings ↔ s.place = p := by
  cases s <;> cases p <;> simp [KnownSection.settings, KnownSetting.place]

theorem KnownSection.mem_all
    (p : KnownSection) :
    p ∈ all := by
  cases p <;> simp [all]

theorem KnownSetting.field_name
    (s : KnownSetting) :
    s.field.name = s.key := by
  cases s <;> rfl

theorem KnownSection.field_name
    (p : KnownSection) :
    p.field.name = p.key := by
  cases p <;> rfl

theorem KnownSection.key_injective :
    Function.Injective KnownSection.key := by
  intro p q hkey
  cases p <;> cases q <;> first | rfl | exact absurd hkey (by decide)

theorem KnownSection.nodup_fields
    (p : KnownSection) :
    (p.fields.map Field.name).Nodup := by
  cases p <;> decide

theorem KnownSection.nodup_all :
    ((all.map field).map Field.name).Nodup := by
  decide

/-- A decoder accepts the values of a type only, and gives what they say. -/
structure Reads {α : Type} (type : SettingType) (decode : Decoder α) (read? : Value → Option α) :
    Prop where
  admits : ∀ v a, decode v = .ok a → type.Admits v
  reads : ∀ v, type.Admits v → ∃ a, decode v = .ok a ∧ read? v = some a

theorem reads_text :
    Reads .text decodeText text? where
  admits := by
    intro v a hread
    cases v with
    | string t => exact SettingType.Admits.text
    | _ => cases hread
  reads := by
    rintro _ ⟨⟩
    exact ⟨_, rfl, rfl⟩

theorem reads_path :
    Reads .text decodePath path? where
  admits := by
    intro v a hread
    cases v with
    | string t => exact SettingType.Admits.text
    | _ => cases hread
  reads := by
    rintro _ ⟨⟩
    exact ⟨_, rfl, rfl⟩

theorem reads_flag :
    Reads .flag decodeBool flag? where
  admits := by
    intro v a hread
    cases v with
    | boolean b => exact SettingType.Admits.flag
    | _ => cases hread
  reads := by
    rintro _ ⟨⟩
    exact ⟨_, rfl, rfl⟩

theorem reads_seconds :
    Reads .seconds decodeUInt64 seconds? where
  admits := by
    intro v a hread
    cases v with
    | integer n =>
        by_cases hrange : 0 ≤ n ∧ n < UInt64.size
        · exact SettingType.Admits.seconds hrange.1 hrange.2
        · have hnone : decodeUInt64 (.integer n) = .error .malformed := if_neg hrange
          rw [hnone] at hread
          cases hread
    | _ => cases hread
  reads := by
    rintro _ (_ | _ | ⟨hlow, hhigh⟩)
    exact ⟨_, if_pos ⟨hlow, hhigh⟩, rfl⟩

theorem Reads.check_eq_ok_iff
    {α : Type} {type : SettingType} {decode : Decoder α} {read? : Value → Option α} {v : Value}
    (h : Reads type decode read?)
    (name : Text) :
    (Toml.field name decode).check v = .ok () ↔ type.Admits v := by
  rw [check_field_eq_ok_iff]
  constructor
  · rintro ⟨a, hread⟩
    exact h.admits v a hread
  · intro hv
    obtain ⟨a, hread, -⟩ := h.reads v hv
    exact ⟨a, hread⟩

/-- The field of a setting reads exactly the values that the setting may have. -/
theorem check_eq_ok_iff
    (s : KnownSetting) (v : Value) :
    s.field.check v = .ok () ↔ s.type.Admits v := by
  cases s with
  | level => exact reads_text.check_eq_ok_iff levelKey
  | theme => exact reads_text.check_eq_ok_iff themeKey
  | vocabulary => exact reads_path.check_eq_ok_iff vocabularyPathKey
  | completions => exact reads_path.check_eq_ok_iff completionsPathKey
  | knowledge => exact reads_path.check_eq_ok_iff knowledgePathKey
  | escalate => exact reads_flag.check_eq_ok_iff escalateKey
  | timeout => exact reads_seconds.check_eq_ok_iff timeoutKey

/-! ## Sections -/

/-- Entries that a section may have. -/
structure Fits (p : KnownSection) (entries : Table) : Prop where
  holdable : ∀ entry ∈ entries, Holdable entry.2
  admits : ∀ s ∈ p.settings, ∀ v, (s.key, v) ∈ entries → s.type.Admits v

variable {p : KnownSection} {entries table : Table}

theorem fits_nil
    (p : KnownSection) :
    Fits p [] where
  holdable _ hentry := absurd hentry List.not_mem_nil
  admits _ _ _ hentry := absurd hentry List.not_mem_nil

theorem Fits.readRecord_eq
    (h : Fits p entries) :
    readRecord p.fields (.table entries) = .ok ⟨entries, false⟩ := by
  refine readRecord_eq_ok h.holdable ?_
  intro f hf v hentry
  obtain ⟨s, hs, rfl⟩ := List.mem_map.1 hf
  rw [s.field_name] at hentry
  exact (check_eq_ok_iff s v).2 (h.admits s hs v hentry)

/-- A setting in entries that fit has the value of its entry, or the one by default. -/
theorem Fits.optional_eq
    {α : Type} {type : SettingType} {decode : Decoder α} {read? : Value → Option α}
    (h : Fits p entries)
    (name : Text)
    (hreads : Reads type decode read?)
    (hsetting : ∃ s ∈ p.settings, s.key = name ∧ s.type = type)
    (default : α) :
    Record.optional ⟨entries, false⟩ name decode default =
      .ok (((entries.lookup name).bind read?).getD default) := by
  obtain ⟨s, hs, rfl, rfl⟩ := hsetting
  exact optional_eq_getD (fun v hentry => hreads.reads v (h.admits s hs v hentry)) default

theorem decodeLogging_eq
    (h : Fits .logging entries) :
    decodeLogging (.table entries) = .ok (overlay fun s => entries.lookup s.key).logging := by
  have hread :
      readRecord [Toml.field levelKey decodeText] (.table entries) = .ok ⟨entries, false⟩ :=
    h.readRecord_eq
  have hlevel := h.optional_eq levelKey reads_text ⟨.level, by decide, rfl, rfl⟩
  rw [decodeLogging, hread, ok_bind, hlevel, ok_bind]
  rfl

theorem decodeHighlight_eq
    (h : Fits .highlight entries) :
    decodeHighlight (.table entries) = .ok (overlay fun s => entries.lookup s.key).highlight := by
  have hread :
      readRecord [Toml.field themeKey decodeText] (.table entries) = .ok ⟨entries, false⟩ :=
    h.readRecord_eq
  have htheme := h.optional_eq themeKey reads_text ⟨.theme, by decide, rfl, rfl⟩
  rw [decodeHighlight, hread, ok_bind, htheme, ok_bind]
  rfl

theorem decodeCatalog_eq
    (h : Fits .catalog entries) :
    decodeCatalog (.table entries) = .ok (overlay fun s => entries.lookup s.key).catalog := by
  have hread :
      readRecord
          [Toml.field vocabularyPathKey decodePath, Toml.field completionsPathKey decodePath,
            Toml.field knowledgePathKey decodePath] (.table entries) =
        .ok ⟨entries, false⟩ :=
    h.readRecord_eq
  have hvocabulary :=
    h.optional_eq vocabularyPathKey reads_path ⟨.vocabulary, by decide, rfl, rfl⟩
  have hcompletions :=
    h.optional_eq completionsPathKey reads_path ⟨.completions, by decide, rfl, rfl⟩
  have hknowledge :=
    h.optional_eq knowledgePathKey reads_path ⟨.knowledge, by decide, rfl, rfl⟩
  rw [decodeCatalog, hread, ok_bind, hvocabulary, ok_bind, hcompletions, ok_bind, hknowledge,
    ok_bind]
  rfl

theorem decodeAssistant_eq
    (h : Fits .assistant entries) :
    decodeAssistant (.table entries) = .ok (overlay fun s => entries.lookup s.key).assistant := by
  have hread :
      readRecord [Toml.field escalateKey decodeBool, Toml.field timeoutKey decodeUInt64]
          (.table entries) =
        .ok ⟨entries, false⟩ :=
    h.readRecord_eq
  have hescalate := h.optional_eq escalateKey reads_flag ⟨.escalate, by decide, rfl, rfl⟩
  have htimeout := h.optional_eq timeoutKey reads_seconds ⟨.timeout, by decide, rfl, rfl⟩
  rw [decodeAssistant, hread, ok_bind, hescalate, ok_bind, htimeout, ok_bind]
  rfl

/-- A section whose entries fit passes as a field of the document. -/
theorem Fits.check_eq
    (h : Fits p entries) :
    p.field.check (.table entries) = .ok () := by
  cases p with
  | logging => exact check_field_eq_ok_iff.2 ⟨_, decodeLogging_eq h⟩
  | highlight => exact check_field_eq_ok_iff.2 ⟨_, decodeHighlight_eq h⟩
  | catalog => exact check_field_eq_ok_iff.2 ⟨_, decodeCatalog_eq h⟩
  | assistant => exact check_field_eq_ok_iff.2 ⟨_, decodeAssistant_eq h⟩

/-- A section passes as a field of the document only if it is a record of its fields. -/
theorem exists_readRecord_of_check
    {v : Value}
    (hcheck : p.field.check v = .ok ()) :
    ∃ r, readRecord p.fields v = .ok r := by
  -- Every section begins with reading the record of its fields.
  cases p
  all_goals
    obtain ⟨a, hread⟩ := check_field_eq_ok_iff.1 hcheck
    obtain ⟨r, hrecord, -⟩ := bind_eq_ok_iff.1 hread
    exact ⟨r, hrecord⟩

/-! ## Documents -/

theorem WellTyped.fits
    (h : WellTyped table)
    (hholdable : ∀ entry ∈ table, Holdable entry.2)
    (hsection : (p.key, .table entries) ∈ table) :
    Fits p entries where
  holdable := by
    cases hholdable _ hsection with
    | table hentries => exact hentries
  admits := by
    intro s hs v hentry
    obtain rfl := mem_settings_iff.1 hs
    exact h.settings s entries v hsection hentry

theorem WellTyped.fits_sectionEntries
    (h : WellTyped table)
    (hholdable : ∀ entry ∈ table, Holdable entry.2)
    (p : KnownSection) :
    Fits p (sectionEntries table p) := by
  unfold sectionEntries
  split
  · next entries hlookup => exact h.fits hholdable (mem_of_lookup hlookup)
  · exact fits_nil p

/-- A document with one section, whose entries fit, is well typed. -/
theorem Fits.wellTyped
    (h : Fits p entries) :
    WellTyped [(p.key, .table entries)] where
  sections := by
    intro q v hsection
    exact ⟨entries, (Prod.mk.inj (List.mem_singleton.1 hsection)).2⟩
  settings := by
    intro s others v hsection hsetting
    obtain ⟨hkey, hothers⟩ := Prod.mk.inj (List.mem_singleton.1 hsection)
    obtain rfl := Value.table.inj hothers
    exact h.admits s (mem_settings_iff.2 (KnownSection.key_injective hkey)) v hsetting

/-- Lines that say no more than one section, whose entries fit, are a document. -/
theorem Fits.isDocument
    {t : Text} {statements : List Statement}
    (h : Fits p entries)
    (hmark : t.head? ≠ some '\ufeff')
    (hread : ReadsAs t statements)
    (htable : tableOf? statements = some [(p.key, .table entries)]) :
    IsDocument t [(p.key, .table entries)] where
  read := by
    rw [readDocument?, readStatements?_eq hmark hread]
    exact htable
  holdable := by
    intro entry hentry
    obtain rfl := List.mem_singleton.1 hentry
    exact Holdable.table h.holdable

/-- A section that is not there is read like one without settings. -/
theorem WellTyped.optional_eq
    {α : Type} {decode : Decoder α} {default a : α}
    (h : WellTyped table)
    (p : KnownSection)
    (hempty : decode (.table []) = .ok default)
    (hread : decode (.table (sectionEntries table p)) = .ok a) :
    Record.optional ⟨table, false⟩ p.key decode default = .ok a := by
  unfold Record.optional
  unfold sectionEntries at hread
  cases hlookup : table.lookup p.key with
  | none =>
      rw [hlookup] at hread
      exact hempty.symm.trans hread
  | some v =>
      obtain ⟨entries, rfl⟩ := h.sections p v (mem_of_lookup hlookup)
      rw [hlookup] at hread
      exact hread

/-- A well-typed document is read as its settings over the defaults. -/
theorem decode_eq_overlay
    (h : WellTyped table)
    (hholdable : ∀ entry ∈ table, Holdable entry.2) :
    decode (.table table) = .ok (overlay (setting? table)) := by
  have hread :
      readRecord
          [Toml.field loggingKey decodeLogging, Toml.field highlightKey decodeHighlight,
            Toml.field catalogKey decodeCatalog, Toml.field assistantKey decodeAssistant]
          (.table table) =
        .ok ⟨table, false⟩ := by
    refine readRecord_eq_ok hholdable ?_
    intro f hf v hentry
    obtain ⟨p, -, rfl⟩ : ∃ p ∈ KnownSection.all, p.field = f := List.mem_map.1 hf
    rw [p.field_name] at hentry
    obtain ⟨entries, rfl⟩ := h.sections p v hentry
    exact (h.fits hholdable hentry).check_eq
  have hfits := h.fits_sectionEntries hholdable
  have hlogging : Record.optional ⟨table, false⟩ loggingKey decodeLogging {} = _ :=
    h.optional_eq .logging rfl (decodeLogging_eq (hfits .logging))
  have hhighlight : Record.optional ⟨table, false⟩ highlightKey decodeHighlight {} = _ :=
    h.optional_eq .highlight rfl (decodeHighlight_eq (hfits .highlight))
  have hcatalog : Record.optional ⟨table, false⟩ catalogKey decodeCatalog {} = _ :=
    h.optional_eq .catalog rfl (decodeCatalog_eq (hfits .catalog))
  have hassistant : Record.optional ⟨table, false⟩ assistantKey decodeAssistant {} = _ :=
    h.optional_eq .assistant rfl (decodeAssistant_eq (hfits .assistant))
  rw [decode, hread, ok_bind, hlogging, ok_bind, hhighlight, ok_bind, hcatalog, ok_bind,
    hassistant, ok_bind]
  rfl

/-- A document with a configuration is not mistyped. -/
theorem not_mistyped_of_decode
    {c : Config}
    (hread : decode (.table table) = .ok c) :
    ¬ Mistyped table := by
  obtain ⟨r, hrecord, -⟩ := bind_eq_ok_iff.1 hread
  have hsection :
      ∀ (p : KnownSection) (v : Value),
        (p.key, v) ∈ table → ∃ r, readRecord p.fields v = .ok r := by
    intro p v hentry
    rw [← p.field_name] at hentry
    have hfield : p.field ∈ KnownSection.all.map KnownSection.field :=
      List.mem_map_of_mem p.mem_all
    exact exists_readRecord_of_check
      (check_of_readRecord KnownSection.nodup_all hrecord hfield hentry)
  rintro (⟨hentry, hscalar⟩ | ⟨hentry, hsetting, hbad⟩)
  · obtain ⟨r, hr⟩ := hsection _ _ hentry
    rw [hscalar.readRecord_eq] at hr
    cases hr
  · next s entries v =>
      obtain ⟨r, hr⟩ := hsection _ _ hentry
      rw [← s.field_name] at hsetting
      refine hbad ((check_eq_ok_iff s v).1 (check_of_readRecord ?_ hr ?_ hsetting))
      · exact s.place.nodup_fields
      · exact List.mem_map_of_mem (mem_settings_iff.2 rfl)

/-! ## Main results -/

/--
How a document becomes a configuration.

1. A well-typed document gives the defaults with its settings in their places, and these
   are then checked.
2. So two well-typed documents with the same seven settings have the same outcome: the
   order of sections and keys, anything else that they hold, and whether a section is
   missing, empty or in part there, make no difference.
3. A mistyped document is unreadable.  It is never checked.
-/
theorem parse_overlays_defaults :
    (∀ t table, IsDocument t table → WellTyped table →
        parse t = (overlay (setting? table)).checked) ∧
      (∀ t table t' table', IsDocument t table → WellTyped table →
        IsDocument t' table' → WellTyped table' →
        (∀ s, setting? table s = setting? table' s) → parse t = parse t') ∧
      ∀ t table, readDocument? t = some table → Mistyped table →
        ∃ fault, parse t = .error (.unreadable fault) := by
  have hoverlay :
      ∀ t table, IsDocument t table → WellTyped table →
        parse t = (overlay (setting? table)).checked := by
    intro t table hdocument htyped
    rw [parse, decodeDocument, hdocument.read]
    simp only
    rw [decode_eq_overlay htyped hdocument.holdable]
  refine ⟨hoverlay, ?_, ?_⟩
  · intro t table t' table' hdocument htyped hdocument' htyped' hsame
    have hsettings : setting? table = setting? table' := funext hsame
    rw [hoverlay t table hdocument htyped, hoverlay t' table' hdocument' htyped', hsettings]
  · intro t table hdocument hmistyped
    rw [parse, decodeDocument, hdocument]
    cases hread : decode (.table table) with
    | error fault => exact ⟨fault, by simp [hread]⟩
    | ok c => exact absurd hmistyped (not_mistyped_of_decode hread)

/-- An unknown key in front of a setting makes no difference, and a number is no section. -/
theorem parse_overlays_defaults_unknown_key :
    parse "[assistant]\nx = 1\nescalate = false\n".toList =
        .ok { assistant := { escalate := false } } ∧
      parse "[assistant]\nx = 1\nescalate = false\n".toList =
        parse "[assistant]\nescalate = false\n".toList ∧
      ∃ fault, parse "logging = 1\n".toList = .error (.unreadable fault) := by
  have hknown : Fits .assistant [(escalateKey, .boolean false)] := by
    refine ⟨by simp [Holdable.boolean], ?_⟩
    intro s hs v hentry
    obtain ⟨hkey, rfl⟩ := Prod.mk.inj (List.mem_singleton.1 hentry)
    cases s <;> first | exact SettingType.Admits.flag | exact absurd hkey (by decide)
  have hboth : Fits .assistant [(escalateKey, .boolean false), ("x".toList, .integer 1)] := by
    have hone : Holdable (.integer 1) := Holdable.integer (by norm_num) (by norm_num)
    refine ⟨by simp [Holdable.boolean, hone], ?_⟩
    intro s hs v hentry
    rcases List.mem_cons.1 hentry with hfirst | hsecond
    · exact hknown.admits s hs v (List.mem_singleton.2 hfirst)
    · obtain ⟨hkey, rfl⟩ := Prod.mk.inj (List.mem_singleton.1 hsecond)
      cases s <;> exact absurd hkey (by decide)
  have hassistant : IsBareKey assistantKey := by decide
  have hescalate : IsBareKey escalateKey := by decide
  have hx : IsBareKey "x".toList := by decide
  have hone : ReadsValue "1".toList (.integer 1) := readsValue_ofNat 1
  have hfalse : ReadsValue "false".toList (.boolean false) := readsValue_writeBool false
  have hlast := ReadsAs.setting hescalate hfalse ReadsAs.nil
  have hdocument : IsDocument "[assistant]\nescalate = false\n".toList
      [(assistantKey, .table [(escalateKey, .boolean false)])] :=
    hknown.isDocument (by decide) (ReadsAs.header hassistant hlast) rfl
  have hlonger : IsDocument "[assistant]\nx = 1\nescalate = false\n".toList
      [(assistantKey, .table [(escalateKey, .boolean false), ("x".toList, .integer 1)])] :=
    hboth.isDocument (by decide)
      (ReadsAs.header hassistant (ReadsAs.setting hx hone hlast)) rfl
  have hnumber : readDocument? "logging = 1\n".toList = some [(loggingKey, .integer 1)] := by
    have hlogging : IsBareKey loggingKey := by decide
    have hread : ReadsAs "logging = 1\n".toList _ := ReadsAs.setting hlogging hone ReadsAs.nil
    rw [readDocument?, readStatements?_eq (by decide) hread]
    rfl
  have hmistyped : Mistyped [(loggingKey, .integer 1)] :=
    Mistyped.ofSection (p := .logging) (List.mem_singleton_self _) IsScalar.integer
  obtain ⟨hoverlay, hsame, hunread⟩ := parse_overlays_defaults
  refine ⟨hoverlay _ _ hlonger hboth.wellTyped, ?_, hunread _ _ hnumber hmistyped⟩
  refine hsame _ _ _ _ hlonger hboth.wellTyped hdocument hknown.wellTyped ?_
  intro s
  cases s <;> rfl

end Config
end TeachingEditor
