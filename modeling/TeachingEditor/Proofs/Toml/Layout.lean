import TeachingEditor.Proofs.Toml.Draft

/-!
# Documents laid out by hand

Whoever writes a document by hand puts remarks in front of it and empty lines between its
parts, and breaks long lists into lines.  All this says nothing.

**Format.**  A remark is a line behind a number sign.  A list of strings has them on one
line, with a comma and a space between them, or each on a line of its own, indented and with
a comma behind it.  In front of every setting of the document and of every block is an empty
line.

**Algorithm.**  A list is read whatever white space stands in front of its strings, and
with or without a comma behind the last one (`WritesStrings`), which covers both ways of
writing it.  Lines that say nothing are left out, so a layout makes the same statements as a
draft with the same settings and blocks.

**Results.**  `readDocument?_text`: a layout is read as its draft is.
-/

namespace TeachingEditor
namespace Toml

/-! ## Lists with white space in them -/

/-- White space and line breaks. -/
def IsFiller (t : Text) : Prop :=
  ∀ c ∈ t, isSpace c = true ∨ c = '\n'

theorem skipFiller_filler
    {filler : Text}
    (h : IsFiller filler)
    (rest : Text) :
    skipFiller (filler ++ rest) = skipFiller rest := by
  induction filler with
  | nil => rfl
  | cons c filler ih =>
      obtain ⟨hc, hfiller⟩ := List.forall_mem_cons.1 h
      have hskipped : (isSpace c || startsNewline c (filler ++ rest)) = true := by
        rcases hc with hc | rfl
        · simp [hc]
        · simp [startsNewline]
      rw [skipFiller] at ih
      rw [List.cons_append, skipFiller, skipFillerFrom, if_neg (by simp), if_pos hskipped,
        ih hfiller]

theorem skipFiller_close
    (rest : Text) :
    skipFiller (']' :: rest) = ']' :: rest :=
  skipFiller_cons rfl (by decide) (by decide) (by decide) rest

theorem skipFiller_quote
    (rest : Text) :
    skipFiller ('"' :: rest) = '"' :: rest :=
  skipFiller_cons rfl (by decide) (by decide) (by decide) rest

section Elements

variable {depth n : Nat}

/-- White space in front of an element is passed over. -/
theorem readItemsUpTo?_filler
    {filler : Text}
    (h : IsFiller filler)
    (rest : Text) :
    readItemsUpTo? (readValue? depth) (n + 1) (filler ++ rest) =
      readItemsUpTo? (readValue? depth) (n + 1) rest := by
  rw [readItemsUpTo?, readItemsUpTo?, skipFiller_filler h]

theorem readItemsUpTo?_close
    (after : Text) :
    readItemsUpTo? (readValue? depth) (n + 1) (']' :: after) = some ([], after) := by
  rw [readItemsUpTo?, skipFiller_close]
  rfl

/-- A string in front of the closing bracket is the last element. -/
theorem readItemsUpTo?_last
    (t after : Text) :
    readItemsUpTo? (readValue? depth) (n + 1) (writeAs .basic t ++ ']' :: after) =
      some ([.string t], after) := by
  have hread : readValue? depth (writeAs .basic t ++ ']' :: after) =
      some (.string t, ']' :: after) :=
    readValue?_writeAs_basic depth t (by simp)
  rw [writeAs_basic, List.cons_append, List.append_assoc] at hread ⊢
  rw [readItemsUpTo?, skipFiller_quote]
  simp [hread, skipFiller_close]

/-- A string in front of a comma is followed by further elements. -/
theorem readItemsUpTo?_element
    (t rest : Text) :
    readItemsUpTo? (readValue? depth) (n + 1) (writeAs .basic t ++ ',' :: rest) =
      (readItemsUpTo? (readValue? depth) n rest).map fun read => (.string t :: read.1, read.2) := by
  have hread : readValue? depth (writeAs .basic t ++ ',' :: rest) =
      some (.string t, ',' :: rest) :=
    readValue?_writeAs_basic depth t (by simp)
  rw [writeAs_basic, List.cons_append, List.append_assoc] at hread ⊢
  rw [readItemsUpTo?, skipFiller_quote]
  simp [hread, skipFiller_comma, Option.map_eq_bind]

end Elements

/--
Strings up to the bracket that closes their list.  White space may stand in front of each
and in front of the bracket, and the last string needs no comma.
-/
inductive WritesStrings : List Text → Text → Prop
  | close {filler : Text}
      (hfiller : IsFiller filler) :
      WritesStrings [] (filler ++ [']'])
  | last {filler t : Text}
      (hfiller : IsFiller filler) :
      WritesStrings [t] (filler ++ (writeAs .basic t ++ [']']))
  | element {filler t written : Text} {texts : List Text}
      (hfiller : IsFiller filler)
      (htexts : WritesStrings texts written) :
      WritesStrings (t :: texts) (filler ++ (writeAs .basic t ++ ',' :: written))

namespace WritesStrings

variable {texts : List Text} {written : Text}

theorem length_le
    (h : WritesStrings texts written) :
    texts.length ≤ written.length := by
  induction h with
  | close => exact Nat.zero_le _
  | last =>
      simp only [writeAs_basic, List.length_append, List.length_cons]
      omega
  | element hfiller htexts ih =>
      simp only [List.length_cons, List.length_append]
      omega

/-- The strings are read up to the closing bracket. -/
theorem readItemsUpTo?_eq
    (h : WritesStrings texts written)
    {n : Nat}
    (hn : texts.length < n)
    (depth : Nat) (after : Text) :
    readItemsUpTo? (readValue? depth) n (written ++ after) =
      some (texts.map .string, after) := by
  induction h generalizing n with
  | close hfiller =>
      obtain ⟨n, rfl⟩ := Nat.exists_eq_add_of_lt hn
      rw [List.append_assoc, readItemsUpTo?_filler hfiller]
      exact readItemsUpTo?_close after
  | @last filler t hfiller =>
      obtain ⟨n, rfl⟩ := Nat.exists_eq_add_of_lt hn
      rw [List.append_assoc, readItemsUpTo?_filler hfiller, List.append_assoc]
      exact readItemsUpTo?_last t after
  | @element filler t written texts hfiller htexts ih =>
      obtain ⟨n, rfl⟩ := Nat.exists_eq_add_of_lt hn
      have hothers := ih (n := texts.length + 1 + n) (by omega)
      rw [List.append_assoc, readItemsUpTo?_filler hfiller, List.append_assoc, List.cons_append,
        List.length_cons, readItemsUpTo?_element, hothers]
      rfl

theorem readsValue
    (h : WritesStrings texts written) :
    ReadsValue ('[' :: written) (.array (texts.map .string)) where
  starts := ⟨'[', written, rfl, rfl⟩
  read := by
    intro rest
    have hlength : texts.length < (written ++ '\n' :: rest).length + 1 := by
      have hle := h.length_le
      simp only [List.length_append]
      omega
    rw [List.cons_append, maxDepth, readValue?, h.readItemsUpTo?_eq hlength]
    rfl

end WritesStrings

/-- Strings with a comma and a space between them, up to the closing bracket. -/
def writeRow : List Text → Text
  | [] => [']']
  | [t] => writeAs .basic t ++ [']']
  | t :: u :: rest => writeAs .basic t ++ ',' :: ' ' :: writeRow (u :: rest)

/-- Strings on a line each, up to the closing bracket. -/
def writeColumn : List Text → Text
  | [] => [']']
  | t :: rest => List.replicate 4 ' ' ++ (writeAs .basic t ++ ',' :: '\n' :: writeColumn rest)

theorem writesStrings_row
    {filler : Text}
    (hfiller : IsFiller filler)
    (texts : List Text) :
    WritesStrings texts (filler ++ writeRow texts) := by
  induction texts generalizing filler with
  | nil => exact .close hfiller
  | cons t texts ih =>
      cases texts with
      | nil => exact .last hfiller
      | cons u rest =>
          have hspace : IsFiller [' '] := List.forall_mem_singleton.2 (Or.inl rfl)
          exact .element hfiller (ih hspace)

theorem writesStrings_column
    {filler : Text}
    (hfiller : IsFiller filler)
    (texts : List Text) :
    WritesStrings texts (filler ++ writeColumn texts) := by
  induction texts generalizing filler with
  | nil => exact .close hfiller
  | cons t texts ih =>
      have hbreak : IsFiller ['\n'] := List.forall_mem_singleton.2 (Or.inr rfl)
      have hindent : IsFiller (filler ++ List.replicate 4 ' ') := by
        refine List.forall_mem_append.2 ⟨hfiller, ?_⟩
        intro c hc
        rw [List.eq_of_mem_replicate hc]
        exact Or.inl rfl
      have helement := WritesStrings.element (t := t) hindent (ih hbreak)
      rwa [List.append_assoc] at helement

/-! ## Layouts -/

/-- A value as it is laid out: a string, or strings on one line or on a line each. -/
inductive LaidValue where
  | text (t : Text)
  | row (texts : List Text)
  | column (texts : List Text)

namespace LaidValue

/-- The value that is laid out. -/
def value : LaidValue → Value
  | text t => .string t
  | row texts => .array (texts.map .string)
  | column texts => .array (texts.map .string)

/-- A laid-out value as it stands behind its equals sign. -/
def write : LaidValue → Text
  | text t => writeAs .basic t
  | row texts => '[' :: writeRow texts
  | column texts => '[' :: '\n' :: writeColumn texts

theorem readsValue
    (v : LaidValue) :
    ReadsValue v.write v.value := by
  cases v with
  | text t =>
      refine ⟨⟨'"', _, writeAs_basic t, rfl⟩, ?_⟩
      intro rest
      exact readValue?_writeAs_basic maxDepth t (by simp)
  | row texts => exact (writesStrings_row (List.forall_mem_nil _) texts).readsValue
  | column texts =>
      have hbreak : IsFiller ['\n'] := List.forall_mem_singleton.2 (Or.inr rfl)
      exact (writesStrings_column hbreak texts).readsValue

theorem arrange_value
    (v : LaidValue) :
    arrange v.value = v.value := by
  cases v with
  | text t => rw [value, arrange]
  | row texts => simp [value, arrange, arrangeItems_eq, Function.comp_def]
  | column texts => simp [value, arrange, arrangeItems_eq, Function.comp_def]

theorem writable_value
    (v : LaidValue) :
    Writable 1 v.value := by
  cases v with
  | text t => exact .string
  | row texts => exact .array (List.forall_mem_map.2 fun _ _ => .string)
  | column texts => exact .array (List.forall_mem_map.2 fun _ _ => .string)

end LaidValue

/-- Settings as they are laid out. -/
abbrev LaidSettings := List (Text × LaidValue)

namespace LaidSettings

/-- The entries that are laid out. -/
def values (settings : LaidSettings) : Table :=
  mapValues LaidValue.value settings

/-- The line of a setting; further lines of a list belong to it. -/
def writeLine (pair : Text × LaidValue) : Text :=
  writeKey pair.1 ++ " = ".toList ++ pair.2.write ++ ['\n']

theorem arrangeEntries_values
    (settings : LaidSettings) :
    arrangeEntries settings.values = settings.values := by
  rw [arrangeEntries_eq, values, mapValues_mapValues]
  simp only [LaidValue.arrange_value]

theorem writable_values
    (settings : LaidSettings) :
    ∀ pair ∈ settings.values, Writable maxDepth pair.2 := by
  refine List.forall_mem_map.2 ?_
  intro pair _
  exact pair.2.writable_value.mono (by decide)

variable {rest : Text} {statements : List Statement}

theorem readsAs_line
    (pair : Text × LaidValue)
    (hrest : ReadsAs rest statements) :
    ReadsAs (writeLine pair ++ rest)
      (.setting (plainSetting (pair.1, pair.2.value)) :: statements) :=
  ReadsAs.writtenSetting (readsKey_writeKey pair.1) pair.2.readsValue hrest

theorem readsAs_lines
    (settings : LaidSettings)
    (hrest : ReadsAs rest statements) :
    ReadsAs (settings.flatMap writeLine ++ rest)
      (settings.values.map (fun pair => .setting (plainSetting pair)) ++ statements) := by
  induction settings with
  | nil => exact hrest
  | cons pair settings ih =>
      rw [List.flatMap_cons, List.append_assoc]
      exact readsAs_line pair ih

end LaidSettings

/-- A document as it is laid out. -/
structure Layout where
  /-- What stands behind the number signs of the first lines. -/
  remarks : List Text
  settings : LaidSettings := []
  blocks : List LaidSettings := []

namespace Layout

/-- The line of a remark. -/
def writeRemark (remark : Text) : Text :=
  '#' :: remark ++ ['\n']

/-- An empty line and the lines of a block. -/
def writeBlock (key : Text) (block : LaidSettings) : Text :=
  '\n' :: ('[' :: '[' :: writeKey key ++ [']', ']', '\n'] ++ block.flatMap LaidSettings.writeLine)

/-- The text of a layout whose blocks have a key. -/
def text (key : Text) (l : Layout) : Text :=
  l.remarks.flatMap writeRemark ++
    (l.settings.flatMap (fun pair => '\n' :: LaidSettings.writeLine pair) ++
      l.blocks.flatMap (writeBlock key))

/-- What a layout says. -/
def draft (l : Layout) : Draft :=
  ⟨l.settings.values, l.blocks.map LaidSettings.values⟩

/-! ## Reading a layout -/

variable {rest : Text} {statements : List Statement}

/-- Remarks say nothing. -/
theorem readsAs_remarks
    {remarks : List Text}
    (hplain : ∀ remark ∈ remarks, ∀ c ∈ remark, isPlainChar c = true)
    (hrest : ReadsAs rest statements) :
    ReadsAs (remarks.flatMap writeRemark ++ rest) statements := by
  induction remarks with
  | nil => exact hrest
  | cons remark remarks ih =>
      obtain ⟨hremark, hremarks⟩ := List.forall_mem_cons.1 hplain
      rw [List.flatMap_cons, List.append_assoc]
      exact ReadsAs.comment hremark (ih hremarks)

theorem readsAs_settings
    (settings : LaidSettings)
    (hrest : ReadsAs rest statements) :
    ReadsAs (settings.flatMap (fun pair => '\n' :: LaidSettings.writeLine pair) ++ rest)
      (settings.values.map (fun pair => .setting (plainSetting pair)) ++ statements) := by
  induction settings with
  | nil => exact hrest
  | cons pair settings ih =>
      rw [List.flatMap_cons, List.append_assoc]
      exact ReadsAs.blank (LaidSettings.readsAs_line pair ih)

theorem readsAs_blocks
    (key : Text) (blocks : List LaidSettings) :
    ReadsAs (blocks.flatMap (writeBlock key))
      (elementStatements key (blocks.map LaidSettings.values)) := by
  induction blocks with
  | nil => exact ReadsAs.nil
  | cons block blocks ih =>
      have hlines := ReadsAs.element (readsKey_writeKey key) (block.readsAs_lines ih)
      rw [List.flatMap_cons, writeBlock, List.cons_append, List.append_assoc]
      exact ReadsAs.blank hlines

/-- No text of a layout begins with a byte order mark. -/
theorem head?_text_ne
    (key : Text) (l : Layout) :
    (l.text key).head? ≠ some '\ufeff' := by
  obtain ⟨remarks, settings, blocks⟩ := l
  cases remarks with
  | cons remark remarks => simp [text, writeRemark]
  | nil =>
      cases settings with
      | cons pair settings => simp [text]
      | nil =>
          cases blocks with
          | cons block blocks => simp [text, writeBlock]
          | nil => simp [text]

/-- A layout is read as its draft is. -/
theorem readDocument?_text
    (key : Text) {l : Layout}
    (hplain : ∀ remark ∈ l.remarks, ∀ c ∈ remark, isPlainChar c = true) :
    readDocument? (l.text key) = readDocument? (l.draft.text key) := by
  have hlayout :
      ReadsAs (l.text key)
        (l.settings.values.map (fun pair => .setting (plainSetting pair)) ++
          elementStatements key (l.blocks.map LaidSettings.values)) :=
    readsAs_remarks hplain (readsAs_settings l.settings (readsAs_blocks key l.blocks))
  have hblocks : ∀ block ∈ l.draft.blocks, ∀ pair ∈ block, Writable maxDepth pair.2 :=
    List.forall_mem_map.2 fun block _ => block.writable_values
  have harranged : l.draft.blocks.map arrangeEntries = l.draft.blocks := by
    simp [draft, LaidSettings.arrangeEntries_values]
  have hdraft := Toml.readsAs_lines l.settings.writable_values (Toml.readsAs_blocks key hblocks)
  rw [LaidSettings.arrangeEntries_values, harranged] at hdraft
  rw [readDocument?, readDocument?, readStatements?_eq (head?_text_ne key l) hlayout,
    readStatements?_eq (Draft.head?_text_ne key l.draft) hdraft]
  rfl

end Layout

end Toml
end TeachingEditor
