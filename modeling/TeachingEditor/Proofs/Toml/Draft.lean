import TeachingEditor.Proofs.Toml.Writing

/-!
# Written documents are read back

A list of records can be written as an array behind one key, or with a block of lines for
each of the records.  Both say the same.

**Format.**  A draft has settings, one on a line, and blocks behind them.  A block begins
with the key of the list between two pairs of brackets, and has a setting on each line.

**Algorithm.**  The lines are read one by one.  The first block makes an array of tables
under its key, and each block behind it replaces this array by one with an element more
(`enterAll?_elements`).  Closed, the array is what it would be as a value.

**Results.**  `readDocument?_text`: a draft is read as its entries, in which the blocks are
the elements of an array, with all keys in their places.
-/

namespace TeachingEditor
namespace Toml

/-- A document before it is written: settings, and blocks that are the elements of a list. -/
structure Draft where
  settings : Table
  blocks : List Table := []

/-- The line of a setting. -/
def writeLine (pair : Text × Value) : Text :=
  writeKey pair.1 ++ " = ".toList ++ writeValue pair.2 ++ ['\n']

/-- The lines of a block. -/
def writeBlock (key : Text) (block : Table) : Text :=
  '[' :: '[' :: writeKey key ++ [']', ']', '\n'] ++ block.flatMap writeLine

namespace Draft

/-- The text of a draft whose blocks have a key. -/
def text (key : Text) (d : Draft) : Text :=
  d.settings.flatMap writeLine ++ d.blocks.flatMap (writeBlock key)

/-- The entries of a draft; all of its blocks are one entry. -/
def entries (key : Text) (d : Draft) : Table :=
  d.settings ++ if d.blocks = [] then [] else [(key, .array (d.blocks.map .table))]

end Draft

/-! ## Elements of an array of tables -/

/-- The header of a further element. -/
def elementHeader (key : Text) : Header :=
  ⟨[], key, true⟩

/-- The statements of blocks. -/
def elementStatements (key : Text) : List Table → List Statement
  | [] => []
  | block :: rest =>
      .header (elementHeader key) ::
        (block.map (fun pair => .setting (plainSetting pair)) ++ elementStatements key rest)

/-- The headers of blocks, each with its settings. -/
def elementBlocks (key : Text) (blocks : List Table) : List (Header × List Setting) :=
  blocks.map fun block => (elementHeader key, block.map plainSetting)

theorem groupStatements_elements
    (key : Text) (blocks : List Table) :
    groupStatements (elementStatements key blocks) = ([], elementBlocks key blocks) := by
  induction blocks with
  | nil => rfl
  | cons block blocks ih =>
      rw [elementStatements, groupStatements, groupStatements_settings, ih]
      simp [elementBlocks]

variable {key : Text} {block : Table} {entries : Entries}

/-- The first element makes the array. -/
theorem enter?_first
    (hkey : entries.lookup key = none)
    (hnodup : (block.map Prod.fst).Nodup) :
    (elementHeader key).enter? (block.map plainSetting) entries =
      some (putEntry key (.tables [] (settingEntries block)) entries) := by
  simp [Header.enter?, elementHeader, changeAt?, Header.openIn?, hkey, assignAll?_new hnodup]

/-- A further element closes the one before it. -/
theorem enter?_next
    (hnodup : (block.map Prod.fst).Nodup)
    (earlier : List Value) (last entries : Entries) :
    (elementHeader key).enter? (block.map plainSetting)
        (putEntry key (.tables earlier last) entries) =
      some (putEntry key
        (.tables (earlier ++ [.table (sealEntries last)]) (settingEntries block)) entries) := by
  have hkey :
      (putEntry key (.tables earlier last) entries).lookup key = some (.tables earlier last) := by
    rw [lookup_putEntry, if_pos rfl]
  simp [Header.enter?, elementHeader, changeAt?, Header.openIn?, hkey, assignAll?_new hnodup,
    putEntry_putEntry]

/-- Further elements are added to an array of tables, in their order. -/
theorem enterAll?_elements
    (key : Text) {blocks : List Table}
    (hnodup : ∀ block ∈ blocks, (block.map Prod.fst).Nodup)
    (earlier : List Value) (last entries : Entries) :
    ∃ array,
      enterAll? (elementBlocks key blocks) (putEntry key (.tables earlier last) entries) =
          some (putEntry key array entries) ∧
        array.seal =
          .array (earlier ++
            .table (sealEntries last) :: blocks.map fun block => .table (sectionTable block)) := by
  induction blocks generalizing earlier last with
  | nil => exact ⟨.tables earlier last, rfl, rfl⟩
  | cons block blocks ih =>
      obtain ⟨hblock, hblocks⟩ := List.forall_mem_cons.1 hnodup
      obtain ⟨array, henter, hseal⟩ :=
        ih hblocks (earlier ++ [.table (sealEntries last)]) (settingEntries block)
      refine ⟨array, ?_, ?_⟩
      · rw [elementBlocks, List.map_cons, enterAll?, enter?_next hblock, Option.bind_some]
        exact henter
      · rw [hseal, List.map_cons, sectionTable, List.append_assoc]
        rfl

/-! ## The table of a draft -/

/-- Settings and the elements of a list are put into their places. -/
theorem tableOf?_draft
    {settings : Table} {blocks : List Table}
    (hkeys : (settings.map Prod.fst).Nodup)
    (hfresh : blocks ≠ [] → key ∉ settings.map Prod.fst)
    (hblocks : ∀ block ∈ blocks, (block.map Prod.fst).Nodup) :
    tableOf? (settings.map (fun pair => .setting (plainSetting pair)) ++
        elementStatements key blocks) =
      some (sectionTable (settings ++ if blocks = [] then []
        else [(key, .array (blocks.map fun block => .table (sectionTable block)))])) := by
  rw [tableOf?, groupStatements_settings, groupStatements_elements]
  simp only [List.append_nil]
  rw [assignAll?_new hkeys, Option.bind_some]
  cases blocks with
  | nil =>
      rw [if_pos rfl, List.append_nil]
      rfl
  | cons block blocks =>
      obtain ⟨hblock, hblocks⟩ := List.forall_mem_cons.1 hblocks
      have hkey : (settingEntries settings).lookup key = none := by
        have hnone := lookup_eq_none (hfresh (List.cons_ne_nil _ _))
        have hvalues : ((mapValues Node.value settings).map Prod.fst).Nodup := by
          rwa [mapValues_keys]
        rw [settingEntries, lookup_fill hvalues, lookup_mapValues, hnone]
        rfl
      obtain ⟨array, henter, hseal⟩ :=
        enterAll?_elements key hblocks [] (settingEntries block) (settingEntries settings)
      rw [elementBlocks, List.map_cons, enterAll?, enter?_first hkey hblock, Option.bind_some]
      rw [elementBlocks] at henter
      rw [henter, Option.map_some, sealEntries_eq, mapValues_putEntry, hseal, ← sealEntries_eq,
        if_neg (List.cons_ne_nil _ _), sectionTable_eq_fill (settings ++ _), fill_append,
        ← sectionTable_eq_fill]
      rfl

/-! ## Reading the text -/

variable {rest : Text} {statements : List Statement}

theorem readsAs_lines
    {settings : Table}
    (hsettings : ∀ pair ∈ settings, Writable maxDepth pair.2)
    (hrest : ReadsAs rest statements) :
    ReadsAs (settings.flatMap writeLine ++ rest)
      ((arrangeEntries settings).map (fun pair => .setting (plainSetting pair)) ++ statements) := by
  induction settings with
  | nil => exact hrest
  | cons pair settings ih =>
      obtain ⟨key, v⟩ := pair
      obtain ⟨hv, hsettings⟩ := List.forall_mem_cons.1 hsettings
      have hline :=
        ReadsAs.writtenSetting (readsKey_writeKey key) (readsAt_writeValue hv).readsValue
          (ih hsettings)
      rw [List.flatMap_cons, List.append_assoc]
      exact hline

theorem readsAs_blocks
    (key : Text) {blocks : List Table}
    (hblocks : ∀ block ∈ blocks, ∀ pair ∈ block, Writable maxDepth pair.2) :
    ReadsAs (blocks.flatMap (writeBlock key))
      (elementStatements key (blocks.map arrangeEntries)) := by
  induction blocks with
  | nil => exact ReadsAs.nil
  | cons block blocks ih =>
      obtain ⟨hblock, hblocks⟩ := List.forall_mem_cons.1 hblocks
      have hlines := ReadsAs.element (readsKey_writeKey key) (readsAs_lines hblock (ih hblocks))
      rw [List.flatMap_cons, writeBlock, List.append_assoc]
      exact hlines

namespace Draft

/-- A draft that the reader can read: nothing is nested too deep, and no key occurs twice. -/
structure IsWritable (key : Text) (d : Draft) : Prop where
  keys : ((d.entries key).map Prod.fst).Nodup
  settings : ∀ pair ∈ d.settings, Writable maxDepth pair.2
  blockKeys : ∀ block ∈ d.blocks, (block.map Prod.fst).Nodup
  blocks : ∀ block ∈ d.blocks, ∀ pair ∈ block, Writable maxDepth pair.2

/-- No text of a draft begins with a byte order mark. -/
theorem head?_text_ne
    (key : Text) (d : Draft) :
    (d.text key).head? ≠ some '\ufeff' := by
  obtain ⟨settings, blocks⟩ := d
  unfold text
  cases settings with
  | nil =>
      cases blocks with
      | nil => simp
      | cons block blocks => simp [writeBlock]
  | cons pair settings =>
      obtain ⟨c, others, hcons, hc⟩ := (readsKey_writeKey pair.1).starts
      have hmark : c ≠ '\ufeff' := by
        rcases hc with hc | rfl
        · exact Text.ne_of_class hc rfl
        · decide
      simpa [writeLine, hcons] using hmark

/-- A draft is not read when the value of its first setting is not. -/
theorem readDocument?_text_eq_none
    {settings : Table} {blocks : List Table} {pair : Text × Value}
    (hstarts : ∃ c rest, writeValue pair.2 = c :: rest ∧ isSpace c = false)
    (hvalue : ∀ rest, readValue? maxDepth (writeValue pair.2 ++ rest) = none) :
    readDocument? (text key ⟨pair :: settings, blocks⟩) = none := by
  have hmark := head?_text_ne key ⟨pair :: settings, blocks⟩
  have hshape : ∃ rest, text key ⟨pair :: settings, blocks⟩ =
      writeKey pair.1 ++ ' ' :: '=' :: ' ' :: (writeValue pair.2 ++ rest) := by
    simp [text, writeLine]
  obtain ⟨rest, htext⟩ := hshape
  rw [htext] at hmark ⊢
  have hline : readLine? (writeKey pair.1 ++ ' ' :: '=' :: ' ' :: (writeValue pair.2 ++ rest)) =
      none := by
    have hbegins : ∃ c others, writeValue pair.2 ++ rest = c :: others ∧ isSpace c = false := by
      obtain ⟨c, others, hcons, hc⟩ := hstarts
      exact ⟨c, others ++ rest, by rw [hcons]; rfl, hc⟩
    have hkey := readsKey_writeKey pair.1
    rw [readLine?_key hkey, readSetting?_eq hkey hbegins, hvalue]
    rfl
  rw [readDocument?, readStatements?_eq_none hmark (by simp) hline]
  rfl

/-- The entries of an arranged draft: the elements are arranged by themselves. -/
theorem arrangeEntries_entries
    (key : Text) (d : Draft) :
    arrangeEntries (d.entries key) =
      arrangeEntries d.settings ++ if d.blocks.map arrangeEntries = [] then []
        else [(key, .array ((d.blocks.map arrangeEntries).map fun block =>
          .table (sectionTable block)))] := by
  simp only [entries, arrangeEntries_eq, mapValues, List.map_append, List.map_eq_nil_iff]
  split
  · rfl
  · simp [arrange, arrangeItems_eq, arrangeEntries_eq, mapValues, Function.comp_def]

/-- A draft is read as its entries, with all keys in their places. -/
theorem readDocument?_text
    {d : Draft}
    (h : d.IsWritable key) :
    readDocument? (d.text key) = some (sectionTable (arrangeEntries (d.entries key))) := by
  have hread := readsAs_lines h.settings (readsAs_blocks key h.blocks)
  have hkeys : ∀ entries : Table, (arrangeEntries entries).map Prod.fst = entries.map Prod.fst := by
    intro entries
    rw [arrangeEntries_eq, mapValues_keys]
  have hnodup := h.keys
  rw [← hkeys, arrangeEntries_entries, List.map_append, List.nodup_append] at hnodup
  rw [readDocument?, readStatements?_eq (head?_text_ne key d) hread, Option.bind_some,
    arrangeEntries_entries]
  refine tableOf?_draft hnodup.1 ?_ ?_
  · intro hsome hmem
    refine hnodup.2.2 key hmem key ?_ rfl
    simp [hsome]
  · intro block hblock
    obtain ⟨source, hsource, rfl⟩ := List.mem_map.1 hblock
    rw [hkeys]
    exact h.blockKeys source hsource

end Draft

end Toml
end TeachingEditor
