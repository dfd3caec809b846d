import TeachingEditor.Proofs.Toml.Document
import TeachingEditor.Proofs.Toml.Section

/-!
# Written values are read back

Every value can be written on one line, with the keys of a table in any order.  The
reader gives the value back with the keys of all its tables in their places.

**Format.**  A string is quoted as texts are, a number has its decimal digits, and of
floats and dates one of each kind is written.  The elements of an array and the
entries of an inline table each have a comma behind them.

**Algorithm.**  A value stands in front of a comma or a line break, where it is read
whatever follows (`ReadsAt`).  So a list of elements is read by induction on it, and a
value by induction on its nesting, which is what bounds the reader (`Writable`).

**Results.**
* `readsAt_writeValue`: a value that is nested no deeper than the reader goes and has no
  key twice is read back.
* `readValue?_nestedArray`: arrays that are nested one deeper than the reader goes are refused.
-/

namespace TeachingEditor
namespace Toml

/-! ## Keys in their places -/

mutual

/-- A value with the keys of all its tables in their places. -/
def arrange : Value → Value
  | .array items => .array (arrangeItems items)
  | .table entries => .table (sectionTable (arrangeEntries entries))
  | .string t => .string t
  | .integer n => .integer n
  | .float inRange => .float inRange
  | .boolean b => .boolean b
  | .dateTime => .dateTime

/-- Elements with the keys of all tables in their places. -/
def arrangeItems : List Value → List Value
  | [] => []
  | v :: rest => arrange v :: arrangeItems rest

/-- Entries with the keys of the tables in their values in their places. -/
def arrangeEntries : Table → Table
  | [] => []
  | (key, v) :: rest => (key, arrange v) :: arrangeEntries rest

end

theorem arrangeItems_eq
    (items : List Value) :
    arrangeItems items = items.map arrange := by
  induction items with
  | nil => rfl
  | cons v items ih => rw [arrangeItems, ih, List.map_cons]

theorem arrangeEntries_eq
    (entries : Table) :
    arrangeEntries entries = mapValues arrange entries := by
  induction entries with
  | nil => rfl
  | cons entry entries ih =>
      obtain ⟨key, v⟩ := entry
      rw [arrangeEntries, ih]
      rfl

/-! ## Writing -/

/-- A key as it is written: bare where that is possible, and quoted otherwise. -/
def writeKey (key : Text) : Text :=
  if IsBareKey key then key else writeAs .basic key

/-- The decimal digits of an integer, with a sign in front if it is negative. -/
def writeInteger : Int → Text
  | .ofNat n => Text.ofNat n
  | .negSucc n => '-' :: Text.ofNat (n + 1)

mutual

/-- A value as it is written. -/
def writeValue : Value → Text
  | .string t => writeString t
  | .integer n => writeInteger n
  | .float true => "0.0".toList
  | .float false => "1e400".toList
  | .boolean true => "true".toList
  | .boolean false => "false".toList
  | .dateTime => "00:00".toList
  | .array items => '[' :: writeItems items
  | .table entries => '\x7b' :: writeEntries entries

/-- The elements of an array, up to the closing bracket. -/
def writeItems : List Value → Text
  | [] => [']']
  | v :: rest => writeValue v ++ ',' :: writeItems rest

/-- The entries of an inline table, up to the closing brace. -/
def writeEntries : Table → Text
  | [] => ['\x7d']
  | (key, v) :: rest =>
      writeKey key ++ ' ' :: '=' :: ' ' :: (writeValue v ++ ',' :: writeEntries rest)

end

/-- A value in which nothing is nested deeper than a number says, and no key occurs twice. -/
inductive Writable : Nat → Value → Prop
  | string {depth : Nat} {t : Text} :
      Writable depth (.string t)
  | integer {depth : Nat} {n : Int} :
      Writable depth (.integer n)
  | float {depth : Nat} {inRange : Bool} :
      Writable depth (.float inRange)
  | boolean {depth : Nat} {b : Bool} :
      Writable depth (.boolean b)
  | dateTime {depth : Nat} :
      Writable depth .dateTime
  | array {depth : Nat} {items : List Value}
      (hitems : ∀ v ∈ items, Writable depth v) :
      Writable (depth + 1) (.array items)
  | table {depth : Nat} {entries : Table}
      (hkeys : (entries.map Prod.fst).Nodup)
      (hentries : ∀ entry ∈ entries, Writable depth entry.2) :
      Writable (depth + 1) (.table entries)

theorem writable_array_iff
    {depth : Nat} {items : List Value} :
    Writable (depth + 1) (.array items) ↔ ∀ v ∈ items, Writable depth v :=
  ⟨fun | .array hitems => hitems, .array⟩

theorem writable_table_iff
    {depth : Nat} {entries : Table} :
    Writable (depth + 1) (.table entries) ↔
      (entries.map Prod.fst).Nodup ∧ ∀ entry ∈ entries, Writable depth entry.2 :=
  ⟨fun | .table hkeys hentries => ⟨hkeys, hentries⟩, fun h => .table h.1 h.2⟩

/-- More nesting is allowed. -/
theorem Writable.mono
    {depth deeper : Nat} {v : Value}
    (h : Writable depth v)
    (hdepth : depth ≤ deeper) :
    Writable deeper v := by
  induction h generalizing deeper with
  | string => exact .string
  | integer => exact .integer
  | float => exact .float
  | boolean => exact .boolean
  | dateTime => exact .dateTime
  | array hitems ih =>
      obtain ⟨deeper, rfl⟩ := Nat.exists_eq_add_of_lt hdepth
      exact .array fun v hv => ih v hv (Nat.le_add_right _ _)
  | table hkeys hentries ih =>
      obtain ⟨deeper, rfl⟩ := Nat.exists_eq_add_of_lt hdepth
      exact .table hkeys fun entry hentry => ih entry hentry (Nat.le_add_right _ _)

/-! ## Reading keys and simple values -/

theorem readsKey_writeKey
    (key : Text) :
    ReadsKey (writeKey key) key := by
  unfold writeKey
  split
  · next hkey => exact hkey.readsKey
  · exact readsKey_quoted key

/-- Whether a value can begin with a character. -/
def beginsValue (c : Char) : Bool :=
  isScalarChar c || c ∈ ['"', '\'', '[', '\x7b']

/-- Whether a character ends a value in a list and on a line. -/
def EndsValue (c : Char) : Prop :=
  c = ',' ∨ c = '\n'

/-- A text that is read as a value, with so much nesting, up to what ends the value. -/
structure ReadsAt (depth : Nat) (written : Text) (v : Value) : Prop where
  starts : ∃ c rest, written = c :: rest ∧ beginsValue c = true
  read : ∀ c, EndsValue c → ∀ rest,
    readValue? depth (written ++ c :: rest) = some (v, c :: rest)

theorem not_isSpace_of_beginsValue
    {c : Char}
    (hc : beginsValue c = true) :
    isSpace c = false := by
  have hblank : c ≠ ' ' := Text.ne_of_class hc rfl
  have htab : c ≠ '\t' := Text.ne_of_class hc rfl
  simp [isSpace, hblank, htab]

/-- What is read as a value up to a line break can stand behind an equals sign. -/
theorem ReadsAt.readsValue
    {written : Text} {v : Value}
    (h : ReadsAt maxDepth written v) :
    ReadsValue written v where
  starts := by
    obtain ⟨c, rest, hcons, hc⟩ := h.starts
    exact ⟨c, rest, hcons, not_isSpace_of_beginsValue hc⟩
  read := h.read '\n' (Or.inr rfl)

theorem readsAt_string
    (depth : Nat) (t : Text) :
    ReadsAt depth (writeString t) (.string t) where
  starts := by
    obtain ⟨rest, hwritten⟩ := writeString_head t
    refine ⟨_, rest, hwritten, ?_⟩
    rcases quote_chooseForm t with hquote | hquote
    · rw [hquote]
      rfl
    · rw [hquote]
      rfl
  read := by
    rintro c (rfl | rfl) rest
    · exact readValue?_writeString depth t (by simp)
    · exact readValue?_writeString depth t (by simp)

theorem readsAt_bare
    {written : Text} {v : Value}
    (hchars : written.all isScalarChar = true)
    (hne : written ≠ [])
    (hread : readScalar? written = some v)
    (depth : Nat) :
    ReadsAt depth written v where
  starts := by
    obtain ⟨c, rest, rfl⟩ := List.exists_cons_of_ne_nil hne
    have hc : isScalarChar c = true := List.all_eq_true.1 hchars c List.mem_cons_self
    exact ⟨c, rest, rfl, by simp [beginsValue, hc]⟩
  read := by
    intro c hc rest
    have hstop : isScalarChar c = false ∧ c ≠ ' ' := by
      rcases hc with rfl | rfl
      · decide
      · decide
    refine readValue?_bare (List.all_eq_true.1 hchars) hne hread ?_ (by simpa using hstop.2) depth
    intro d hd
    cases hd
    exact hstop.1

theorem scalarChars_ofNat
    (n : Nat) :
    (Text.ofNat n).all isScalarChar = true := by
  refine List.all_eq_true.2 ?_
  intro c hc
  simp [isScalarChar, Char.isAlphanum, allDigits_ofNat n c hc]

theorem readsAt_integer
    (depth : Nat) (n : Int) :
    ReadsAt depth (writeInteger n) (.integer n) := by
  cases n with
  | ofNat n =>
      exact readsAt_bare (scalarChars_ofNat n) (ofNat_ne_nil n) (readScalar?_ofNat n) depth
  | negSucc n =>
      refine readsAt_bare ?_ (List.cons_ne_nil _ _) ?_ depth
      · rw [List.all_cons, scalarChars_ofNat]
        rfl
      · rw [readScalar?_negative, Int.negSucc_eq]
        rfl

/-! ## Reading lists -/

theorem skipFiller_cons
    {c : Char}
    (hspace : isSpace c = false)
    (hcomment : c ≠ '#')
    (hbreak : c ≠ '\n')
    (hreturn : c ≠ '\r')
    (rest : Text) :
    skipFiller (c :: rest) = c :: rest := by
  simp [skipFiller, skipFillerFrom, startsNewline, hspace, hcomment, hbreak, hreturn]

theorem skipFiller_comma
    (rest : Text) :
    skipFiller (',' :: rest) = ',' :: rest :=
  skipFiller_cons rfl (by decide) (by decide) (by decide) rest

/-- Elements with commas behind them are read up to the closing bracket. -/
theorem readItemsUpTo?_writeItems
    {depth : Nat} {items : List Value}
    (hitems : ∀ v ∈ items, ReadsAt depth (writeValue v) (arrange v))
    {n : Nat}
    (hn : items.length < n)
    (after : Text) :
    readItemsUpTo? (readValue? depth) n (writeItems items ++ after) =
      some (arrangeItems items, after) := by
  induction items generalizing n with
  | nil =>
      obtain ⟨n, rfl⟩ := Nat.exists_eq_add_of_lt hn
      simp [writeItems, arrangeItems, readItemsUpTo?, skipFiller_cons, isSpace]
  | cons v items ih =>
      obtain ⟨hv, hrest⟩ := List.forall_mem_cons.1 hitems
      obtain ⟨n, rfl⟩ := Nat.exists_eq_add_of_lt hn
      have hread := hv.read ',' (Or.inl rfl) (writeItems items ++ after)
      have hothers := ih hrest (n := items.length + 1 + n) (by omega)
      obtain ⟨c, others, hcons, hc⟩ := hv.starts
      have hclose : c ≠ ']' := Text.ne_of_class hc rfl
      have hskip : ∀ t : Text, skipFiller (c :: t) = c :: t :=
        skipFiller_cons (not_isSpace_of_beginsValue hc) (Text.ne_of_class hc rfl)
          (Text.ne_of_class hc rfl) (Text.ne_of_class hc rfl)
      rw [hcons, List.cons_append] at hread
      rw [writeItems, hcons, List.append_assoc, List.cons_append, List.cons_append,
        List.length_cons, readItemsUpTo?, hskip]
      split
      · next h => exact absurd (List.cons.inj h).1 hclose
      · simp only [hread, Option.bind_eq_bind, Option.bind_some, skipFiller_comma]
        simp [hothers, arrangeItems]

/-- Entries with commas behind them are read up to the closing brace. -/
theorem readSettingsUpTo?_writeEntries
    {depth : Nat} {entries : Table}
    (hentries : ∀ entry ∈ entries, ReadsAt depth (writeValue entry.2) (arrange entry.2))
    {n : Nat}
    (hn : entries.length < n)
    (after : Text) :
    readSettingsUpTo? (readValue? depth) n (writeEntries entries ++ after) =
      some ((arrangeEntries entries).map plainSetting, after) := by
  induction entries generalizing n with
  | nil =>
      obtain ⟨n, rfl⟩ := Nat.exists_eq_add_of_lt hn
      simp [writeEntries, arrangeEntries, readSettingsUpTo?, skipFiller_cons, isSpace]
  | cons entry entries ih =>
      obtain ⟨key, v⟩ := entry
      obtain ⟨hv, hrest⟩ := List.forall_mem_cons.1 hentries
      obtain ⟨n, rfl⟩ := Nat.exists_eq_add_of_lt hn
      have hothers := ih hrest (n := entries.length + 1 + n) (by omega)
      have hvalue := hv.read ',' (Or.inl rfl) (writeEntries entries ++ after)
      have hstarts : ∃ c rest, writeValue v = c :: rest ∧ isSpace c = false := by
        obtain ⟨c, rest, hcons, hc⟩ := hv.starts
        exact ⟨c, rest, hcons, not_isSpace_of_beginsValue hc⟩
      have hread := readSetting?_written (readsKey_writeKey key) hstarts hvalue
      obtain ⟨c, others, hcons, hcomment, -, hbreak, hreturn, hclose, hspace⟩ :=
        (readsKey_writeKey key).exists_cons
      have hskip : ∀ t : Text, skipFiller (c :: t) = c :: t :=
        skipFiller_cons hspace hcomment hbreak hreturn
      rw [hcons, List.cons_append] at hread
      simp only [writeEntries, hcons, List.append_assoc, List.cons_append, List.length_cons]
      rw [readSettingsUpTo?, hskip]
      split
      · next h => exact absurd (List.cons.inj h).1 hclose
      · simp only [hread, Option.bind_eq_bind, Option.bind_some, skipFiller_comma]
        simp [hothers, arrangeEntries, plainSetting]

theorem length_le_writeItems
    (items : List Value) :
    items.length ≤ (writeItems items).length := by
  induction items with
  | nil => exact Nat.zero_le _
  | cons v items ih =>
      simp only [writeItems, List.length_append, List.length_cons]
      omega

theorem length_le_writeEntries
    (entries : Table) :
    entries.length ≤ (writeEntries entries).length := by
  induction entries with
  | nil => exact Nat.zero_le _
  | cons entry entries ih =>
      obtain ⟨key, v⟩ := entry
      simp only [writeEntries, List.length_append, List.length_cons]
      omega

theorem readsAt_array
    {depth : Nat} {items : List Value}
    (hitems : ∀ v ∈ items, ReadsAt depth (writeValue v) (arrange v)) :
    ReadsAt (depth + 1) (writeValue (.array items)) (arrange (.array items)) where
  starts := ⟨'[', writeItems items, rfl, rfl⟩
  read := by
    intro c _ rest
    have hlength : items.length < (writeItems items ++ c :: rest).length + 1 := by
      have hitems := length_le_writeItems items
      simp only [List.length_append]
      omega
    rw [writeValue, List.cons_append, readValue?, readItemsUpTo?_writeItems hitems hlength]
    rfl

theorem readsAt_table
    {depth : Nat} {entries : Table}
    (hkeys : (entries.map Prod.fst).Nodup)
    (hentries : ∀ entry ∈ entries, ReadsAt depth (writeValue entry.2) (arrange entry.2)) :
    ReadsAt (depth + 1) (writeValue (.table entries)) (arrange (.table entries)) where
  starts := ⟨'\x7b', writeEntries entries, rfl, rfl⟩
  read := by
    intro c _ rest
    have hlength : entries.length < (writeEntries entries ++ c :: rest).length + 1 := by
      have hentries := length_le_writeEntries entries
      simp only [List.length_append]
      omega
    have hnodup : ((arrangeEntries entries).map Prod.fst).Nodup := by
      rw [arrangeEntries_eq, mapValues_keys]
      exact hkeys
    rw [writeValue, List.cons_append, readValue?,
      readSettingsUpTo?_writeEntries hentries hlength]
    simp only [Option.bind_eq_bind, Option.bind_some, assignAll?_new hnodup]
    rfl

/-- A written value is read back, with the keys of its tables in their places. -/
theorem readsAt_writeValue
    {depth : Nat} {v : Value}
    (h : Writable depth v) :
    ReadsAt depth (writeValue v) (arrange v) := by
  induction h with
  | string => exact readsAt_string _ _
  | integer => exact readsAt_integer _ _
  | @float depth inRange =>
      cases inRange with
      | true => exact readsAt_bare rfl (List.cons_ne_nil _ _) rfl depth
      | false => exact readsAt_bare rfl (List.cons_ne_nil _ _) rfl depth
  | @boolean depth b =>
      cases b with
      | true => exact readsAt_bare rfl (List.cons_ne_nil _ _) rfl depth
      | false => exact readsAt_bare rfl (List.cons_ne_nil _ _) rfl depth
  | dateTime => exact readsAt_bare rfl (List.cons_ne_nil _ _) rfl _
  | array hitems ih => exact readsAt_array ih
  | table hkeys hentries ih => exact readsAt_table hkeys ih

/-! ## Deep nesting -/

/-- Empty arrays in each other, nested one deeper than a number says. -/
def nestedArray : Nat → Value
  | 0 => .array []
  | n + 1 => .array [nestedArray n]

/-- What is nested deeper than the reader goes is not read. -/
theorem readValue?_nestedArray
    (depth : Nat) (rest : Text) :
    readValue? depth (writeValue (nestedArray depth) ++ rest) = none := by
  induction depth generalizing rest with
  | zero => rfl
  | succ depth ih =>
      have hstarts : ∃ others, writeValue (nestedArray depth) = '[' :: others := by
        cases depth with
        | zero => exact ⟨_, rfl⟩
        | succ depth => exact ⟨_, by rw [nestedArray, writeValue]⟩
      have hinner := ih (',' :: ']' :: rest)
      obtain ⟨others, hcons⟩ := hstarts
      have hskip : ∀ t : Text, skipFiller ('[' :: t) = '[' :: t :=
        skipFiller_cons rfl (by decide) (by decide) (by decide)
      rw [hcons, List.cons_append] at hinner
      simp only [nestedArray, writeValue, writeItems, hcons, List.cons_append, List.append_assoc,
        List.nil_append]
      rw [readValue?, readItemsUpTo?, hskip]
      simp [hinner]

end Toml
end TeachingEditor
