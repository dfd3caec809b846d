import TeachingEditor.Toml.Document
import TeachingEditor.Proofs.Toml.Quoting
import TeachingEditor.Proofs.Toml.Scalar

/-!
# Plain documents are read line by line

A plain document has headers of one key, settings of one key with an equals sign
between single spaces, empty lines and lines with a comment.  This is how documents are
written here.

**Algorithm.**  `ReadsAs` says that a text is read as some statements, however many
lines the reader is allowed beyond the length of the text.  One plain line in front
of such a text adds its statement (`ReadsAs.line`), so a document is put together
from its last line to its first.

**Results.**  `ReadsAs.header`, `ReadsAs.element`, `ReadsAs.setting`, `ReadsAs.blank` and
`ReadsAs.comment` for the lines, `readValue?_writeString`, `readValue?_writeAs_basic` and
`readValue?_bare` for the values behind the equals sign, and `readStatements?_eq` for a whole
document.
-/

namespace TeachingEditor
namespace Toml

/-! ## White space and keys -/

/-- A character that is no white space stands at the beginning of a text. -/
theorem skipSpace_cons
    {c : Char}
    (hspace : isSpace c = false)
    (rest : Text) :
    skipSpace (c :: rest) = c :: rest := by
  simp [skipSpace, hspace]

/-- A key that needs no quotes. -/
structure IsBareKey (key : Text) : Prop where
  ne_nil : key ≠ []
  chars : ∀ c ∈ key, isBareKeyChar c = true

instance (key : Text) : Decidable (IsBareKey key) :=
  decidable_of_iff (key ≠ [] ∧ key.all isBareKeyChar = true)
    ⟨fun h => ⟨h.1, List.all_eq_true.1 h.2⟩, fun h => ⟨h.ne_nil, List.all_eq_true.2 h.chars⟩⟩

theorem IsBareKey.exists_cons
    {key : Text}
    (hkey : IsBareKey key) :
    ∃ c rest, key = c :: rest ∧ isBareKeyChar c = true := by
  cases key with
  | nil => exact absurd rfl hkey.ne_nil
  | cons c rest => exact ⟨c, rest, rfl, hkey.chars c List.mem_cons_self⟩

/-- A character of a bare key has no other meaning at the beginning of a line. -/
theorem bareKeyChar_excludes
    {c : Char}
    (hc : isBareKeyChar c = true) :
    c ≠ '"' ∧ c ≠ '\'' ∧ c ≠ '#' ∧ c ≠ '[' ∧ c ≠ '\n' ∧ c ≠ '\r' ∧ isSpace c = false := by
  have hne : ∀ {d : Char}, isBareKeyChar d = false → c ≠ d := Text.ne_of_class hc
  refine ⟨hne rfl, hne rfl, hne rfl, hne rfl, hne rfl, hne rfl, ?_⟩
  have hblank : c ≠ ' ' := hne rfl
  have htab : c ≠ '\t' := hne rfl
  simp [isSpace, hblank, htab]

theorem readKeyPart?_bare
    {key after : Text}
    (hkey : IsBareKey key)
    (hstop : Text.StopsAt isBareKeyChar after.head?) :
    readKeyPart? (key ++ after) = some (key, after) := by
  have htake := Text.takeWhile_run hkey.chars hstop
  have hdrop := Text.dropWhile_run hkey.chars hstop
  obtain ⟨c, rest, rfl, hc⟩ := hkey.exists_cons
  obtain ⟨hquote, happ, -⟩ := bareKeyChar_excludes hc
  simp only [List.cons_append, List.takeWhile_cons, List.dropWhile_cons, hc, if_true] at htake hdrop
  simp only [List.cons_append, readKeyPart?, hquote, happ, hc, if_false, if_true, htake, hdrop]

/-- A text that is read as one part of a key, in front of what cannot go on with the part. -/
structure ReadsKey (written key : Text) : Prop where
  starts : ∃ c rest, written = c :: rest ∧ (isBareKeyChar c = true ∨ c = '"')
  read : ∀ after, Text.StopsAt isBareKeyChar after.head? → after.head? ≠ some '"' →
    readKeyPart? (written ++ after) = some (key, after)

theorem IsBareKey.readsKey
    {key : Text}
    (hkey : IsBareKey key) :
    ReadsKey key key where
  starts := by
    obtain ⟨c, rest, hcons, hc⟩ := hkey.exists_cons
    exact ⟨c, rest, hcons, Or.inl hc⟩
  read := fun _ hstop _ => readKeyPart?_bare hkey hstop

/-- Every key can be quoted. -/
theorem readsKey_quoted
    (key : Text) :
    ReadsKey (writeAs .basic key) key where
  starts := ⟨'"', _, rfl, Or.inr rfl⟩
  read := by
    intro after _ hquote
    have hspells : Spells .basic 0 (escapeBody false 0 key) key := spells_escapeBody rfl 0 key
    rw [writeAs_basic, List.cons_append, List.append_assoc]
    exact hspells.readBody_eq hquote

/-- The first character of a key has no other meaning at the beginning of a line. -/
theorem ReadsKey.exists_cons
    {written key : Text}
    (hkey : ReadsKey written key) :
    ∃ c rest,
      written = c :: rest ∧ c ≠ '#' ∧ c ≠ '[' ∧ c ≠ '\n' ∧ c ≠ '\r' ∧ c ≠ '\x7d' ∧
        isSpace c = false := by
  obtain ⟨c, rest, hcons, hc | rfl⟩ := hkey.starts
  · obtain ⟨-, -, hcomment, hbracket, hbreak, hreturn, hspace⟩ := bareKeyChar_excludes hc
    have hbrace : c ≠ '\x7d' := Text.ne_of_class hc rfl
    exact ⟨c, rest, hcons, hcomment, hbracket, hbreak, hreturn, hbrace, hspace⟩
  · exact ⟨'"', rest, hcons, by decide⟩

/-- A written part is read as the only part of a key. -/
theorem readKey?_written
    {written key after : Text}
    (hkey : ReadsKey written key)
    (hstop : Text.StopsAt isBareKeyChar after.head?)
    (hquote : after.head? ≠ some '"')
    (hdot : (skipSpace after).head? ≠ some '.') :
    readKey? (written ++ after) = some ([], key, skipSpace after) := by
  have hskip : skipSpace (written ++ after) = written ++ after := by
    obtain ⟨c, rest, rfl, -, -, -, -, -, hspace⟩ := hkey.exists_cons
    exact skipSpace_cons hspace (rest ++ after)
  unfold readKey? readKeyUpTo?
  rw [hskip, hkey.read after hstop hquote]
  simp only [Option.bind_eq_bind, Option.bind_some]
  split
  · next h => simp [h] at hdot
  · rfl

/-! ## Values -/

/-- What stands behind the equals sign of a setting, and how it is read there. -/
structure ReadsValue (written : Text) (v : Value) : Prop where
  starts : ∃ c rest, written = c :: rest ∧ isSpace c = false
  read : ∀ rest, readValue? maxDepth (written ++ '\n' :: rest) = some (v, '\n' :: rest)

/-- Where neither an array nor an inline table begins, a simple value is read at every depth. -/
theorem readValue?_simple
    {c : Char}
    (hbracket : c ≠ '[')
    (hbrace : c ≠ '\x7b')
    (depth : Nat) (rest : Text) :
    readValue? depth (c :: rest) = readSimpleValue? (c :: rest) := by
  cases depth with
  | zero => rfl
  | succ depth =>
      rw [readValue?]
      · exact fun _ h => hbracket (List.cons.inj h).1
      · exact fun _ h => hbrace (List.cons.inj h).1

theorem quote_chooseForm
    (t : Text) :
    (chooseForm t).quote = '"' ∨ (chooseForm t).quote = '\'' := by
  cases chooseForm t with
  | basic => exact Or.inl rfl
  | multilineBasic => exact Or.inl rfl
  | literal => exact Or.inr rfl
  | multilineLiteral => exact Or.inr rfl

/-- Where a quoted string is read, it is the value, at every depth. -/
theorem readValue?_of_readString?
    {c : Char} {rest t after : Text}
    (hquote : c = '"' ∨ c = '\'')
    (hread : readString? (c :: rest) = some (t, after))
    (depth : Nat) :
    readValue? depth (c :: rest) = some (.string t, after) := by
  have hbracket : c ≠ '[' ∧ c ≠ '\x7b' := by
    rcases hquote with rfl | rfl
    · decide
    · decide
  rw [readValue?_simple hbracket.1 hbracket.2, readSimpleValue?, if_pos hquote, hread]
  rfl

/-- A string in the basic form is read at every depth, in front of everything but a quote. -/
theorem readValue?_writeAs_basic
    (depth : Nat) (t : Text) {after : Text}
    (hafter : after.head? ≠ some '"') :
    readValue? depth (writeAs .basic t ++ after) = some (.string t, after) := by
  have hread := readString?_writeAs_basic t hafter
  rw [writeAs_basic, List.cons_append] at hread ⊢
  exact readValue?_of_readString? (Or.inl rfl) hread depth

/-- A written string is read at every depth, in front of everything that begins with no quote. -/
theorem readValue?_writeString
    (depth : Nat) (t : Text) {after : Text}
    (hafter : after.head? ≠ some '"' ∧ after.head? ≠ some '\'') :
    readValue? depth (writeString t ++ after) = some (.string t, after) := by
  obtain ⟨others, hwritten⟩ := writeString_head t
  have hquote := quote_chooseForm t
  have hclosed : after.head? ≠ some (chooseForm t).quote := by
    rcases hquote with hquote | hquote
    · rw [hquote]
      exact hafter.1
    · rw [hquote]
      exact hafter.2
  have hread := readString?_writeString t hclosed
  rw [hwritten, List.cons_append] at hread ⊢
  exact readValue?_of_readString? hquote hread depth

/-- A value without quotes or brackets is read at every depth, up to what cannot go on with it. -/
theorem readValue?_bare
    {written after : Text} {v : Value}
    (hchars : ∀ c ∈ written, isScalarChar c = true)
    (hne : written ≠ [])
    (hread : readScalar? written = some v)
    (hstop : Text.StopsAt isScalarChar after.head?)
    (hspace : after.head? ≠ some ' ')
    (depth : Nat) :
    readValue? depth (written ++ after) = some (v, after) := by
  have htake := Text.takeWhile_run hchars hstop
  have hdrop := Text.dropWhile_run hchars hstop
  obtain ⟨c, others, rfl⟩ := List.exists_cons_of_ne_nil hne
  have hother : ∀ {d : Char}, isScalarChar d = false → c ≠ d :=
    Text.ne_of_class (hchars c List.mem_cons_self)
  have hquote : ¬ (c = '"' ∨ c = '\'') := not_or.2 ⟨hother rfl, hother rfl⟩
  rw [List.cons_append] at htake hdrop ⊢
  rw [readValue?_simple (hother rfl) (hother rfl), readSimpleValue?, if_neg hquote]
  rw [readBareValue?, htake, hdrop]
  split
  · simp at hspace
  · simp [hread]

/-- A written string is a value. -/
theorem readsValue_writeString
    (t : Text) :
    ReadsValue (writeString t) (.string t) where
  starts := by
    obtain ⟨others, hwritten⟩ := writeString_head t
    refine ⟨_, others, hwritten, ?_⟩
    rcases quote_chooseForm t with hquote | hquote
    · rw [hquote]
      rfl
    · rw [hquote]
      rfl
  read := fun rest => readValue?_writeString maxDepth t (by simp)

/-- A value without quotes or brackets that fills the rest of its line. -/
theorem readsValue_bare
    {written : Text} {v : Value}
    (hchars : ∀ c ∈ written, isScalarChar c = true)
    (hne : written ≠ [])
    (hread : readScalar? written = some v) :
    ReadsValue written v where
  starts := by
    obtain ⟨c, others, rfl⟩ := List.exists_cons_of_ne_nil hne
    have hother : ∀ {d : Char}, isScalarChar d = false → c ≠ d :=
      Text.ne_of_class (hchars c List.mem_cons_self)
    have hblank : c ≠ ' ' := hother rfl
    have htab : c ≠ '\t' := hother rfl
    exact ⟨c, others, rfl, by simp [isSpace, hblank, htab]⟩
  read := by
    intro rest
    refine readValue?_bare hchars hne hread ?_ (by simp) maxDepth
    intro d hd
    cases hd
    rfl

/-! ## Lines -/

theorem readLineEnd?_break
    (rest : Text) :
    readLineEnd? ('\n' :: rest) = some rest := by
  simp [readLineEnd?, skipSpace, isSpace]

/-- A line that begins with a visible character other than a comment sign is not blank. -/
theorem readLineEnd?_eq_none
    {c : Char} {rest : Text}
    (hspace : isSpace c = false)
    (hcomment : c ≠ '#')
    (hbreak : c ≠ '\n')
    (hreturn : c ≠ '\r') :
    readLineEnd? (c :: rest) = none := by
  simp [readLineEnd?, skipSpace_cons hspace, hcomment, hbreak, hreturn]

/-- Behind a key that stands before a closing bracket, the bracket is next. -/
theorem readKey?_bracket
    {written key : Text}
    (hkey : ReadsKey written key)
    (rest : Text) :
    readKey? (written ++ ']' :: rest) = some ([], key, ']' :: rest) := by
  have hstop : Text.StopsAt isBareKeyChar (']' :: rest).head? := by
    intro d hd
    cases hd
    rfl
  have hskip : skipSpace (']' :: rest) = ']' :: rest := skipSpace_cons rfl rest
  have hread := readKey?_written hkey hstop (by simp) (by rw [hskip]; simp)
  rwa [hskip] at hread

theorem readHeader?_table
    {written key : Text}
    (hkey : ReadsKey written key)
    (rest : Text) :
    readHeader? (written ++ ']' :: rest) = some (⟨[], key, false⟩, rest) := by
  unfold readHeader?
  split
  · next h =>
      obtain ⟨c, others, rfl, -, hbracket, -⟩ := hkey.exists_cons
      exact absurd (List.cons.inj h).1 hbracket
  · simp [readKey?_bracket hkey, expect?]

theorem readHeader?_element
    {written key : Text}
    (hkey : ReadsKey written key)
    (rest : Text) :
    readHeader? ('[' :: (written ++ ']' :: ']' :: rest)) = some (⟨[], key, true⟩, rest) := by
  simp [readHeader?, readKey?_bracket hkey, expect?]

/-- Behind a key and an equals sign between single spaces, a value is read. -/
theorem readSetting?_eq
    {readValue : Text → Option (Value × Text)} {writtenKey key t : Text}
    (hkey : ReadsKey writtenKey key)
    (hstarts : ∃ c rest, t = c :: rest ∧ isSpace c = false) :
    readSetting? readValue (writtenKey ++ ' ' :: '=' :: ' ' :: t) =
      (readValue t).map fun read => (⟨[], key, read.1⟩, read.2) := by
  have hstop : Text.StopsAt isBareKeyChar (' ' :: '=' :: ' ' :: t).head? := by
    intro d hd
    cases hd
    rfl
  have hequals : skipSpace (' ' :: '=' :: ' ' :: t) = '=' :: ' ' :: t := rfl
  have hvalue : skipSpace (' ' :: t) = t := by
    obtain ⟨c, rest, rfl, hc⟩ := hstarts
    exact skipSpace_cons hc rest
  have hpart := readKey?_written hkey hstop (by simp) (by rw [hequals]; simp)
  rw [hequals] at hpart
  cases hread : readValue t with
  | none => simp [readSetting?, hpart, expect?, hvalue, hread]
  | some read => simp [readSetting?, hpart, expect?, hvalue, hread]

theorem readSetting?_written
    {readValue : Text → Option (Value × Text)} {writtenKey key written after : Text} {v : Value}
    (hkey : ReadsKey writtenKey key)
    (hstarts : ∃ c rest, written = c :: rest ∧ isSpace c = false)
    (hread : readValue (written ++ after) = some (v, after)) :
    readSetting? readValue (writtenKey ++ ' ' :: '=' :: ' ' :: (written ++ after)) =
      some (⟨[], key, v⟩, after) := by
  have hvalue : ∃ c rest, written ++ after = c :: rest ∧ isSpace c = false := by
    obtain ⟨c, rest, rfl, hc⟩ := hstarts
    exact ⟨c, rest ++ after, rfl, hc⟩
  rw [readSetting?_eq hkey hvalue, hread]
  rfl

/-- A line that begins with a key is read as a setting. -/
theorem readLine?_key
    {written key : Text}
    (hkey : ReadsKey written key)
    (after : Text) :
    readLine? (written ++ after) =
      (readSetting? (readValue? maxDepth) (written ++ after)).bind fun read =>
        (readLineEnd? read.2).map fun rest => (some (.setting read.1), rest) := by
  obtain ⟨c, others, rfl, hcomment, hbracket, hbreak, hreturn, -, hspace⟩ := hkey.exists_cons
  rw [List.cons_append, readLine?, readLineEnd?_eq_none hspace hcomment hbreak hreturn,
    skipSpace_cons hspace]
  simp only
  split
  · next h => exact absurd (List.cons.inj h).1 hbracket
  · simp [Option.map_eq_bind]

/-- A text that is read as statements, with any number of lines that its length allows. -/
def ReadsAs (t : Text) (statements : List Statement) : Prop :=
  ∀ n, t.length ≤ n → readLinesUpTo? n t = some statements

namespace ReadsAs

theorem nil :
    ReadsAs [] [] := by
  intro n _
  cases n <;> rfl

/-- A line in front of a text that is read adds what it says. -/
theorem line
    {line rest : Text} {statement? : Option Statement} {statements : List Statement}
    (hne : line ≠ [])
    (hline : readLine? (line ++ rest) = some (statement?, rest))
    (hrest : ReadsAs rest statements) :
    ReadsAs (line ++ rest) (statement?.toList ++ statements) := by
  obtain ⟨c, others, rfl⟩ := List.exists_cons_of_ne_nil hne
  intro n hn
  cases n with
  | zero => simp at hn
  | succ n =>
      have hlength : rest.length ≤ n := by
        simp only [List.cons_append, List.length_cons, List.length_append] at hn
        omega
      rw [List.cons_append] at hline ⊢
      rw [readLinesUpTo?, hline]
      simp [hrest n hlength]

variable {rest : Text} {statements : List Statement}

theorem blank
    (hrest : ReadsAs rest statements) :
    ReadsAs ('\n' :: rest) statements := by
  have hline : readLine? ('\n' :: rest) = some (none, rest) := by
    rw [readLine?, readLineEnd?_break]
  exact line (List.cons_ne_nil '\n' []) hline hrest

/-- A line with a comment on it says nothing. -/
theorem comment
    {comment : Text}
    (hplain : ∀ c ∈ comment, isPlainChar c = true)
    (hrest : ReadsAs rest statements) :
    ReadsAs ('#' :: comment ++ ['\n'] ++ rest) statements := by
  have hbreak : Text.StopsAt isPlainChar ('\n' :: rest).head? := by
    intro d hd
    cases hd
    rfl
  have hend : readLineEnd? ('#' :: (comment ++ '\n' :: rest)) = some rest := by
    rw [readLineEnd?, skipSpace_cons rfl]
    simp only [Text.dropWhile_run hplain hbreak]
  have hline : readLine? ('#' :: comment ++ ['\n'] ++ rest) = some (none, rest) := by
    simp only [List.cons_append, List.append_assoc, List.nil_append]
    rw [readLine?, hend]
  exact line (List.cons_ne_nil _ _) hline hrest

/-- A line that begins with a bracket and is read as a header. -/
theorem headerLine
    {line : Text} {h : Header}
    (hline : readHeader? (line ++ '\n' :: rest) = some (h, '\n' :: rest))
    (hrest : ReadsAs rest statements) :
    ReadsAs ('[' :: line ++ ['\n'] ++ rest) (.header h :: statements) := by
  have hread :
      readLine? ('[' :: line ++ ['\n'] ++ rest) = some (some (.header h), rest) := by
    simp only [List.cons_append, List.append_assoc, List.nil_append]
    rw [readLine?, readLineEnd?_eq_none rfl (by decide) (by decide) (by decide)]
    rw [skipSpace_cons rfl]
    simp [hline, readLineEnd?_break]
  exact ReadsAs.line (List.cons_ne_nil _ _) hread hrest

/-- The line of a header. -/
theorem header
    {key : Text}
    (hkey : IsBareKey key)
    (hrest : ReadsAs rest statements) :
    ReadsAs ('[' :: key ++ [']', '\n'] ++ rest) (.header ⟨[], key, false⟩ :: statements) := by
  have hline :
      readHeader? ((key ++ [']']) ++ '\n' :: rest) = some (⟨[], key, false⟩, '\n' :: rest) := by
    simpa using readHeader?_table hkey.readsKey ('\n' :: rest)
  simpa using headerLine hline hrest

/-- The line that begins an element of an array of tables. -/
theorem element
    {written key : Text}
    (hkey : ReadsKey written key)
    (hrest : ReadsAs rest statements) :
    ReadsAs ('[' :: '[' :: written ++ [']', ']', '\n'] ++ rest)
      (.header ⟨[], key, true⟩ :: statements) := by
  have hline :
      readHeader? (('[' :: written ++ [']', ']']) ++ '\n' :: rest) =
        some (⟨[], key, true⟩, '\n' :: rest) := by
    simpa using readHeader?_element hkey ('\n' :: rest)
  simpa using headerLine hline hrest

/-- The line of a setting whose key may be quoted. -/
theorem writtenSetting
    {writtenKey key written : Text} {v : Value}
    (hkey : ReadsKey writtenKey key)
    (hwritten : ReadsValue written v)
    (hrest : ReadsAs rest statements) :
    ReadsAs (writtenKey ++ " = ".toList ++ written ++ ['\n'] ++ rest)
      (.setting ⟨[], key, v⟩ :: statements) := by
  have htext :
      writtenKey ++ " = ".toList ++ written ++ ['\n'] ++ rest =
        writtenKey ++ ' ' :: '=' :: ' ' :: (written ++ '\n' :: rest) := by
    simp
  have hread := readSetting?_written hkey hwritten.starts (hwritten.read rest)
  have hline :
      readLine? (writtenKey ++ " = ".toList ++ written ++ ['\n'] ++ rest) =
        some (some (.setting ⟨[], key, v⟩), rest) := by
    rw [htext, readLine?_key hkey, hread]
    simp [readLineEnd?_break]
  exact line (by simp) hline hrest

/-- The line of a setting. -/
theorem setting
    {key written : Text} {v : Value}
    (hkey : IsBareKey key)
    (hwritten : ReadsValue written v)
    (hrest : ReadsAs rest statements) :
    ReadsAs (key ++ " = ".toList ++ written ++ ['\n'] ++ rest)
      (.setting ⟨[], key, v⟩ :: statements) :=
  writtenSetting hkey.readsKey hwritten hrest

end ReadsAs

/-- A document is not read when its first line is not. -/
theorem readStatements?_eq_none
    {t : Text}
    (hmark : t.head? ≠ some '\ufeff')
    (hne : t ≠ [])
    (hline : readLine? t = none) :
    readStatements? t = none := by
  obtain ⟨c, rest, rfl⟩ := List.exists_cons_of_ne_nil hne
  unfold readStatements?
  split
  · next h => exact absurd (congrArg List.head? h) hmark
  · simp [readLinesUpTo?, hline]

/-- A document that does not begin with a byte order mark is read line by line. -/
theorem readStatements?_eq
    {t : Text} {statements : List Statement}
    (hmark : t.head? ≠ some '\ufeff')
    (hread : ReadsAs t statements) :
    readStatements? t = some statements := by
  unfold readStatements?
  split
  · next rest => simp at hmark
  · exact hread t.length (Nat.le_refl _)

end Toml
end TeachingEditor
