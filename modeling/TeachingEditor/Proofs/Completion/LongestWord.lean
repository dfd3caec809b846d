import TeachingEditor.Proofs.Completion.Suggestion
import TeachingEditor.Proofs.Text.ByteOrder

/-!
# The longest word before a cursor

The word at a cursor is said here by its shape alone, and is then found in two ways: among
the characters before the cursor, and among their bytes.

**Input.**  The bytes of the text before a cursor.

**Algorithm.**  `runStart` goes back from the end over bytes that may stand in a word, and
`wordStart` goes forward again to the first of them that may begin one.  Every byte of a
character outside ASCII is at least 128 and stops the way back, so the run consists of
whole characters (`runStart_bytes`), and its bytes are their numbers.

**Results.**
* `endsWith_iff`: a text ends with one word only, and `trailingWord` is this word.
* `wordStart_bytes`: the search through the bytes finds the word at the same offset.
* `wordAt_longest`: which cursors are accepted, what is said of the others, and that the
  word at an accepted one is the longest that ends there.
-/

namespace TeachingEditor

/-! ## Offsets inside a character -/

namespace Text

/-- An offset lies behind the first and before the last byte of a character. -/
def IsInside (t : Text) (offset : ℕ) : Prop :=
  ∃ before c after,
    t = before ++ c :: after ∧ size before < offset ∧ offset < size before + c.utf8Size

theorem IsInside.not_isBoundary
    {t : Text} {offset : ℕ}
    (hinside : IsInside t offset) :
    ¬ IsBoundary t offset := by
  intro hplace
  obtain ⟨before, c, after, htext, hbehind, hfront⟩ := hinside
  obtain ⟨upTo, rest, hparts, rfl⟩ := isBoundary_iff.1 hplace
  rcases List.append_eq_append_iff.1 (htext.symm.trans hparts) with
    ⟨part, rfl, hpart⟩ | ⟨part, rfl, -⟩
  · cases part with
    | nil => simp at hbehind
    | cons d part =>
        obtain ⟨rfl, -⟩ := List.cons.inj hpart
        simp only [size_append, size_cons] at hfront
        omega
  · rw [size_append] at hbehind
    omega

/-- Every offset within a text is a place or falls inside a character. -/
theorem isBoundary_or_isInside
    {t : Text} {offset : ℕ}
    (hle : offset ≤ size t) :
    IsBoundary t offset ∨ IsInside t offset := by
  induction t generalizing offset with
  | nil =>
      obtain rfl : offset = 0 := by simpa using hle
      exact Or.inl (isBoundary_iff.2 ⟨[], [], rfl, rfl⟩)
  | cons c rest ih =>
      rw [size_cons] at hle
      by_cases hzero : offset = 0
      · exact Or.inl (isBoundary_iff.2 ⟨[], c :: rest, rfl, hzero⟩)
      by_cases hfirst : offset < c.utf8Size
      · exact Or.inr ⟨[], c, rest, rfl, by simp only [size_nil]; omega, by simpa using hfirst⟩
      have hrest : offset - c.utf8Size ≤ size rest := by omega
      rcases ih hrest with hplace | ⟨before, d, after, rfl, hbehind, hfront⟩
      · obtain ⟨before, after, rfl, hsize⟩ := isBoundary_iff.1 hplace
        refine Or.inl (isBoundary_iff.2 ⟨c :: before, after, rfl, ?_⟩)
        rw [size_cons]
        omega
      · refine Or.inr ⟨c :: before, d, after, rfl, ?_, ?_⟩
        · rw [size_cons]
          omega
        · rw [size_cons]
          omega

theorem isInside_iff
    {t : Text} {offset : ℕ} :
    IsInside t offset ↔ offset ≤ size t ∧ ¬ IsBoundary t offset := by
  constructor
  · intro hinside
    refine ⟨?_, hinside.not_isBoundary⟩
    obtain ⟨before, c, after, rfl, -, hfront⟩ := hinside
    rw [size_append, size_cons]
    omega
  · rintro ⟨hle, hbad⟩
    exact (isBoundary_or_isInside hle).resolve_left hbad

end Text

/-! ## The word by its shape -/

/-- The longest word that a text ends with; nothing if it ends with no word. -/
inductive EndsWith (before : Text) : Text → Prop
  | word {word : Text}
      (hsuffix : word <:+ before)
      (hword : IsCursorWord word)
      (hlongest : ∀ other, other <:+ before → IsCursorWord other → other.length ≤ word.length) :
      EndsWith before word
  | nothing
      (hnone : ∀ other, other <:+ before → ¬ IsCursorWord other) :
      EndsWith before []

theorem endsWith_trailingWord
    (before : Text) :
    EndsWith before (trailingWord before) := by
  by_cases hempty : trailingWord before = []
  · rw [hempty]
    refine EndsWith.nothing ?_
    intro other hsuffix hword
    have hpart := suffix_trailingWord hsuffix hword
    rw [hempty, List.suffix_nil] at hpart
    obtain ⟨c, rest, hcons, -⟩ := hword
    simp [hpart] at hcons
  · refine EndsWith.word (trailingWord_suffix before) (isCursorWord_trailingWord hempty) ?_
    intro other hsuffix hword
    exact (suffix_trailingWord hsuffix hword).length_le

/-- No text ends with two words. -/
theorem endsWith_iff
    {before word : Text} :
    EndsWith before word ↔ word = trailingWord before := by
  constructor
  · rintro (⟨hsuffix, hword, hlongest⟩ | ⟨hnone⟩)
    · have hpart := suffix_trailingWord hsuffix hword
      refine hpart.eq_of_length_le ?_
      by_cases hempty : trailingWord before = []
      · simp [hempty]
      · exact hlongest _ (trailingWord_suffix before) (isCursorWord_trailingWord hempty)
    · by_contra hne
      exact hnone _ (trailingWord_suffix before) (isCursorWord_trailingWord (Ne.symm hne))
  · rintro rfl
    exact endsWith_trailingWord before

/-! ## The word in bytes -/

/-- The values of the bytes that may begin a word. -/
def isWordStartByte (b : ℕ) : Bool :=
  (0x41 ≤ b && b ≤ 0x5A) || (0x61 ≤ b && b ≤ 0x7A) || b = 0x5F

/-- The values of the bytes that may stand in a word. -/
def isWordByte (b : ℕ) : Bool :=
  isWordStartByte b || (0x30 ≤ b && b ≤ 0x39) || b = 0x2D

/-- Go back from an offset over the bytes that may stand in a word. -/
def runStart (bytes : List ℕ) : ℕ → ℕ
  | 0 => 0
  | n + 1 => if bytes[n]?.any isWordByte then runStart bytes n else n + 1

/-- Where a word at the end of the bytes starts; their number if there is none. -/
def wordStart (bytes : List ℕ) : ℕ :=
  let start := runStart bytes bytes.length
  start + (bytes.drop start).findIdx isWordStartByte

/-- The way back ends where a run of bytes of words starts. -/
theorem runStart_append
    {lead run : List ℕ} (after : List ℕ)
    (hlead : ∀ b ∈ lead.getLast?, isWordByte b = false)
    (hrun : ∀ b ∈ run, isWordByte b = true) :
    runStart (lead ++ run ++ after) (lead.length + run.length) = lead.length := by
  -- The induction takes the last byte of the run away, as the way back does.
  induction run using List.reverseRecOn generalizing after with
  | nil =>
      cases lead using List.reverseRecOn with
      | nil => rfl
      | append_singleton lead b =>
          have hb : isWordByte b = false := hlead b (by simp)
          simp [runStart, hb]
  | append_singleton run b ih =>
      have hb : isWordByte b = true := hrun b (by simp)
      have hinit : ∀ d ∈ run, isWordByte d = true := fun d hd => hrun d (by simp [hd])
      have hback := ih (b :: after) hinit
      have hat : (lead ++ (run ++ [b]) ++ after)[lead.length + run.length]? = some b := by
        simp
      have hsame : lead ++ (run ++ [b]) ++ after = lead ++ run ++ b :: after := by simp
      rw [List.length_append, List.length_singleton, ← Nat.add_assoc, runStart, hat]
      rw [hsame]
      simpa [hb] using hback

namespace Text

/-- The bytes of an ASCII text are the numbers of its characters. -/
theorem bytes_of_ascii
    {t : Text}
    (hascii : ∀ c ∈ t, IsAscii c) :
    bytes t = t.map Char.toNat := by
  induction t with
  | nil => rfl
  | cons c t ih =>
      rw [List.forall_mem_cons] at hascii
      have hbyte : characterBytes c.toNat = [c.toNat] := if_pos hascii.1
      rw [bytes_cons, ih hascii.2, hbyte]
      rfl

theorem size_of_ascii
    {t : Text}
    (hascii : ∀ c ∈ t, IsAscii c) :
    size t = t.length := by
  rw [← length_bytes, bytes_of_ascii hascii, List.length_map]

/-- The last byte of a text is that of its last character. -/
theorem getLast?_bytes
    (t : Text) :
    (bytes t).getLast? = t.getLast?.bind fun c => (characterBytes c.toNat).getLast? := by
  cases t using List.reverseRecOn with
  | nil => rfl
  | append_singleton t c =>
      have hchar : bytes [c] = characterBytes c.toNat := by
        rw [bytes_cons]
        exact List.append_nil _
      have hne : characterBytes c.toNat ≠ [] := by
        unfold characterBytes
        split_ifs <;> simp
      rw [bytes_append, hchar, List.getLast?_append_of_ne_nil _ hne, List.getLast?_concat]
      rfl

end Text

/-- The classes of bytes are those of the characters with the same numbers. -/
theorem isWordStartByte_toNat
    (c : Char) :
    isWordStartByte c.toNat = isWordStart c := by
  have hunderscore : c.toNat = 0x5F ↔ c = '_' := Char.toNat_inj (d := '_')
  rw [Bool.eq_iff_iff, isWordStart_iff, IsLetter, ← hunderscore]
  simp [isWordStartByte, Char.le_def, UInt32.le_iff_toNat_le, or_assoc]

theorem isWordByte_toNat
    (c : Char) :
    isWordByte c.toNat = isCursorWordPart c := by
  have hdash : c.toNat = 0x2D ↔ c = '-' := Char.toNat_inj (d := '-')
  rw [Bool.eq_iff_iff, isCursorWordPart_iff, ← isWordStart_iff, ← isWordStartByte_toNat, IsDigit,
    ← hdash]
  simp [isWordByte, Char.le_def, UInt32.le_iff_toNat_le, or_assoc]

/-- A character that stands in no word does not end with a byte that does. -/
theorem isWordByte_getLast?
    {c : Char}
    (hpart : isCursorWordPart c = false) :
    ∀ b ∈ (Text.characterBytes c.toNat).getLast?, isWordByte b = false := by
  intro b hb
  by_cases hascii : Text.IsAscii c
  · have hbyte : Text.characterBytes c.toNat = [c.toNat] := if_pos hascii
    obtain rfl : c.toNat = b := by simpa [hbyte] using hb
    rw [isWordByte_toNat, hpart]
  · have hlarge : 0x80 ≤ b := by
      rw [Text.IsAscii] at hascii
      unfold Text.characterBytes at hb
      split_ifs at hb <;> simp at hb <;> omega
    simp only [isWordByte, isWordStartByte, Bool.or_eq_false_iff, Bool.and_eq_false_iff,
      decide_eq_false_iff_not]
    omega

/-- What stands in front of the longest run ends with no byte of a word. -/
theorem getLast?_bytes_rdropWhile
    (before : Text) :
    ∀ b ∈ (Text.bytes (before.rdropWhile isCursorWordPart)).getLast?, isWordByte b = false := by
  intro b hb
  rw [Text.getLast?_bytes] at hb
  obtain ⟨c, hlast, hb⟩ := Option.bind_eq_some_iff.1 hb
  have hne : before.rdropWhile isCursorWordPart ≠ [] := by
    intro hempty
    simp [hempty] at hlast
  rw [List.getLast?_eq_some_getLast hne, Option.some.injEq] at hlast
  have hpart := List.rdropWhile_last_not isCursorWordPart before hne
  rw [hlast, Bool.not_eq_true] at hpart
  exact isWordByte_getLast? hpart b hb

theorem findIdx_bytes
    {run : Text}
    (hascii : ∀ c ∈ run, Text.IsAscii c) :
    (Text.bytes run).findIdx isWordStartByte = run.findIdx isWordStart := by
  rw [Text.bytes_of_ascii hascii]
  induction run with
  | nil => rfl
  | cons c run ih =>
      rw [List.forall_mem_cons] at hascii
      rw [List.map_cons, List.findIdx_cons, List.findIdx_cons, ih hascii.2]
      rw [isWordStartByte_toNat]

/-- The longest run before a cursor is in ASCII. -/
theorem isAscii_of_mem_run
    {before : Text} {c : Char}
    (hc : c ∈ before.rtakeWhile isCursorWordPart) :
    Text.IsAscii c :=
  isAscii_of_cursorWordPart (List.mem_rtakeWhile_imp hc)

/-- The way back over the bytes stops between two characters. -/
theorem runStart_bytes
    (before : Text) :
    runStart (Text.bytes before) (Text.bytes before).length =
      (Text.bytes (before.rdropWhile isCursorWordPart)).length := by
  have hparts : before.rdropWhile isCursorWordPart ++ before.rtakeWhile isCursorWordPart = before :=
    List.rdropWhile_append_rtakeWhile
  have hrun : ∀ b ∈ Text.bytes (before.rtakeWhile isCursorWordPart), isWordByte b = true := by
    intro b hb
    rw [Text.bytes_of_ascii fun c hc => isAscii_of_mem_run hc] at hb
    obtain ⟨c, hc, rfl⟩ := List.mem_map.1 hb
    rw [isWordByte_toNat]
    exact List.mem_rtakeWhile_imp hc
  have hback := runStart_append [] (getLast?_bytes_rdropWhile before) hrun
  rwa [List.append_nil, ← List.length_append, ← Text.bytes_append, hparts] at hback

/-- The search through the bytes finds the word that the characters show. -/
theorem wordStart_bytes
    (before : Text) :
    wordStart (Text.bytes before) = Text.size before - Text.size (trailingWord before) := by
  let lead := before.rdropWhile isCursorWordPart
  let run := before.rtakeWhile isCursorWordPart
  have hparts : lead ++ run = before := List.rdropWhile_append_rtakeWhile
  have hascii : ∀ c ∈ run, Text.IsAscii c := fun _ hc => isAscii_of_mem_run hc
  have hbytes : Text.bytes before = Text.bytes lead ++ Text.bytes run := by
    rw [← Text.bytes_append, hparts]
  have hstart : runStart (Text.bytes before) (Text.bytes before).length =
      (Text.bytes lead).length := runStart_bytes before
  have htrailing : trailingWord before = run.drop (run.findIdx isWordStart) := by
    simp [trailingWord_eq, List.dropWhile_eq_drop_findIdx_not, run]
  have hword : Text.size (trailingWord before) = run.length - run.findIdx isWordStart := by
    rw [htrailing, Text.size_of_ascii fun c hc => hascii c (List.mem_of_mem_drop hc),
      List.length_drop]
  have hsize : Text.size before = Text.size lead + run.length := by
    rw [← hparts, Text.size_append, Text.size_of_ascii hascii]
  have hle : run.findIdx isWordStart ≤ run.length := List.findIdx_le_length
  simp only [wordStart]
  rw [hstart, hbytes, List.drop_left, findIdx_bytes hascii, Text.length_bytes]
  omega

/-! ## The word at a cursor -/

/-- What is promised of the word at a cursor. -/
structure IsWordAt (t : Text) (cursor : ℕ) (w : CursorWord) : Prop where
  ends : w.start + Text.size w.word = cursor
  starts : Text.IsBoundary t w.start
  shown : Text.slice? t w.start cursor = some w.word
  /-- It is the longest word before the cursor, for characters and for bytes. -/
  longest : ∃ before after, t = before ++ after ∧ Text.size before = cursor ∧
    EndsWith before w.word ∧ w.start = wordStart (Text.bytes before)

theorem isWordAt_iff
    {t : Text} {cursor : ℕ} {w : CursorWord} :
    IsWordAt t cursor w ↔ wordAt t cursor = .ok w := by
  constructor
  · rintro ⟨-, -, -, before, after, rfl, rfl, hword, hstart⟩
    rw [endsWith_iff] at hword
    rw [wordStart_bytes] at hstart
    rw [wordAt_size, ← hstart, ← hword]
  · intro hw
    obtain ⟨lead, after, rfl, hstart, rfl, hword⟩ := wordAt_eq_ok hw
    have hlongest : EndsWith (lead ++ w.word) w.word := endsWith_iff.2 hword
    constructor
    · rw [hstart]
    · rw [hstart, List.append_assoc]
      exact Text.isBoundary_size lead (w.word ++ after)
    · rw [hstart]
      exact Text.slice?_size lead w.word after
    · refine ⟨lead ++ w.word, after, rfl, Text.size_append lead w.word, hlongest, ?_⟩
      rw [wordStart_bytes, ← hword, Text.size_append, hstart]
      omega

theorem exists_wordAt
    {t : Text} {cursor : ℕ}
    (hplace : Text.IsBoundary t cursor) :
    ∃ w, wordAt t cursor = .ok w := by
  obtain ⟨before, after, rfl, rfl⟩ := isBoundary_iff.1 hplace
  exact ⟨_, wordAt_size before after⟩

/-- What looks at the text before a cursor rejects it if it is no place, and for this only. -/
theorem textBefore_map_eq_error_iff
    {α : Type*} {f : Text → α} {t : Text} {cursor : ℕ} {e : CursorError} :
    (textBefore t cursor).map f = .error e ↔
      ¬ Text.IsBoundary t cursor ∧ e = cursorError t cursor := by
  by_cases hplace : Text.IsBoundary t cursor
  · obtain ⟨before, after, rfl, rfl⟩ := isBoundary_iff.1 hplace
    simp [textBefore_size, Except.map, hplace]
  · simp [textBefore_eq_error hplace, Except.map, hplace, eq_comm]

theorem wordAt_eq_error_iff
    {t : Text} {cursor : ℕ} {e : CursorError} :
    wordAt t cursor = .error e ↔ ¬ Text.IsBoundary t cursor ∧ e = cursorError t cursor :=
  textBefore_map_eq_error_iff

theorem suggest_eq_error_iff
    {items : List CompletionItem} {t : Text} {cursor : ℕ} {e : CursorError} :
    suggest items t cursor = .error e ↔ ¬ Text.IsBoundary t cursor ∧ e = cursorError t cursor :=
  textBefore_map_eq_error_iff

theorem not_isBoundary_of_lt
    {t : Text} {cursor : ℕ}
    (hpast : Text.size t < cursor) :
    ¬ Text.IsBoundary t cursor := by
  intro hplace
  obtain ⟨before, after, rfl, rfl⟩ := isBoundary_iff.1 hplace
  rw [Text.size_append] at hpast
  omega

/--
A cursor is out of bounds exactly if it lies past the end of the text, and off the
boundaries exactly if it falls inside a character.  At every other cursor there is a word,
possibly empty, and it is the longest one that ends there.  Suggestions are rejected for
the same cursors and with the same errors.
-/
theorem wordAt_longest
    (t : Text) (cursor : ℕ) :
    (wordAt t cursor = .error (.outOfBounds cursor (Text.size t)) ↔ Text.size t < cursor) ∧
      (wordAt t cursor = .error (.notCharBoundary cursor) ↔ Text.IsInside t cursor) ∧
      (∀ w, wordAt t cursor = .ok w ↔ IsWordAt t cursor w) ∧
      (Text.size t < cursor ∨ Text.IsInside t cursor ∨ ∃ w, wordAt t cursor = .ok w) ∧
      ∀ items e, suggest items t cursor = .error e ↔ wordAt t cursor = .error e := by
  refine ⟨?_, ?_, fun w => isWordAt_iff.symm, ?_, ?_⟩
  · rw [wordAt_eq_error_iff, cursorError]
    by_cases hpast : Text.size t < cursor
    · simp [hpast, not_isBoundary_of_lt hpast]
    · simp [hpast]
  · rw [wordAt_eq_error_iff, cursorError, Text.isInside_iff]
    by_cases hpast : Text.size t < cursor
    · simp [hpast]
    · simp [hpast, Nat.le_of_not_lt hpast]
  · by_cases hpast : Text.size t < cursor
    · exact Or.inl hpast
    · rcases Text.isBoundary_or_isInside (Nat.le_of_not_lt hpast) with hplace | hinside
      · exact Or.inr (Or.inr (exists_wordAt hplace))
      · exact Or.inr (Or.inl hinside)
  · intro items e
    rw [suggest_eq_error_iff, wordAt_eq_error_iff]

end TeachingEditor
