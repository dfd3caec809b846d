import TeachingEditor.Language.Vocabulary

/-!
# Splitting source text into tokens

**Input.**  A source text and a vocabulary.

**Algorithm.**  `scan` reads one lexeme.  The first character chooses the rule,
in this order: two slashes begin a comment, which runs to the end of the line; a
double quote begins a string, in which a backslash takes the next character with
it and which may stay open until the end; a digit begins a number of digits and
points; an operator character is an operator, joined with an equals sign behind
one of four of them; a letter or underscore begins a word; any other character
stands alone.

A `Scanner` gives the tokens one at a time.  It keeps the source and an offset into
it, and a call moves the offset over one lexeme, character by character: a first
character, a run, a string with its escapes.

**Results.**  Scanning never fails, and no character is lost: the lexeme and what
is left are the source again (`scan_append`), and a lexeme is never empty
(`scan_ne_nil`).  `tokenize` gives all tokens of a source.  The offset of a scanner
always lies between two characters (`Scanner.cut?_of_peek?`), so that there is a text
behind it, and the loops of a call end because every step over a character leaves
less of this text (`Scanner.remaining_bump_length_lt`).
-/

namespace TeachingEditor

/-- Whether a character is an operator by itself. -/
def isOperatorChar (c : Char) : Bool :=
  c ∈ ['+', '-', '*', '/', '%', '=', '!', '<', '>', '(', ')', '{', '}', '[', ']', ';', ',', '.']

/-- Whether an operator character joins with a following equals sign. -/
def joinsEquals (c : Char) : Bool :=
  c ∈ ['=', '<', '>', '!']

/-- Whether a character continues a number. -/
def isNumberPart (c : Char) : Bool :=
  c.isDigit || c = '.'

/-- Split behind the closing quote of a string whose opening quote has been read. -/
def splitString : Text → Text × Text
  | [] => ([], [])
  | '"' :: rest => (['"'], rest)
  | ['\\'] => (['\\'], [])
  | '\\' :: c :: rest =>
      let (inner, after) := splitString rest
      ('\\' :: c :: inner, after)
  | c :: rest =>
      let (inner, after) := splitString rest
      (c :: inner, after)

/-- A classified piece of text and the text behind it. -/
structure Lexeme where
  kind : TokenKind
  value : Text
  rest : Text
  deriving DecidableEq

/-- Read the lexeme that begins with a character. -/
def scan (v : Vocabulary) (c : Char) (rest : Text) : Lexeme :=
  if c = '/' ∧ rest.head? = some '/' then
    ⟨.comment, c :: rest.takeWhile (· ≠ '\n'), rest.dropWhile (· ≠ '\n')⟩
  else if c = '"' then
    ⟨.string, c :: (splitString rest).1, (splitString rest).2⟩
  else if c.isDigit then
    ⟨.number, c :: rest.takeWhile isNumberPart, rest.dropWhile isNumberPart⟩
  else if isOperatorChar c then
    if joinsEquals c ∧ rest.head? = some '=' then
      ⟨.operator, [c, '='], rest.tail⟩
    else
      ⟨.operator, [c], rest⟩
  else if isWordStart c then
    ⟨v.classify (c :: rest.takeWhile isWordPart),
      c :: rest.takeWhile isWordPart, rest.dropWhile isWordPart⟩
  else
    ⟨.text, [c], rest⟩

theorem splitString_append (t : Text) : (splitString t).1 ++ (splitString t).2 = t := by
  fun_induction splitString t <;> simp_all

/-- No character is lost. -/
theorem scan_append (v : Vocabulary) (c : Char) (rest : Text) :
    (scan v c rest).value ++ (scan v c rest).rest = c :: rest := by
  unfold scan
  split
  · simp
  · split
    · simp [splitString_append]
    · split
      · simp
      · split
        · split
          · next h =>
              cases rest with
              | nil => simp at h
              | cons d rest => simp_all
          · simp
        · split <;> simp

theorem scan_ne_nil (v : Vocabulary) (c : Char) (rest : Text) :
    (scan v c rest).value ≠ [] := by
  unfold scan
  split
  · simp
  · split
    · simp
    · split
      · simp
      · split
        · split <;> simp
        · split <;> simp

/-- A scan leaves less than it was given. -/
theorem scan_rest_length_lt (v : Vocabulary) (c : Char) (rest : Text) :
    (scan v c rest).rest.length < (c :: rest).length := by
  have happ := congrArg List.length (scan_append v c rest)
  have hpos := List.length_pos_iff.2 (scan_ne_nil v c rest)
  simp only [List.length_append] at happ
  omega

/-- The tokens of a text that begins at a byte offset. -/
def tokenizeFrom (v : Vocabulary) (offset : Nat) (t : Text) : List Token :=
  match t with
  | [] => []
  | c :: rest =>
      let lexeme := scan v c rest
      let stop := offset + Text.size lexeme.value
      ⟨lexeme.kind, lexeme.value, ⟨offset, stop⟩⟩ :: tokenizeFrom v stop lexeme.rest
termination_by t.length
decreasing_by exact scan_rest_length_lt v c rest

/-- The tokens of a source text. -/
def tokenize (v : Vocabulary) (source : Text) : List Token :=
  tokenizeFrom v 0 source

/-! ## One token at a time -/

/-- A place between two characters of a source text. -/
@[ext]
structure Scanner where
  source : Text
  offset : Nat
  isBoundary : (Text.cut? source offset).isSome
  deriving DecidableEq

namespace Scanner

/-- The place before the first token. -/
def ofText (source : Text) : Scanner :=
  ⟨source, 0, by simp⟩

/-- The texts before a place and behind it. -/
def parts (s : Scanner) : Text × Text :=
  (Text.cut? s.source s.offset).get s.isBoundary

/-- The text before a place. -/
def passed (s : Scanner) : Text :=
  s.parts.1

/-- The text behind a place. -/
def remaining (s : Scanner) : Text :=
  s.parts.2

theorem cut?_eq_parts (s : Scanner) :
    Text.cut? s.source s.offset = some (s.passed, s.remaining) :=
  (Option.some_get s.isBoundary).symm

theorem passed_append_remaining (s : Scanner) : s.passed ++ s.remaining = s.source :=
  Text.append_eq_of_cut? s.cut?_eq_parts

theorem size_passed (s : Scanner) : Text.size s.passed = s.offset :=
  Text.size_eq_of_cut? s.cut?_eq_parts

/-- The character behind a place; nothing at the end. -/
def peek? (s : Scanner) : Option Char :=
  s.remaining.head?

theorem remaining_eq_cons {s : Scanner} {c : Char} (h : s.peek? = some c) :
    s.remaining = c :: s.remaining.tail := by
  obtain ⟨rest, hrest⟩ := List.head?_eq_some_iff.1 h
  rw [hrest, List.tail_cons]

/-- Behind a whole character there is a place again. -/
theorem cut?_of_peek? {s : Scanner} {c : Char} (h : s.peek? = some c) :
    Text.cut? s.source (s.offset + c.utf8Size) = some (s.passed ++ [c], s.remaining.tail) := by
  have hsource : s.source = (s.passed ++ [c]) ++ s.remaining.tail := by
    rw [List.append_assoc, List.singleton_append, ← remaining_eq_cons h]
    exact s.passed_append_remaining.symm
  have hsize : s.offset + c.utf8Size = Text.size (s.passed ++ [c]) := by
    simp [s.size_passed]
  rw [hsource, hsize]
  exact Text.cut?_size_append (s.passed ++ [c]) s.remaining.tail

/-- Step over one character; at the end, stay there. -/
def bump (s : Scanner) : Scanner :=
  match h : s.peek? with
  | none => s
  | some c => ⟨s.source, s.offset + c.utf8Size, by simp [cut?_of_peek? h]⟩

theorem bump_of_end {s : Scanner} (h : s.peek? = none) : s.bump = s := by
  unfold bump
  split
  · rfl
  · next h' => simp [h] at h'

@[simp] theorem remaining_bump (s : Scanner) : s.bump.remaining = s.remaining.tail := by
  unfold bump
  split
  · next h => simp [List.head?_eq_none_iff.1 h]
  · next c h => simp [remaining, parts, cut?_of_peek? h]

theorem remaining_bump_length_lt {s : Scanner} {c : Char} (h : s.peek? = some c) :
    s.bump.remaining.length < s.remaining.length := by
  rw [remaining_bump, remaining_eq_cons h]
  simp

/-- Step over the longest run of characters of a kind. -/
def skipWhile (p : Char → Bool) (s : Scanner) : Scanner :=
  match _h : s.peek? with
  | none => s
  | some c => if p c then skipWhile p s.bump else s
termination_by s.remaining.length
decreasing_by exact remaining_bump_length_lt _h

theorem skipWhile_of_end {p : Char → Bool} {s : Scanner} (h : s.peek? = none) :
    s.skipWhile p = s := by
  rw [skipWhile]
  split
  · rfl
  · next h' => simp [h] at h'

theorem skipWhile_of_peek? {p : Char → Bool} {s : Scanner} {c : Char} (h : s.peek? = some c) :
    s.skipWhile p = if p c then s.bump.skipWhile p else s := by
  rw [skipWhile]
  split
  · next h' => simp [h] at h'
  · next d h' =>
      obtain rfl : c = d := by simpa [h] using h'
      rfl

/-- Step over a string whose opening quote has been read. -/
def closeString (s : Scanner) : Scanner :=
  match _h : s.peek? with
  | none => s
  | some c =>
      if c = '"' then s.bump
      else if c = '\\' then closeString s.bump.bump
      else closeString s.bump
termination_by s.remaining.length
decreasing_by
  · have hlt := remaining_bump_length_lt _h
    simp only [remaining_bump, List.length_tail] at hlt ⊢
    omega
  · exact remaining_bump_length_lt _h

theorem closeString_of_end {s : Scanner} (h : s.peek? = none) : s.closeString = s := by
  rw [closeString]
  split
  · rfl
  · next h' => simp [h] at h'

theorem closeString_of_peek? {s : Scanner} {c : Char} (h : s.peek? = some c) :
    s.closeString =
      if c = '"' then s.bump
      else if c = '\\' then s.bump.bump.closeString
      else s.bump.closeString := by
  rw [closeString]
  split
  · next h' => simp [h] at h'
  · next d h' =>
      obtain rfl : c = d := by simpa [h] using h'
      rfl

/-- The text from one place to a later one. -/
def textTo (start stop : Scanner) : Text :=
  stop.passed.drop start.passed.length

/-- Step over the lexeme that begins with a character, and say its kind. -/
def skipLexeme (v : Vocabulary) (c : Char) (start : Scanner) : TokenKind × Scanner :=
  let behind := start.bump
  if c = '/' ∧ behind.peek? = some '/' then
    (.comment, behind.skipWhile (· ≠ '\n'))
  else if c = '"' then
    (.string, behind.closeString)
  else if c.isDigit then
    (.number, behind.skipWhile isNumberPart)
  else if isOperatorChar c then
    (.operator, if joinsEquals c ∧ behind.peek? = some '=' then behind.bump else behind)
  else if isWordStart c then
    let stop := behind.skipWhile isWordPart
    (v.classify (start.textTo stop), stop)
  else
    (.text, behind)

/-- Call for the next token: the token, or nothing at the end, and the place after the call. -/
def next (v : Vocabulary) (s : Scanner) : Option Token × Scanner :=
  match s.peek? with
  | none => (none, s)
  | some c =>
      let (kind, stop) := s.skipLexeme v c
      (some ⟨kind, s.textTo stop, ⟨s.offset, stop.offset⟩⟩, stop)

/-- The answers to a number of calls. -/
def answers (v : Vocabulary) : Nat → Scanner → List (Option Token)
  | 0, _ => []
  | n + 1, s => (next v s).1 :: answers v n (next v s).2

end Scanner
end TeachingEditor
