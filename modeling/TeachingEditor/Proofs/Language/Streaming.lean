import TeachingEditor.Proofs.Language.Tiling

/-!
# Tokens on demand

A reader that is called for one token at a time has to give the tokens of the whole
source, and it has to say that it is at the end, once and for all.

**Algorithm.**  A scanner knows nothing but its source and an offset.  In proofs it is
the place `between` two texts, and then each of its loops moves some characters from the
second text to the first (`bump_between`, `skipWhile_between`, `closeString_between`).
So a call moves exactly the lexeme that `scan` reads (`skipLexeme_between`), and what is
`ahead` of a scanner are the tokens of the text behind its place.  One call takes the
first of them (`next_fst`, `ahead_next`), and any number of calls takes as many, by
induction (`answers_eq`, `ahead_after`).

**Results.**
* `next_passes`: a call that gives a token moves the place over its characters, at least
  one.
* `collect_eq`: calling until nothing comes does end, and gives all tokens ahead.
* `streams_tokenize`: all of this for the calls from the beginning of a source on.
-/

namespace TeachingEditor

/-- A cover has no more tokens than its text has characters. -/
theorem Covers.length_le
    {R : Token → Text → Prop} {offset : Nat} {tokens : List Token} {t : Text}
    (h : Covers R offset tokens t) :
    tokens.length ≤ t.length := by
  induction h with
  | nil => simp
  | cons hne hspan hrel htail ih =>
      have hpos := List.length_pos_iff.2 hne
      simp only [List.length_cons, List.length_append]
      omega

/-- A lexeme begins with the character that it was read from. -/
theorem exists_scan_value
    (v : Vocabulary) (c : Char) (rest : Text) :
    ∃ value, (scan v c rest).value = c :: value := by
  obtain ⟨d, value, hvalue⟩ := List.exists_cons_of_ne_nil (scan_ne_nil v c rest)
  have htext := scan_append v c rest
  rw [hvalue, List.cons_append] at htext
  obtain ⟨rfl, -⟩ := List.cons.inj htext
  exact ⟨value, hvalue⟩

namespace Scanner

/-! ## Places by the texts around them -/

/-- The place between two texts. -/
def between (before after : Text) : Scanner :=
  ⟨before ++ after, Text.size before, by simp⟩

/-- Every place lies between the text that has been passed and the text that remains. -/
theorem exists_between
    (s : Scanner) :
    ∃ before after, s = between before after :=
  ⟨s.passed, s.remaining, Scanner.ext s.passed_append_remaining.symm s.size_passed.symm⟩

section Between

variable (before after : Text)

@[simp] theorem source_between :
    (between before after).source = before ++ after :=
  rfl

@[simp] theorem offset_between :
    (between before after).offset = Text.size before :=
  rfl

theorem parts_between :
    (between before after).parts = (before, after) :=
  Option.get_of_eq_some _ (Text.cut?_size_append before after)

@[simp] theorem passed_between :
    (between before after).passed = before :=
  congrArg Prod.fst (parts_between before after)

@[simp] theorem remaining_between :
    (between before after).remaining = after :=
  congrArg Prod.snd (parts_between before after)

@[simp] theorem peek?_between :
    (between before after).peek? = after.head? :=
  congrArg List.head? (remaining_between before after)

@[simp] theorem bump_between
    (c : Char) :
    (between before (c :: after)).bump = between (before ++ [c]) after := by
  have hpeek : (between before (c :: after)).peek? = some c := peek?_between before (c :: after)
  unfold bump
  split
  · next h => simp at h
  · next d h =>
      obtain rfl : c = d := Option.some.inj (hpeek.symm.trans h)
      apply Scanner.ext <;> simp [between]

/-- Skipping characters of a kind passes the longest run of them. -/
theorem skipWhile_between
    (p : Char → Bool) :
    (between before after).skipWhile p =
      between (before ++ after.takeWhile p) (after.dropWhile p) := by
  induction after generalizing before with
  | nil => simp [skipWhile_of_end]
  | cons c after ih =>
      rw [skipWhile_of_peek? (peek?_between before (c :: after))]
      by_cases hc : p c = true
      · simp [hc, ih]
      · simp [hc]

/-- Closing a string passes what is split off as its rest. -/
theorem closeString_between :
    (between before after).closeString =
      between (before ++ (splitString after).1) (splitString after).2 := by
  -- The cases are those of the split; behind a backslash two characters are passed at once.
  induction after using splitString.induct generalizing before with
  | case1 => simp [closeString_of_end, splitString]
  | case2 rest => simp [closeString_of_peek? (peek?_between before ('"' :: rest)), splitString]
  | case3 =>
      rw [closeString_of_peek? (peek?_between before ['\\'])]
      simp [closeString_of_end, bump_of_end, splitString]
  | case4 c rest inner behind h ih =>
      rw [closeString_of_peek? (peek?_between before ('\\' :: c :: rest))]
      simp [splitString, ih]
  | case5 c rest hquote hlast hescape inner behind h ih =>
      rw [closeString_of_peek? (peek?_between before (c :: rest))]
      have hopen : c ≠ '"' := hquote
      have hbackslash : c ≠ '\\' := by
        rintro rfl
        cases rest with
        | nil => exact hlast rfl rfl
        | cons d rest => exact hescape d rest rfl rfl
      simp [splitString, hopen, hbackslash, ih]

/-- The text between two places is what has been passed from the one to the other. -/
theorem textTo_between
    (value rest : Text) :
    (between before after).textTo (between (before ++ value) rest) = value := by
  simp [textTo]

/-- A call steps over the lexeme that a scan reads. -/
theorem skipLexeme_between
    (v : Vocabulary) (c : Char) :
    (between before (c :: after)).skipLexeme v c =
      ((scan v c after).kind,
        between (before ++ (scan v c after).value) (scan v c after).rest) := by
  unfold skipLexeme scan
  simp only [bump_between, peek?_between, skipWhile_between, closeString_between]
  split
  · simp
  · split
    · simp
    · split
      · simp
      · split
        · split
          · next h =>
              cases after with
              | nil => simp at h
              | cons d after => simp_all
          · simp
        · split
          · simp [textTo_between]
          · simp

end Between

/-! ## One call -/

theorem next_of_end
    (v : Vocabulary)
    {s : Scanner}
    (hend : s.peek? = none) :
    s.next v = (none, s) := by
  simp [next, hend]

/-- A call gives the token of the lexeme that a scan reads, and moves behind it. -/
theorem next_between
    (v : Vocabulary) (before after : Text) (c : Char) :
    (between before (c :: after)).next v =
      (some (firstToken v (Text.size before) c after),
        between (before ++ (scan v c after).value) (scan v c after).rest) := by
  simp [next, skipLexeme_between, textTo_between, firstToken]

/-- What a call that gives a token does to the place. -/
structure Passes (s : Scanner) (token : Token) (s' : Scanner) : Prop where
  same_source : s'.source = s.source
  moved : s'.offset = s.offset + Text.size token.value
  span : token.span = ⟨s.offset, s'.offset⟩
  text : s.remaining = token.value ++ s'.remaining
  whole_char : ∃ c ∈ s.peek?, s.offset + c.utf8Size ≤ s'.offset

/-- What is left behind a token is shorter than before it. -/
theorem Passes.remaining_length_lt
    {s s' : Scanner} {token : Token}
    (h : Passes s token s') :
    s'.remaining.length < s.remaining.length := by
  obtain ⟨c, -, hwhole⟩ := h.whole_char
  have hvalue : token.value ≠ [] := by
    intro hnil
    have hpos := c.utf8Size_pos
    rw [h.moved, hnil, Text.size_nil] at hwhole
    omega
  have hpos := List.length_pos_iff.2 hvalue
  rw [h.text, List.length_append]
  omega

theorem next_passes
    {v : Vocabulary} {s : Scanner} {token : Token}
    (hnext : (s.next v).1 = some token) :
    Passes s token (s.next v).2 := by
  obtain ⟨before, after, rfl⟩ := s.exists_between
  cases after with
  | nil =>
      rw [next_of_end v (peek?_between before [])] at hnext
      cases hnext
  | cons c after =>
      rw [next_between] at hnext ⊢
      obtain rfl := Option.some.inj hnext
      have htext : (scan v c after).value ++ (scan v c after).rest = c :: after :=
        scan_append v c after
      obtain ⟨value, hvalue⟩ := exists_scan_value v c after
      exact
        { same_source := by simp [htext]
          moved := by simp [firstToken]
          span := by simp [firstToken]
          text := by simp [firstToken, htext]
          whole_char := by
            refine ⟨c, peek?_between before (c :: after), ?_⟩
            rw [offset_between, offset_between, hvalue, Text.size_append, Text.size_cons]
            omega }

/-- A call that gives nothing leaves the place where it is, at the end. -/
theorem next_stays
    {v : Vocabulary} {s : Scanner}
    (hnext : (s.next v).1 = none) :
    (s.next v).2 = s := by
  cases hpeek : s.peek? with
  | none => rw [next_of_end v hpeek]
  | some c => simp [next, hpeek] at hnext

/-! ## Many calls -/

/-- The place after a number of calls. -/
def after (v : Vocabulary) : Nat → Scanner → Scanner
  | 0, s => s
  | n + 1, s => ((after v n s).next v).2

section Calls

variable (v : Vocabulary)

/-- The tokens that a place has ahead. -/
def ahead (s : Scanner) : List Token :=
  tokenizeFrom v s.offset s.remaining

/-- A call gives the first token that is ahead. -/
theorem next_fst
    (s : Scanner) :
    (s.next v).1 = (s.ahead v).head? := by
  obtain ⟨before, after, rfl⟩ := s.exists_between
  cases after with
  | nil => simp [next_of_end, ahead]
  | cons c after => simp [next_between, ahead, tokenizeFrom_cons]

/-- A call leaves the other tokens ahead. -/
theorem ahead_next
    (s : Scanner) :
    (s.next v).2.ahead v = (s.ahead v).tail := by
  obtain ⟨before, after, rfl⟩ := s.exists_between
  cases after with
  | nil => simp [next_of_end, ahead]
  | cons c after => simp [next_between, ahead, tokenizeFrom_cons, firstToken]

theorem ahead_after
    (n : Nat) (s : Scanner) :
    (s.after v n).ahead v = (s.ahead v).drop n := by
  induction n with
  | zero => rfl
  | succ n ih => rw [after, ahead_next, ih, List.tail_drop]

theorem answers_eq
    (n : Nat) (s : Scanner) :
    s.answers v n =
      ((s.ahead v).take n).map some ++ List.replicate (n - (s.ahead v).length) none := by
  induction n generalizing s with
  | zero => simp [answers]
  | succ n ih =>
      rw [answers, ih, ahead_next, next_fst]
      cases s.ahead v with
      | nil => simp [List.replicate_succ]
      | cons token tokens => simp

end Calls

/-- The tokens of all calls before the first one that gives nothing. -/
def collect (v : Vocabulary) (s : Scanner) : List Token :=
  match _hnext : (s.next v).1 with
  | none => []
  | some token => token :: collect v (s.next v).2
termination_by s.remaining.length
decreasing_by exact (next_passes _hnext).remaining_length_lt

/-- Collecting gives all tokens that are ahead. -/
theorem collect_eq
    (v : Vocabulary) (s : Scanner) :
    s.collect v = s.ahead v := by
  fun_induction collect v s with
  | case1 s hnext =>
      rw [next_fst] at hnext
      exact (List.head?_eq_none_iff.1 hnext).symm
  | case2 s token hnext ih =>
      rw [next_fst] at hnext
      rw [ih, ahead_next]
      exact List.cons_head?_tail hnext

/-! ## From the beginning of a source -/

theorem ahead_ofText
    (v : Vocabulary) (source : Text) :
    (ofText source).ahead v = tokenize v source :=
  congrArg (tokenizeFrom v 0) (remaining_between [] source)

/--
What is promised of the calls from the beginning of a source on.  They give the tokens of
the source in order and from then on nothing; who stops calling can still collect the
other tokens; a token moves the place over its text, which is a whole character at least;
and the first call without a token comes after at most as many calls as there are
characters and leaves the place where it is.
-/
structure Streams (v : Vocabulary) (source : Text) : Prop where
  answers :
    ∀ n,
      (ofText source).answers v n =
        ((tokenize v source).take n).map some ++
          List.replicate (n - (tokenize v source).length) none
  collected :
    ∀ n, ((ofText source).after v n).collect v = (tokenize v source).drop n
  passes :
    ∀ n token,
      (((ofText source).after v n).next v).1 = some token →
        Passes ((ofText source).after v n) token ((ofText source).after v (n + 1))
  ends :
    ∃ calls ≤ source.length,
      ∀ n, (((ofText source).after v n).next v).1 = none ↔ calls ≤ n
  stays :
    ∀ n,
      (((ofText source).after v n).next v).1 = none →
        (ofText source).after v (n + 1) = (ofText source).after v n

/-- Calls for one token at a time give the tokens of the source, and then nothing for ever. -/
theorem streams_tokenize
    (v : Vocabulary) (source : Text) :
    Streams v source where
  answers := by
    intro n
    rw [answers_eq, ahead_ofText]
  collected := by
    intro n
    rw [collect_eq, ahead_after, ahead_ofText]
  passes := by
    intro n token hnext
    exact next_passes hnext
  ends := by
    have hcovers : Covers (fun _ _ => True) 0 (tokenize v source) source :=
      tokenizeFrom_covers v (fun _ _ _ => trivial) 0 source
    refine ⟨(tokenize v source).length, hcovers.length_le, ?_⟩
    intro n
    rw [next_fst, ahead_after, ahead_ofText, List.head?_eq_none_iff, List.drop_eq_nil_iff]
  stays := by
    intro n hnext
    exact next_stays hnext

end Scanner
end TeachingEditor
