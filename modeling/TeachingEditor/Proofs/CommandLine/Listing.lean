import TeachingEditor.CommandLine.Listing
import TeachingEditor.Proofs.Language.Grammar
import TeachingEditor.Proofs.Text.Quoted
import TeachingEditor.Proofs.Toml.Scalar

/-!
# The listing of tokens is read back

A listing has one line for each token, and the token can be read off its line.

**Format.**  The fields of a line are filled up with spaces to a width, but a long field
is written in full and may leave no space of its own.  So the reader takes no field
by its width.  A number goes on as long as there are digits, a kind up to a space, and
whatever spaces follow are skipped.  The quoted text comes last and ends by itself.

**Algorithm.**  A line is its fields with at least one space behind the second number
and behind the kind, whatever the widths (`lineText_eq`).  Nothing on it is hidden, so
the only line breaks of a listing are those behind its lines (`linesOf_flatMap`).

**Results.**
* `readLine?_lineText`: the line of a token is read as that token.
* `isListingOf_tokens`: a listing is read line by line as the tokens it lists.
* `tokens_reads_back`: listings of different tokens are different, and the quoted texts
  in the listing of a source are the source.
-/

namespace TeachingEditor
namespace Listing

/-! ## The reader -/

/-- The lines of a text without the line breaks behind them. -/
def linesOf (t : Text) : List Text :=
  (t.splitOn '\n').dropLast

/-- Leave out the spaces that stand first. -/
def skipSpaces (t : Text) : Text :=
  t.dropWhile (· = ' ')

/-- Read the digits that stand first, and give their number with what follows. -/
def readNumber? (t : Text) : Option (Nat × Text) :=
  let digits := t.takeWhile Char.isDigit
  if digits = [] then none else some (Toml.digitsValue 10 digits, t.dropWhile Char.isDigit)

/-- Read a kind up to the next space, and give it with what follows. -/
def readKind? (t : Text) : Option (TokenKind × Text) :=
  (TokenKind.ofName? (t.takeWhile (· ≠ ' '))).map fun kind => (kind, t.dropWhile (· ≠ ' '))

/-- Read the line of a token. -/
def readLine? (line : Text) : Option Token := do
  let (start, behindStart) ← readNumber? (skipSpaces line)
  let behindDots ← behindStart.dropPrefix? "..".toList
  let (stop, behindStop) ← readNumber? behindDots
  let (kind, behindKind) ← readKind? (skipSpaces behindStop)
  let (value, behindValue) ← Text.unquoted? (skipSpaces behindKind)
  if behindValue = [] then some ⟨kind, value, ⟨start, stop⟩⟩ else none

/-- The quoted text of a line, from the first quote on. -/
def quotedField (line : Text) : Text :=
  line.dropWhile (· ≠ '"')

/-- The texts that are quoted in a listing. -/
def quotedTexts? (t : Text) : Option (List Text) :=
  (linesOf t).mapM fun line => (Text.unquoted? (quotedField line)).map Prod.fst

/-! ## Fields -/

/-- A field that ends in front of a space and holds no quote. -/
structure IsField (field : Text) : Prop where
  ne_nil : field ≠ []
  printable : ∀ c ∈ field, Text.IsPrintable c ∧ c ≠ ' ' ∧ c ≠ '"'

theorem IsField.head
    {field : Text}
    (hfield : IsField field)
    (rest : Text) :
    (field ++ rest).head? ≠ some ' ' := by
  rw [List.head?_append_of_ne_nil _ hfield.ne_nil]
  intro hspace
  exact (hfield.printable ' ' (List.mem_of_mem_head? hspace)).2.1 rfl

theorem IsField.shown
    {field : Text} {c : Char}
    (hfield : IsField field)
    (hc : c ∈ field) :
    Text.IsPrintable c ∧ c ≠ '"' :=
  ⟨(hfield.printable c hc).1, (hfield.printable c hc).2.2⟩

theorem padRight_space
    (width : Nat) (t rest : Text) :
    Text.padRight width t ++ ' ' :: rest =
      t ++ (List.replicate (width - t.length + 1) ' ' ++ rest) := by
  simp [Text.padRight, List.replicate_succ']

theorem skipSpaces_replicate
    {count : Nat} {rest : Text}
    (hrest : rest.head? ≠ some ' ') :
    skipSpaces (List.replicate count ' ' ++ rest) = rest := by
  refine Text.dropWhile_run ?_ ?_
  · intro c hc
    simpa using List.eq_of_mem_replicate hc
  · intro d hd
    have hne : d ≠ ' ' := by
      rintro rfl
      exact hrest hd
    simpa using hne

theorem stopsAt_replicate
    {p : Char → Bool}
    (hp : p ' ' = false)
    (count : Nat) (rest : Text) :
    Text.StopsAt p (List.replicate (count + 1) ' ' ++ rest).head? := by
  intro d hd
  cases hd
  exact hp

theorem readNumber?_ofNat
    (n : Nat) {rest : Text}
    (hstop : Text.StopsAt Char.isDigit rest.head?) :
    readNumber? (Text.ofNat n ++ rest) = some (n, rest) := by
  have hdigits := Toml.allDigits_ofNat n
  simp only [readNumber?, Text.takeWhile_run hdigits hstop, Text.dropWhile_run hdigits hstop,
    if_neg (Toml.ofNat_ne_nil n), Toml.digitsValue_ofNat]

theorem isField_ofNat
    (n : Nat) :
    IsField (Text.ofNat n) where
  ne_nil := Toml.ofNat_ne_nil n
  printable := by
    intro c hc
    have hdigit : 48 ≤ c.toNat ∧ c.toNat ≤ 57 := by
      simpa [Char.isDigit, UInt32.le_iff_toNat_le] using Toml.allDigits_ofNat n c hc
    refine ⟨⟨by omega, by omega⟩, ?_, ?_⟩
    · rintro rfl
      exact absurd hdigit (by decide)
    · rintro rfl
      exact absurd hdigit (by decide)

theorem isField_kindName
    (kind : TokenKind) :
    IsField kind.name where
  ne_nil := by
    cases kind <;> decide
  printable := by
    have hall :
        (kind.name.all fun c => Text.IsPrintable c ∧ c ≠ ' ' ∧ c ≠ '"') = true := by
      cases kind <;> decide
    intro c hc
    exact of_decide_eq_true (List.all_eq_true.1 hall c hc)

theorem readKind?_name
    (kind : TokenKind) (count : Nat) (rest : Text) :
    readKind? (kind.name ++ (List.replicate (count + 1) ' ' ++ rest)) =
      some (kind, List.replicate (count + 1) ' ' ++ rest) := by
  have hname : ∀ c ∈ kind.name, decide (c ≠ ' ') = true := by
    intro c hc
    simpa using ((isField_kindName kind).printable c hc).2.1
  have hstop := stopsAt_replicate (p := fun c => decide (c ≠ ' ')) rfl count rest
  simp only [readKind?, Text.takeWhile_run hname hstop, Text.dropWhile_run hname hstop,
    TokenKind.ofName?_name, Option.map_some]

/-! ## Lines -/

/-- What stands in front of the quoted text of a token. -/
def fieldsText (t : Token) : Text :=
  Text.padLeft 4 (Text.ofNat t.span.start) ++ "..".toList ++
    Text.padRight 4 (Text.ofNat t.span.stop) ++ ' ' ::
    Text.padRight 16 t.kind.name ++ [' ']

/-- The line of a token without the line break behind it. -/
def lineText (t : Token) : Text :=
  fieldsText t ++ Text.quoted t.value

theorem tokenLine_eq
    (t : Token) :
    tokenLine t = lineText t ++ ['\n'] := by
  simp [tokenLine, lineText, fieldsText]

/-- The fields of a line with the spaces between them. -/
theorem lineText_eq
    (t : Token) :
    lineText t =
      List.replicate (4 - (Text.ofNat t.span.start).length) ' ' ++
        (Text.ofNat t.span.start ++ ("..".toList ++ (Text.ofNat t.span.stop ++
          (List.replicate (4 - (Text.ofNat t.span.stop).length + 1) ' ' ++ (t.kind.name ++
            (List.replicate (16 - t.kind.name.length + 1) ' ' ++ Text.quoted t.value)))))) := by
  simp only [lineText, fieldsText, Text.padLeft, List.append_assoc, List.nil_append,
    padRight_space]

theorem readLine?_lineText
    (t : Token) :
    readLine? (lineText t) = some t := by
  rw [lineText_eq]
  have hdots : ∀ rest : Text, ("..".toList ++ rest).dropPrefix? "..".toList = some rest := by
    intro rest
    exact List.dropPrefix?_eq_some_iff.2 ⟨_, rfl, beq_self_eq_true _⟩
  have hquote : (Text.quoted t.value).head? ≠ some ' ' := by
    simp [Text.quoted]
  have hdotsStop : ∀ rest : Text, Text.StopsAt Char.isDigit ("..".toList ++ rest).head? := by
    intro rest d hd
    cases hd
    rfl
  simp only [readLine?, Option.bind_eq_bind, Option.bind_some,
    skipSpaces_replicate ((isField_ofNat _).head _), readNumber?_ofNat _ (hdotsStop _),
    hdots, readNumber?_ofNat _ (stopsAt_replicate rfl _ _),
    skipSpaces_replicate ((isField_kindName _).head _), readKind?_name,
    skipSpaces_replicate hquote, Text.unquoted?_quoted_end, if_true]

/-- A number that is longer than its column has only the one space behind it. -/
example :
    readLine? "   7..10000 string           \"say \\\"hi\\\"\"".toList =
      some ⟨.string, "say \"hi\"".toList, ⟨7, 10000⟩⟩ := by
  decide

theorem mem_fieldsText
    {t : Token} {c : Char}
    (hc : c ∈ fieldsText t) :
    Text.IsPrintable c ∧ c ≠ '"' := by
  simp only [fieldsText, Text.padLeft, Text.padRight, List.mem_append, List.mem_cons,
    List.mem_replicate, List.not_mem_nil, or_false] at hc
  have hparts :
      c = ' ' ∨ c ∈ "..".toList ∨ c ∈ Text.ofNat t.span.start ∨ c ∈ Text.ofNat t.span.stop ∨
        c ∈ t.kind.name := by
    tauto
  rcases hparts with rfl | hdot | hstart | hstop | hkind
  · decide
  · have hdots : c = '.' := by simpa using hdot
    subst hdots
    decide
  · exact (isField_ofNat t.span.start).shown hstart
  · exact (isField_ofNat t.span.stop).shown hstop
  · exact (isField_kindName t.kind).shown hkind

/-- A line shows every character it is written with. -/
theorem isHidden_of_mem_lineText
    {t : Token} {c : Char}
    (hc : c ∈ lineText t) :
    Text.isHidden c = false := by
  rcases List.mem_append.1 hc with hc | hc
  · exact (mem_fieldsText hc).1.isHidden
  · exact Text.isHidden_of_mem_quoted hc

theorem quotedField_lineText
    (t : Token) :
    quotedField (lineText t) = Text.quoted t.value := by
  refine Text.dropWhile_run ?_ ?_
  · intro c hc
    simpa using (mem_fieldsText hc).2
  · intro d hd
    cases hd
    rfl

/-! ## Listings -/

theorem linesOf_flatMap
    {lines : List Text}
    (hlines : ∀ line ∈ lines, '\n' ∉ line) :
    linesOf (lines.flatMap (· ++ ['\n'])) = lines := by
  induction lines with
  | nil => rfl
  | cons line lines ih =>
      have hline : ∀ c ∈ line, (c == '\n') = false := by
        intro c hc
        have hne : c ≠ '\n' := by
          rintro rfl
          exact hlines line List.mem_cons_self hc
        exact beq_eq_false_iff_ne.2 hne
      have hrest : linesOf (lines.flatMap (· ++ ['\n'])) = lines :=
        ih fun other hother => hlines other (List.mem_cons_of_mem line hother)
      unfold linesOf List.splitOn at hrest ⊢
      rw [List.flatMap_cons, List.append_assoc, List.singleton_append,
        List.splitOnP_append_cons_of_forall_mem hline '\n' rfl,
        List.dropLast_cons_of_ne_nil (List.splitOnP_ne_nil _ _), hrest]

theorem tokens_eq
    (ts : List Token) :
    tokens ts = (ts.map lineText).flatMap (· ++ ['\n']) := by
  induction ts with
  | nil => rfl
  | cons t ts ih => rw [tokens, ih, tokenLine_eq, List.map_cons, List.flatMap_cons]

theorem linesOf_tokens
    (ts : List Token) :
    linesOf (tokens ts) = ts.map lineText := by
  rw [tokens_eq]
  refine linesOf_flatMap ?_
  intro line hline hbreak
  obtain ⟨t, -, rfl⟩ := List.mem_map.1 hline
  have hshown := isHidden_of_mem_lineText hbreak
  exact absurd hshown (by decide)

/-- A text that lists tokens, one on a line. -/
structure IsListingOf (ts : List Token) (t : Text) : Prop where
  /-- The lines are all of the text, and each has a line break behind it. -/
  complete : t = (linesOf t).flatMap (· ++ ['\n'])
  count : (linesOf t).length = ts.length
  /-- No other place of the text is taken for a line break. -/
  breaks : ∀ line ∈ linesOf t, ∀ c ∈ line, c ∉ Text.lineBreaks
  /-- Every line is read as the token it stands for. -/
  tokens : (linesOf t).map readLine? = ts.map some
  values : quotedTexts? t = some (ts.map Token.value)

theorem isListingOf_tokens
    (ts : List Token) :
    IsListingOf ts (tokens ts) where
  complete := by
    rw [linesOf_tokens]
    exact tokens_eq ts
  count := by
    rw [linesOf_tokens, List.length_map]
  breaks := by
    rw [linesOf_tokens]
    intro line hline c hc hbreak
    obtain ⟨t, -, rfl⟩ := List.mem_map.1 hline
    have hshown := isHidden_of_mem_lineText hc
    rw [Text.isHidden_of_mem_lineBreaks hbreak] at hshown
    cases hshown
  tokens := by
    rw [linesOf_tokens, List.map_map]
    refine List.map_congr_left ?_
    intro t _
    exact readLine?_lineText t
  values := by
    have hread :
        (fun line => (Text.unquoted? (quotedField line)).map Prod.fst) ∘ lineText =
          fun t => some t.value := by
      funext t
      simp [quotedField_lineText, Text.unquoted?_quoted_end]
    rw [quotedTexts?, linesOf_tokens, List.mapM_map, hread]
    exact List.mapM_pure

/-- Every list of tokens can be read off its listing, and a source off that of its tokens. -/
theorem tokens_reads_back :
    (∀ ts, IsListingOf ts (tokens ts)) ∧
      Function.Injective tokens ∧
      ∀ v source,
        (quotedTexts? (tokens (tokenize v source))).map List.flatten = some source := by
  refine ⟨isListingOf_tokens, ?_, ?_⟩
  · intro ts us htext
    have hts := (isListingOf_tokens ts).tokens
    have hus := (isListingOf_tokens us).tokens
    rw [htext, hus] at hts
    exact (List.map_injective_iff.2 (Option.some_injective Token) hts).symm
  · intro v source
    have hjoined : (tokenize v source).flatMap Token.value = source :=
      (tokenizeFrom_covers_rule v 0 source).joined
    rw [(isListingOf_tokens _).values, Option.map_some, ← List.flatMap_def, hjoined]

end Listing
end TeachingEditor
