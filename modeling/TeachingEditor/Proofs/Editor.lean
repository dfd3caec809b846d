import TeachingEditor.Editor
import TeachingEditor.Proofs.Completion.Suggestion

/-!
# Safety of an editor buffer

A buffer is a text with a number, and the number may be anything, since a cursor can
be moved anywhere.  A buffer is at a place when the number is the size of a text that
the buffer's text begins with.

**Algorithm.**  There are two kinds of buffers.  At a place, every step is an
equation on the text before the cursor, with the text after it untouched
(`replaceWord_at`, `step_at`).  Elsewhere, every step that needs a place says what
is wrong and does nothing (`step_off`).  A run is one step after another, so what is
promised of every step holds along every run, by induction on the steps.

**Results.**  `run_safe`: no step of a run falls outside the text, no step other than
a move leaves its place or changes what stands after the cursor, and no step that
cannot be done changes anything.
-/

namespace TeachingEditor

/-- The steps that look for a place in the text. -/
def EditorStep.needsPlace : EditorStep → Bool
  | .insert _ => true
  | .word => true
  | .replace _ => true
  | .suggest => true
  | .accept _ => true
  | .move _ => false
  | .tokens => false
  | .highlight _ => false

/-- The buffer stands between two texts. -/
structure Buffer.At (b : Buffer) (before after : Text) : Prop where
  text_eq : b.text = before ++ after
  cursor_eq : b.cursor = Text.size before

/-- What is promised of a step from a buffer to the next one, with what it shows. -/
structure SafeStep (settings : EditorSettings) (b : Buffer) (s : EditorStep)
    (next : Buffer) (answer : EditorAnswer) : Prop where
  /-- No word lies outside the text. -/
  inside : answer ≠ .badWord
  /-- A word that is shown stands in the text where its span says. -/
  shown : ∀ w, s = .word → answer = .word w →
    Text.slice? b.text w.span.start w.span.stop = some w.word
  /-- At a place, a step stays at a place and keeps the text after the cursor. -/
  kept : ∀ before after, b.At before after → (∀ cursor, s ≠ .move cursor) →
    ∃ newBefore, next.At newBefore after
  /-- At a place, no cursor is rejected. -/
  accepted : ∀ before after, b.At before after → ∀ e, answer ≠ .badCursor e
  /-- Elsewhere, the steps that need a place all say the same and do nothing. -/
  rejected : ¬ Text.IsBoundary b.text b.cursor → s.needsPlace = true →
    next = b ∧ answer = .badCursor (cursorError b.text b.cursor)
  /-- A suggestion that is not there cannot be accepted. -/
  missing : ∀ index items, s = .accept index →
    suggest settings.completions b.text b.cursor = .ok items → items.length ≤ index →
    next = b ∧ answer = .noSuchSuggestion

/-- A run all of whose steps keep their promises. -/
inductive SafeRun (settings : EditorSettings) :
    Buffer → List EditorStep → List (Buffer × EditorAnswer) → Prop
  | nil (b : Buffer) :
      SafeRun settings b [] []
  | cons {b next : Buffer} {s : EditorStep} {answer : EditorAnswer}
      {rest : List EditorStep} {results : List (Buffer × EditorAnswer)}
      (hstep : SafeStep settings b s next answer)
      (hrest : SafeRun settings next rest results) :
      SafeRun settings b (s :: rest) ((next, answer) :: results)

namespace Buffer

variable {settings : EditorSettings} {b : Buffer} {before after : Text} {s : EditorStep}

/-! ## One step at a place -/

theorem At.eq
    (h : b.At before after) :
    b = ⟨before ++ after, Text.size before⟩ := by
  cases b with
  | mk text cursor =>
      obtain ⟨rfl, rfl⟩ := h
      rfl

theorem exists_at
    (hplace : Text.IsBoundary b.text b.cursor) :
    ∃ before after, b.At before after := by
  obtain ⟨before, after, htext, hcursor⟩ := isBoundary_iff.1 hplace
  exact ⟨before, after, htext, hcursor⟩

/-- Replacing the word at a place changes the text before the cursor only. -/
theorem replaceWord_at
    (h : b.At before after)
    (text : Text) (answer : EditorAnswer) :
    ∃ lead,
      before = lead ++ trailingWord before ∧
      b.replaceWord text answer = (⟨lead ++ text ++ after, Text.size (lead ++ text)⟩, answer) := by
  obtain ⟨lead, hlead⟩ := trailingWord_suffix before
  refine ⟨lead, hlead.symm, ?_⟩
  have hsize := congrArg Text.size hlead
  rw [Text.size_append] at hsize
  have hstart : Text.size before - Text.size (trailingWord before) = Text.size lead := by omega
  have hreplaced := replaceIn?_between (w := ⟨Text.size lead, trailingWord before⟩) rfl after text
  simp only [hlead] at hreplaced
  rw [h.eq, replaceWord, wordAt_size, hstart]
  simp only [hreplaced, Text.size_append]

/-- What a step at a place can do: it stays at a place in front of the same text. -/
theorem step_at
    (settings : EditorSettings)
    (h : b.At before after)
    (hmove : ∀ cursor, s ≠ .move cursor) :
    ∃ newBefore answer,
      b.step settings s = (⟨newBefore ++ after, Text.size newBefore⟩, answer) ∧
      answer ≠ .badWord ∧ ∀ e, answer ≠ .badCursor e := by
  have hword := wordAt_size before after
  have hsuggest := suggest_size settings.completions before after
  rw [h.eq]
  cases s with
  | move cursor => exact absurd rfl (hmove cursor)
  | insert text =>
      refine ⟨before ++ text, .done, ?_, by simp, by simp⟩
      simp [step, splitAtCursor_size]
  | word =>
      let w : CursorWord :=
        ⟨Text.size before - Text.size (trailingWord before), trailingWord before⟩
      refine ⟨before, .word w, ?_, by simp, by simp⟩
      simp only [step, hword, w]
  | replace text =>
      obtain ⟨lead, -, hreplace⟩ := replaceWord_at h text .done
      rw [h.eq] at hreplace
      exact ⟨lead ++ text, .done, hreplace, by simp, by simp⟩
  | suggest =>
      let items := suggestionsFor settings.completions (currentWord before)
      refine ⟨before, .suggestions items, ?_, by simp, by simp⟩
      simp only [step, hsuggest, items]
  | accept index =>
      cases hitem : (suggestionsFor settings.completions (currentWord before))[index]? with
      | none =>
          refine ⟨before, .noSuchSuggestion, ?_, by simp, by simp⟩
          simp only [step, hsuggest, hitem]
      | some item =>
          obtain ⟨lead, -, hreplace⟩ := replaceWord_at h item.insertText (.accepted item)
          rw [h.eq] at hreplace
          refine ⟨lead ++ item.insertText, .accepted item, ?_, by simp, by simp⟩
          simp only [step, hsuggest, hitem, hreplace]
  | tokens => exact ⟨before, .tokens (tokenize settings.vocabulary (before ++ after)), rfl,
      by simp, by simp⟩
  | highlight theme =>
      exact ⟨before, .markup (Markup.highlight settings.vocabulary theme (before ++ after)), rfl,
        by simp, by simp⟩

/-! ## One step elsewhere -/

/-- A step that needs a place and finds none does nothing. -/
theorem step_off
    (hbad : ¬ Text.IsBoundary b.text b.cursor)
    (hneeds : s.needsPlace = true) :
    b.step settings s = (b, .badCursor (cursorError b.text b.cursor)) := by
  cases s with
  | move cursor => cases hneeds
  | insert text => simp [step, splitAtCursor_eq_error hbad]
  | word => simp [step, wordAt_eq_error hbad]
  | replace text => simp [step, replaceWord, wordAt_eq_error hbad]
  | suggest => simp [step, suggest_eq_error settings.completions hbad]
  | accept index => simp [step, suggest_eq_error settings.completions hbad]
  | tokens => cases hneeds
  | highlight theme => cases hneeds

/-- The steps that need no place neither miss one nor reject one. -/
theorem step_anywhere
    (hneeds : s.needsPlace = false) :
    (b.step settings s).2 ≠ .badWord ∧ ∀ e, (b.step settings s).2 ≠ .badCursor e := by
  cases s with
  | move cursor => simp [step]
  | tokens => simp [step]
  | highlight theme => simp [step]
  | _ => cases hneeds

/-! ## Every step, and every run -/

theorem step_inside
    (settings : EditorSettings) (b : Buffer) (s : EditorStep) :
    (b.step settings s).2 ≠ .badWord := by
  cases hneeds : s.needsPlace with
  | false => exact (step_anywhere hneeds).1
  | true =>
      by_cases hplace : Text.IsBoundary b.text b.cursor
      · obtain ⟨before, after, hat⟩ := exists_at hplace
        have hmove : ∀ cursor, s ≠ .move cursor := by
          rintro cursor rfl
          cases hneeds
        obtain ⟨newBefore, answer, hstep, hinside, -⟩ := step_at settings hat hmove
        rw [hstep]
        exact hinside
      · rw [step_off hplace hneeds]
        simp

theorem step_accepted
    (h : b.At before after)
    (e : CursorError) :
    (b.step settings s).2 ≠ .badCursor e := by
  by_cases hmove : ∀ cursor, s ≠ .move cursor
  · obtain ⟨newBefore, answer, hstep, -, haccepted⟩ := step_at settings h hmove
    rw [hstep]
    exact haccepted e
  · obtain ⟨cursor, hcursor⟩ := not_forall_not.1 hmove
    rw [hcursor]
    exact (step_anywhere rfl).2 e

theorem wordAt_of_shown
    {w : CursorWord}
    (hshown : (b.step settings .word).2 = .word w) :
    wordAt b.text b.cursor = .ok w := by
  unfold step at hshown
  cases hword : wordAt b.text b.cursor with
  | error e => simp [hword] at hshown
  | ok found =>
      simp only [hword, EditorAnswer.word.injEq] at hshown
      rw [hshown]

/-- Every step keeps its promises, whatever the buffer. -/
theorem step_safe
    (settings : EditorSettings) (b : Buffer) (s : EditorStep) :
    SafeStep settings b s (b.step settings s).1 (b.step settings s).2 where
  inside := step_inside settings b s
  shown := by
    rintro w rfl hshown
    obtain ⟨lead, after, htext, hstart, -, -⟩ := wordAt_eq_ok (wordAt_of_shown hshown)
    rw [htext, CursorWord.span, hstart]
    exact Text.slice?_size lead w.word after
  kept := by
    intro before after hat hmove
    obtain ⟨newBefore, answer, hstep, -, -⟩ := step_at settings hat hmove
    rw [hstep]
    exact ⟨newBefore, rfl, rfl⟩
  accepted := fun _ _ hat e => step_accepted hat e
  rejected := by
    intro hbad hneeds
    rw [step_off hbad hneeds]
    exact ⟨rfl, rfl⟩
  missing := by
    rintro index items rfl hsuggest hlength
    have hnone : items[index]? = none := List.getElem?_eq_none hlength
    simp [step, hsuggest, hnone]

/-- The steps of a run keep their promises one after another. -/
theorem safeRun
    (settings : EditorSettings) (b : Buffer) (steps : List EditorStep) :
    SafeRun settings b steps (b.run settings steps) := by
  induction steps generalizing b with
  | nil => exact SafeRun.nil b
  | cons s rest ih => exact SafeRun.cons (step_safe settings b s) (ih (b.step settings s).1)

end Buffer

/-- What stands after the cursor is kept by a whole run without moves. -/
theorem SafeRun.kept
    {settings : EditorSettings} {b : Buffer} {steps : List EditorStep}
    {results : List (Buffer × EditorAnswer)} {before after : Text}
    (hrun : SafeRun settings b steps results)
    (hat : b.At before after)
    (hmove : ∀ s ∈ steps, ∀ cursor, s ≠ .move cursor) :
    ∀ result ∈ results, ∃ newBefore, result.1.At newBefore after := by
  induction hrun generalizing before with
  | nil b => simp
  | cons hstep hrest ih =>
      obtain ⟨newBefore, hnext⟩ := hstep.kept before after hat (hmove _ List.mem_cons_self)
      have hlater := ih hnext fun s hs => hmove s (List.mem_cons_of_mem _ hs)
      intro result hresult
      rcases List.mem_cons.1 hresult with rfl | hresult
      · exact ⟨newBefore, hnext⟩
      · exact hlater result hresult

/--
In a run of any steps from any buffer, every step keeps the promises of `SafeStep`;
and as long as the cursor is not moved, a run from a place stays at places in front
of the text that stood after the cursor at its beginning.
-/
theorem run_safe
    (settings : EditorSettings) (b : Buffer) (steps : List EditorStep) :
    SafeRun settings b steps (b.run settings steps) ∧
      ∀ before after, b.At before after →
        (∀ s ∈ steps, ∀ cursor, s ≠ .move cursor) →
        ∀ result ∈ b.run settings steps, ∃ newBefore, result.1.At newBefore after := by
  have hrun := Buffer.safeRun settings b steps
  refine ⟨hrun, ?_⟩
  intro before after hat hmove
  exact hrun.kept hat hmove

/-- Typing a letter and accepting a suggestion between characters of several bytes. -/
theorem run_safe_typing :
    (Buffer.mk "fé wr→".toList 6).At "fé wr".toList ['→'] ∧
      ∀ result ∈ (Buffer.mk "fé wr→".toList 6).run
          ⟨.ofLists [] [], [plainItem "write".toList]⟩ [.insert ['i'], .accept 0, .suggest],
        ∃ newBefore, result.1.At newBefore ['→'] := by
  have hat : (Buffer.mk "fé wr→".toList 6).At "fé wr".toList ['→'] := ⟨rfl, rfl⟩
  have hmove : ∀ s ∈ [EditorStep.insert ['i'], .accept 0, .suggest], ∀ cursor, s ≠ .move cursor := by
    simp
  exact ⟨hat, (run_safe _ _ _).2 _ _ hat hmove⟩

end TeachingEditor
