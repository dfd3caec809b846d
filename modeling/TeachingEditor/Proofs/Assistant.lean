import TeachingEditor.Proofs.Assistant.Outcome
import Mathlib.Data.List.DropRight

/-!
# What a provider is asked in a session

A session is any sequence of attachments, new bounds and queries.  Which questions
have reached the provider by now is read off the sequence itself here, without any
assistant.

**Algorithm.**  One query puts at most one question to the provider, and which one
depends on the knowledge and on the settings alone (`consult_asked`).  No part of
this looks at the reply, so nothing that a provider does with one question matters
for the next.  The invariant `Follows` says of a session what the steps so far have
left behind.  A step keeps it (`Follows.step`), and a run keeps it by induction from
its last step (`follows_run`).

**Results.**  `run_recorded`: after any sequence of steps the provider has recorded
the queries since it was attached that no predefined answer helps with, trimmed and
each once, or nothing if questions are not passed on; and only attachments and new
bounds have changed the assistant.
-/

namespace TeachingEditor

/-! ## One query -/

/-- Whether a trimmed query asks something that no predefined answer helps with. -/
def isUnanswered (knowledge : List FaqEntry) (query : Text) : Bool :=
  ! query.isEmpty && (findMatch? knowledge query).isNone

/-- The questions that queries leave to a provider. -/
def openQuestions (knowledge : List FaqEntry) (queries : List Text) : List Text :=
  (queries.map Text.trim).filter (isUnanswered knowledge)

@[simp] theorem openQuestions_nil
    (knowledge : List FaqEntry) :
    openQuestions knowledge [] = [] :=
  rfl

theorem openQuestions_append
    (knowledge : List FaqEntry) (first second : List Text) :
    openQuestions knowledge (first ++ second) =
      openQuestions knowledge first ++ openQuestions knowledge second := by
  simp [openQuestions]

/-- A query puts its question to the provider if there is a question, and a provider for it. -/
theorem Assistant.consult_asked
    (a : Assistant) (query : Text) :
    (a.consult query).asked =
      if a.canEscalate then openQuestions a.knowledge [query] else [] := by
  have hopen :
      openQuestions a.knowledge [query] =
        if isUnanswered a.knowledge (Text.trim query) then [Text.trim query] else [] := by
    simp [openQuestions, List.filter_singleton]
  rw [hopen]
  rcases a.query_cases (Text.trim query) with
    hblank | ⟨hasks, found, hfound⟩ | ⟨hleft, hclosed⟩ | ⟨p, hpasses⟩
  · simp [consult_of_blank hblank, isUnanswered, hblank]
  · simp [consult_of_found hasks hfound, isUnanswered, hfound]
  · simp [consult_of_closed hleft hclosed, hclosed]
  · have hcan : a.canEscalate = true := by
      simp [canEscalate, hpasses.escalates, hpasses.attached]
    have hunanswered : isUnanswered a.knowledge (Text.trim query) = true := by
      simp [isUnanswered, hpasses.isOpen.asks, hpasses.isOpen.missed]
    simp [consult_of_passes hpasses, call, hcan, hunanswered]

/-- An assistant as it is set up, with settings or without. -/
def Assistant.configured (knowledge : List FaqEntry) : Option AssistantSettings → Assistant
  | none => .ofKnowledge knowledge
  | some settings => .ofSettings knowledge settings

/-- Whether questions are passed on; without settings they are. -/
def escalates : Option AssistantSettings → Bool
  | none => true
  | some settings => settings.escalate

namespace Session

/-! ## What a sequence of steps says -/

/-- The provider that a step attaches. -/
def Step.attached? : Step → Option Provider
  | .attach p => some p
  | .setBound _ => none
  | .ask _ => none

/-- The bound that a step sets. -/
def Step.bound? : Step → Option Duration
  | .attach _ => none
  | .setBound bound => some bound
  | .ask _ => none

/-- The query that a step asks. -/
def Step.query? : Step → Option Text
  | .attach _ => none
  | .setBound _ => none
  | .ask query => some query

/-- The provider attached last. -/
def lastAttached? (steps : List Step) : Option Provider :=
  (steps.filterMap Step.attached?).getLast?

/-- The bound set last, or the one from the beginning. -/
def lastBound (initial : Duration) (steps : List Step) : Duration :=
  (steps.filterMap Step.bound?).getLast?.getD initial

/-- The queries behind the last attachment. -/
def queriesSince (steps : List Step) : List Text :=
  (steps.rtakeWhile fun s => s.attached?.isNone).filterMap Step.query?

section Concat

variable (steps : List Step)

theorem lastAttached?_concat
    (s : Step) :
    lastAttached? (steps ++ [s]) = s.attached?.or (lastAttached? steps) := by
  cases s with
  | attach p => simp [lastAttached?, Step.attached?]
  | setBound bound => simp [lastAttached?, Step.attached?]
  | ask query => simp [lastAttached?, Step.attached?]

theorem lastBound_concat
    (initial : Duration) (s : Step) :
    lastBound initial (steps ++ [s]) = s.bound?.getD (lastBound initial steps) := by
  cases s with
  | attach p => simp [lastBound, Step.bound?]
  | setBound bound => simp [lastBound, Step.bound?]
  | ask query => simp [lastBound, Step.bound?]

theorem queriesSince_attach
    (p : Provider) :
    queriesSince (steps ++ [.attach p]) = [] := by
  simp [queriesSince, Step.attached?]

theorem queriesSince_setBound
    (bound : Duration) :
    queriesSince (steps ++ [.setBound bound]) = queriesSince steps := by
  simp [queriesSince, Step.attached?, Step.query?]

theorem queriesSince_ask
    (query : Text) :
    queriesSince (steps ++ [.ask query]) = queriesSince steps ++ [query] := by
  simp [queriesSince, Step.attached?, Step.query?]

end Concat

/-! ## What a session has done -/

/-- What is left behind in a session by the steps so far. -/
structure Follows (knowledge : List FaqEntry) (escalate : Bool) (bound : Duration)
    (steps : List Step) (s : Session) : Prop where
  assistant_eq :
    s.assistant = ⟨knowledge, lastAttached? steps, escalate, lastBound bound steps⟩
  asked_eq :
    s.asked =
      if escalate && (lastAttached? steps).isSome then
        openQuestions knowledge (queriesSince steps)
      else
        []

variable {knowledge : List FaqEntry} {escalate : Bool} {bound : Duration} {steps : List Step}
  {s : Session}

theorem Follows.canEscalate_eq
    (h : Follows knowledge escalate bound steps s) :
    s.assistant.canEscalate = (escalate && (lastAttached? steps).isSome) := by
  rw [h.assistant_eq]
  rfl

/-- One step leaves behind what the longer sequence says. -/
theorem Follows.step
    (h : Follows knowledge escalate bound steps s)
    (next : Step) :
    Follows knowledge escalate bound (steps ++ [next]) (s.step next) := by
  have hattached := lastAttached?_concat steps next
  have hbound := lastBound_concat steps bound next
  cases next with
  | attach p =>
      constructor
      · rw [hattached, hbound, Session.step, h.assistant_eq]
        rfl
      · rw [queriesSince_attach]
        simp [Session.step]
  | setBound d =>
      constructor
      · rw [hattached, hbound, Session.step, h.assistant_eq]
        rfl
      · rw [hattached, queriesSince_setBound, Session.step, h.asked_eq]
        rfl
  | ask query =>
      constructor
      · rw [hattached, hbound, Session.step, h.assistant_eq]
        rfl
      · rw [hattached, queriesSince_ask, openQuestions_append, Session.step]
        rw [Assistant.consult_asked, h.canEscalate_eq, h.asked_eq, h.assistant_eq]
        by_cases hpassed : (escalate && (lastAttached? steps).isSome) = true
        · simp [hpassed, Step.attached?]
        · simp [hpassed, Step.attached?]

/-- A run leaves behind what its steps say. -/
theorem follows_run
    (a : Assistant)
    (hprovider : a.provider = none)
    (steps : List Step) :
    Follows a.knowledge a.escalate a.bound steps ((start a).run steps) := by
  induction steps using List.reverseRecOn with
  | nil =>
      constructor
      · cases a with
        | mk knowledge provider escalate bound =>
            obtain rfl : provider = none := hprovider
            rfl
      · simp [run, start, lastAttached?]
  | append_singleton steps next ih =>
      have hrun : (start a).run (steps ++ [next]) = ((start a).run steps).step next := by
        simp [run, List.foldl_append]
      rw [hrun]
      exact ih.step next

/--
After any steps of a session, with settings or without, whatever the providers reply:
the provider attached last, if it records, has recorded the trimmed queries since then
that are not blank and have no predefined answer, each once and in their order, if
questions are passed on, and nothing otherwise.  The assistant has its knowledge and
its settings, the provider attached last and the bound set last; questions can be
passed on if the settings say so and there is a provider; and a query would not
change any of this.
-/
theorem run_recorded
    (knowledge : List FaqEntry) (settings : Option AssistantSettings) (steps : List Step) :
    let a := Assistant.configured knowledge settings
    let s := (start a).run steps
    s.recorded? =
        ((lastAttached? steps).filter (·.isRecording)).map (fun _ =>
          if escalates settings then openQuestions knowledge (queriesSince steps) else []) ∧
      s.assistant =
        ⟨knowledge, lastAttached? steps, escalates settings, lastBound a.bound steps⟩ ∧
      s.assistant.canEscalate = (escalates settings && (lastAttached? steps).isSome) ∧
      ∀ query, (s.step (.ask query)).assistant = s.assistant := by
  intro a s
  have hfollows : Follows knowledge (escalates settings) a.bound steps s := by
    cases settings with
    | none => exact follows_run a rfl steps
    | some settings => exact follows_run a rfl steps
  refine ⟨?_, hfollows.assistant_eq, hfollows.canEscalate_eq, fun _ => rfl⟩
  unfold recorded?
  rw [hfollows.assistant_eq, hfollows.asked_eq]
  cases hlast : lastAttached? steps with
  | none => rfl
  | some p =>
      cases hrecording : p.isRecording with
      | false => simp [hrecording, Option.filter]
      | true => simp [hrecording, Option.filter]

/-- A provider that never answers, under a bound of no time, is still asked twice. -/
example :
    ((start (.configured [⟨[], ["loop".toList], [], none⟩] none)).run
      [.ask ['a'], .attach (.scripted ['p'] none (.ok [])), .setBound ⟨0⟩, .ask " b ".toList,
        .ask "a LOOP".toList, .ask [' '], .ask ['b']]).recorded? = some [['b'], ['b']] := by
  decide

end Session
end TeachingEditor
