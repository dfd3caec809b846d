import TeachingEditor.Config
import TeachingEditor.Duration
import TeachingEditor.Knowledge

/-!
# The help assistant

**Input.**  A query, and an assistant with its predefined answers and perhaps a
provider that is asked where they do not help.

**Algorithm.**  A blank query is not answered.  Otherwise a predefined answer wins.
Only without one is the provider asked, once, with the trimmed query, if there is
one and the assistant may ask it.  A provider that takes longer than the bound is
given up, whatever it would have said.

**Results.**  `consult` gives the reply or what went wrong, together with the
questions that are put to the provider on the way, and `respond` the reply alone.  A
`Session` runs steps one after another and keeps the questions that the provider was
asked.
-/

namespace TeachingEditor

/-- What can go wrong with a question that is passed on. -/
inductive FallbackError where
  | notConfigured
  | request (message : Text)
  | emptyAnswer
  | timeout (bound : Duration)
  deriving DecidableEq, Repr

/-- The wording of an error. -/
def FallbackError.message : FallbackError → Text
  | notConfigured => "no fallback service is configured".toList
  | request message => "fallback request failed: ".toList ++ message
  | emptyAnswer => "fallback returned an empty answer".toList
  | timeout bound => "fallback timed out after ".toList ++ bound.write

/-- What a service does with a question. -/
structure Response where
  /-- The time that the answer takes; nothing when it never comes. -/
  delay : Option Duration
  outcome : Except FallbackError Text

/-- Whether an answer takes longer than a bound. -/
def Response.exceeds (r : Response) (bound : Duration) : Bool :=
  match r.delay with
  | some delay => bound.nanoseconds < delay.nanoseconds
  | none => true

/-- A service that answers questions. -/
structure Provider where
  name : Text
  generate : Text → Response
  /-- Whether the service keeps the questions that it is asked. -/
  isRecording : Bool

namespace Provider

/-- A service that gives one answer at once and keeps the questions. -/
def recording (answer : Text) : Provider :=
  { name := "recording".toList, generate := fun _ => ⟨some ⟨0⟩, .ok answer⟩, isRecording := true }

/-- A service whose every request fails at once. -/
def failing (message : Text) : Provider :=
  { name := "failing".toList, generate := fun _ => ⟨some ⟨0⟩, .error (.request message)⟩,
    isRecording := false }

/-- A service that takes its time, whatever the question, and keeps the questions. -/
def scripted (name : Text) (delay : Option Duration) (outcome : Except FallbackError Text) :
    Provider :=
  { name, generate := fun _ => ⟨delay, outcome⟩, isRecording := true }

end Provider

/-- An answer to a query. -/
inductive Reply where
  /-- The query was blank. -/
  | empty
  | predefined (found : KnowledgeMatch)
  | generated (provider text : Text)
  deriving DecidableEq, Repr

/-- What comes of a query. -/
structure Consultation where
  reply : Except FallbackError Reply
  /-- The questions that the provider was asked for it, in their order. -/
  asked : List Text

/-- Something that answers queries. -/
structure Assistant where
  knowledge : List FaqEntry
  provider : Option Provider
  escalate : Bool
  bound : Duration

namespace Assistant

/-- The bound on a call where none is set. -/
def defaultBound : Duration := .ofSeconds 30

/-- An assistant that knows predefined answers only. -/
def ofKnowledge (knowledge : List FaqEntry) : Assistant :=
  { knowledge, provider := none, escalate := true, bound := defaultBound }

/-- An assistant with the settings of a configuration. -/
def ofSettings (knowledge : List FaqEntry) (settings : AssistantSettings) : Assistant :=
  { knowledge, provider := none, escalate := settings.escalate,
    bound := .ofSeconds settings.timeoutSeconds.toNat }

/-- Attach a provider in place of the one before. -/
def attach (a : Assistant) (p : Provider) : Assistant :=
  { a with provider := some p }

/-- Set the bound on a call. -/
def withBound (a : Assistant) (bound : Duration) : Assistant :=
  { a with bound }

/-- Whether a question without a predefined answer can be passed on. -/
def canEscalate (a : Assistant) : Bool :=
  a.escalate && a.provider.isSome

/-- The answer of a provider to a question within a bound. -/
def answerWithin (bound : Duration) (p : Provider) (question : Text) :
    Except FallbackError Reply :=
  let response := p.generate question
  if response.exceeds bound then
    .error (.timeout bound)
  else
    match response.outcome with
    | .error e => .error e
    | .ok answer =>
        if (Text.trim answer).isEmpty then .error .emptyAnswer
        else .ok (.generated p.name answer)

/-- Put a question to a provider; it has been asked, whether or not it answers in time. -/
def call (bound : Duration) (p : Provider) (question : Text) : Consultation :=
  ⟨answerWithin bound p question, [question]⟩

/-- Answer a query. -/
def consult (a : Assistant) (query : Text) : Consultation :=
  let q := Text.trim query
  if q.isEmpty then
    ⟨.ok .empty, []⟩
  else
    match findMatch? a.knowledge q with
    | some found => ⟨.ok (.predefined found), []⟩
    | none =>
        match a.provider with
        | some p => if a.escalate then call a.bound p q else ⟨.error .notConfigured, []⟩
        | none => ⟨.error .notConfigured, []⟩

/-- The reply to a query. -/
def respond (a : Assistant) (query : Text) : Except FallbackError Reply :=
  (a.consult query).reply

end Assistant

/-- An assistant at work. -/
structure Session where
  assistant : Assistant
  /-- The questions that the provider was asked since it was attached, in their order. -/
  asked : List Text

namespace Session

/-- Something that is done with an assistant. -/
inductive Step where
  | attach (p : Provider)
  | setBound (bound : Duration)
  | ask (query : Text)

/-- A session in which nothing has been done. -/
def start (a : Assistant) : Session :=
  ⟨a, []⟩

/-- The questions that the provider has kept; nothing when it keeps none. -/
def recorded? (s : Session) : Option (List Text) :=
  match s.assistant.provider with
  | some p => if p.isRecording then some s.asked else none
  | none => none

/-- The session after a step. -/
def step (s : Session) : Step → Session
  | .attach p => ⟨s.assistant.attach p, []⟩
  | .setBound bound => ⟨s.assistant.withBound bound, s.asked⟩
  | .ask query => ⟨s.assistant, s.asked ++ (s.assistant.consult query).asked⟩

/-- The session after a number of steps. -/
def run (s : Session) (steps : List Step) : Session :=
  steps.foldl step s

end Session
end TeachingEditor
