import TeachingEditor.Assistant
import Mathlib.Logic.Basic

/-!
# What comes of one query

The reply to a query depends on five things: whether the query is blank, whether there is
a predefined answer, whether the question can be passed on, whether the provider answers
in time, and what it says.  `Decides` lists the replies with all that has to be the case
for each of them, so that the order in which an assistant looks at these things is no
longer visible in it.

**Algorithm.**  A query is blank, has a predefined answer, cannot be passed on, or goes to
a provider (`query_cases`), and for each of these there is one equation for `consult`.

**Results.**  `respond_decided`: the reply and the question that the provider was asked are
those of `Decides`, and a provider, a bound and the permission to ask play no part for a
query that is blank or has a predefined answer.
-/

namespace TeachingEditor

/-- An answer comes, and takes no longer than a bound. -/
def Response.ComesWithin (r : Response) (bound : Duration) : Prop :=
  ∃ delay, r.delay = some delay ∧ delay.nanoseconds ≤ bound.nanoseconds

theorem Response.exceeds_eq_false_iff
    {r : Response} {bound : Duration} :
    r.exceeds bound = false ↔ r.ComesWithin bound := by
  unfold Response.exceeds Response.ComesWithin
  cases hdelay : r.delay with
  | none => simp
  | some delay => simp

namespace Assistant

/-- A query, without the blanks around it, that no predefined answer helps with. -/
structure IsOpen (a : Assistant) (q : Text) : Prop where
  asks : q ≠ []
  missed : findMatch? a.knowledge q = none

/-- An open question goes to a provider. -/
structure PassesTo (a : Assistant) (q : Text) (p : Provider) : Prop where
  isOpen : a.IsOpen q
  escalates : a.escalate = true
  attached : a.provider = some p

/-- What comes of a trimmed query: a reply, and the questions that the provider is asked. -/
inductive Decides (a : Assistant) (q : Text) : Except FallbackError Reply → List Text → Prop
  | blank
      (hblank : q = []) :
      Decides a q (.ok .empty) []
  | predefined {found : KnowledgeMatch}
      (hasks : q ≠ [])
      (hfound : findMatch? a.knowledge q = some found) :
      Decides a q (.ok (.predefined found)) []
  | notConfigured
      (hopen : a.IsOpen q)
      (hclosed : a.canEscalate = false) :
      Decides a q (.error .notConfigured) []
  | timeout {p : Provider}
      (hpasses : a.PassesTo q p)
      (hlate : ¬ (p.generate q).ComesWithin a.bound) :
      Decides a q (.error (.timeout a.bound)) [q]
  | failed {p : Provider} {e : FallbackError}
      (hpasses : a.PassesTo q p)
      (hintime : (p.generate q).ComesWithin a.bound)
      (houtcome : (p.generate q).outcome = .error e) :
      Decides a q (.error e) [q]
  | emptyAnswer {p : Provider} {answer : Text}
      (hpasses : a.PassesTo q p)
      (hintime : (p.generate q).ComesWithin a.bound)
      (houtcome : (p.generate q).outcome = .ok answer)
      (hblank : Text.trim answer = []) :
      Decides a q (.error .emptyAnswer) [q]
  | generated {p : Provider} {answer : Text}
      (hpasses : a.PassesTo q p)
      (hintime : (p.generate q).ComesWithin a.bound)
      (houtcome : (p.generate q).outcome = .ok answer)
      (hcontent : Text.trim answer ≠ []) :
      Decides a q (.ok (.generated p.name answer)) [q]

/-! ## What a provider says -/

section Providers

variable {bound : Duration} {p : Provider} {question : Text}

theorem answerWithin_of_late
    (hlate : ¬ (p.generate question).ComesWithin bound) :
    answerWithin bound p question = .error (.timeout bound) := by
  rw [← Response.exceeds_eq_false_iff, Bool.not_eq_false] at hlate
  simp [answerWithin, hlate]

theorem answerWithin_of_error
    {e : FallbackError}
    (hintime : (p.generate question).ComesWithin bound)
    (houtcome : (p.generate question).outcome = .error e) :
    answerWithin bound p question = .error e := by
  rw [← Response.exceeds_eq_false_iff] at hintime
  simp [answerWithin, hintime, houtcome]

theorem answerWithin_of_ok
    {answer : Text}
    (hintime : (p.generate question).ComesWithin bound)
    (houtcome : (p.generate question).outcome = .ok answer) :
    answerWithin bound p question =
      if Text.trim answer = [] then .error .emptyAnswer else .ok (.generated p.name answer) := by
  rw [← Response.exceeds_eq_false_iff] at hintime
  simp [answerWithin, hintime, houtcome]

end Providers

/-! ## What an assistant does -/

section Queries

variable {a : Assistant} {query : Text}

theorem query_cases
    (a : Assistant) (q : Text) :
    q = [] ∨ (q ≠ [] ∧ ∃ found, findMatch? a.knowledge q = some found) ∨
      (a.IsOpen q ∧ a.canEscalate = false) ∨ ∃ p, a.PassesTo q p := by
  by_cases hblank : q = []
  · exact Or.inl hblank
  cases hfound : findMatch? a.knowledge q with
  | some found => exact Or.inr (Or.inl ⟨hblank, found, rfl⟩)
  | none =>
      have hopen : a.IsOpen q := ⟨hblank, hfound⟩
      cases hescalate : a.escalate with
      | false => exact Or.inr (Or.inr (Or.inl ⟨hopen, by simp [canEscalate, hescalate]⟩))
      | true =>
          cases hprovider : a.provider with
          | none => exact Or.inr (Or.inr (Or.inl ⟨hopen, by simp [canEscalate, hprovider]⟩))
          | some p => exact Or.inr (Or.inr (Or.inr ⟨p, hopen, hescalate, hprovider⟩))

theorem consult_of_blank
    (hblank : Text.trim query = []) :
    a.consult query = ⟨.ok .empty, []⟩ := by
  simp [consult, hblank]

theorem consult_of_found
    {found : KnowledgeMatch}
    (hasks : Text.trim query ≠ [])
    (hfound : findMatch? a.knowledge (Text.trim query) = some found) :
    a.consult query = ⟨.ok (.predefined found), []⟩ := by
  simp [consult, hasks, hfound]

theorem consult_of_closed
    (hopen : a.IsOpen (Text.trim query))
    (hclosed : a.canEscalate = false) :
    a.consult query = ⟨.error .notConfigured, []⟩ := by
  cases hprovider : a.provider with
  | none => simp [consult, hopen.asks, hopen.missed, hprovider]
  | some p =>
      have hescalate : a.escalate = false := by simpa [canEscalate, hprovider] using hclosed
      simp [consult, hopen.asks, hopen.missed, hprovider, hescalate]

theorem consult_of_passes
    {p : Provider}
    (hpasses : a.PassesTo (Text.trim query) p) :
    a.consult query = call a.bound p (Text.trim query) := by
  simp [consult, hpasses.isOpen.asks, hpasses.isOpen.missed, hpasses.attached, hpasses.escalates]

theorem Decides.consult_eq
    {reply : Except FallbackError Reply} {asked : List Text}
    (h : a.Decides (Text.trim query) reply asked) :
    a.consult query = ⟨reply, asked⟩ := by
  cases h with
  | blank hblank => exact consult_of_blank hblank
  | predefined hasks hfound => exact consult_of_found hasks hfound
  | notConfigured hopen hclosed => exact consult_of_closed hopen hclosed
  | timeout hpasses hlate =>
      rw [consult_of_passes hpasses, call, answerWithin_of_late hlate]
  | failed hpasses hintime houtcome =>
      rw [consult_of_passes hpasses, call, answerWithin_of_error hintime houtcome]
  | emptyAnswer hpasses hintime houtcome hblank =>
      rw [consult_of_passes hpasses, call, answerWithin_of_ok hintime houtcome, if_pos hblank]
  | generated hpasses hintime houtcome hcontent =>
      rw [consult_of_passes hpasses, call, answerWithin_of_ok hintime houtcome, if_neg hcontent]

/-- Something comes of every question that goes to a provider. -/
theorem PassesTo.exists_decides
    {q : Text} {p : Provider}
    (hpasses : a.PassesTo q p) :
    ∃ reply, a.Decides q reply [q] := by
  by_cases hintime : (p.generate q).ComesWithin a.bound
  · cases houtcome : (p.generate q).outcome with
    | error e => exact ⟨_, Decides.failed hpasses hintime houtcome⟩
    | ok answer =>
        by_cases hblank : Text.trim answer = []
        · exact ⟨_, Decides.emptyAnswer hpasses hintime houtcome hblank⟩
        · exact ⟨_, Decides.generated hpasses hintime houtcome hblank⟩
  · exact ⟨_, Decides.timeout hpasses hintime⟩

theorem exists_decides
    (a : Assistant) (q : Text) :
    ∃ reply asked, a.Decides q reply asked := by
  rcases query_cases a q with hblank | ⟨hasks, found, hfound⟩ | ⟨hopen, hclosed⟩ | ⟨p, hpasses⟩
  · exact ⟨_, _, Decides.blank hblank⟩
  · exact ⟨_, _, Decides.predefined hasks hfound⟩
  · exact ⟨_, _, Decides.notConfigured hopen hclosed⟩
  · obtain ⟨reply, hreply⟩ := hpasses.exists_decides
    exact ⟨reply, _, hreply⟩

theorem consult_eq_iff
    {reply : Except FallbackError Reply} {asked : List Text} :
    a.consult query = ⟨reply, asked⟩ ↔ a.Decides (Text.trim query) reply asked := by
  refine ⟨?_, Decides.consult_eq⟩
  intro hconsult
  obtain ⟨reply', asked', h⟩ := exists_decides a (Text.trim query)
  have hsame := h.consult_eq.symm.trans hconsult
  rw [Consultation.mk.injEq] at hsame
  obtain ⟨rfl, rfl⟩ := hsame
  exact h

theorem respond_eq_iff
    {reply : Except FallbackError Reply} :
    a.respond query = reply ↔ ∃ asked, a.Decides (Text.trim query) reply asked := by
  constructor
  · rintro rfl
    exact ⟨(a.consult query).asked, consult_eq_iff.1 rfl⟩
  · rintro ⟨asked, h⟩
    rw [respond, h.consult_eq]

/-- A query that is blank or has a predefined answer is answered from the knowledge alone. -/
theorem consult_eq_of_knowledge
    {b : Assistant}
    (hknowledge : b.knowledge = a.knowledge)
    (hanswered : Text.trim query = [] ∨ findMatch? a.knowledge (Text.trim query) ≠ none) :
    b.consult query = a.consult query := by
  by_cases hblank : Text.trim query = []
  · rw [consult_of_blank hblank, consult_of_blank hblank]
  · obtain ⟨found, hfound⟩ := Option.ne_none_iff_exists'.1 (hanswered.resolve_left hblank)
    rw [consult_of_found hblank hfound, consult_of_found hblank (hknowledge ▸ hfound)]

theorem respond_eq_empty_iff :
    a.respond query = .ok .empty ↔ Text.trim query = [] := by
  rw [respond_eq_iff]
  constructor
  · rintro ⟨asked, h⟩
    cases h with
    | blank hblank => exact hblank
  · intro hblank
    exact ⟨[], Decides.blank hblank⟩

theorem respond_eq_predefined_iff
    {found : KnowledgeMatch} :
    a.respond query = .ok (.predefined found) ↔
      Text.trim query ≠ [] ∧ findMatch? a.knowledge (Text.trim query) = some found := by
  rw [respond_eq_iff]
  constructor
  · rintro ⟨asked, h⟩
    cases h with
    | predefined hasks hfound => exact ⟨hasks, hfound⟩
  · rintro ⟨hasks, hfound⟩
    exact ⟨[], Decides.predefined hasks hfound⟩

end Queries

/--
For every assistant and query, with the blanks around the query taken away: the reply, and
what the provider is asked for it, are the ones that `Decides` allows.  The query is not
answered exactly if it is blank, and has a predefined answer exactly if it is not and the
knowledge has a match; in both cases all assistants with this knowledge do the same.
-/
theorem respond_decided
    (a : Assistant) (query : Text) :
    let q := Text.trim query
    (∀ reply, a.respond query = reply ↔ ∃ asked, a.Decides q reply asked) ∧
      (∀ reply asked, a.consult query = ⟨reply, asked⟩ ↔ a.Decides q reply asked) ∧
      (a.respond query = .ok .empty ↔ q = []) ∧
      (∀ found, a.respond query = .ok (.predefined found) ↔
        q ≠ [] ∧ findMatch? a.knowledge q = some found) ∧
      ∀ b : Assistant, b.knowledge = a.knowledge →
        q = [] ∨ findMatch? a.knowledge q ≠ none →
        b.consult query = a.consult query := by
  intro q
  refine ⟨fun reply => respond_eq_iff, fun reply asked => consult_eq_iff, respond_eq_empty_iff,
    fun found => respond_eq_predefined_iff, ?_⟩
  intro b hknowledge hanswered
  exact consult_eq_of_knowledge hknowledge hanswered

/-- A provider that repeats the question after a second. -/
def echo : Provider :=
  { name := "echo".toList, generate := fun question => ⟨some (.ofSeconds 1), .ok question⟩,
    isRecording := true }

/-- With a predefined answer, a provider that would come too late makes no difference. -/
theorem respond_decided_beside_late_provider :
    let knowledge : List FaqEntry := [⟨[], ["loop".toList], [], none⟩]
    findMatch? knowledge (Text.trim " LOOP ".toList) ≠ none ∧
      (Assistant.mk knowledge (some echo) true ⟨0⟩).consult " LOOP ".toList =
        (ofKnowledge knowledge).consult " LOOP ".toList := by
  intro knowledge
  have hanswered : findMatch? knowledge (Text.trim " LOOP ".toList) ≠ none := by decide
  exact ⟨hanswered,
    (respond_decided (ofKnowledge knowledge) " LOOP ".toList).2.2.2.2 _ rfl (Or.inr hanswered)⟩

/-- The question goes out without the blanks around it, and the bound may be met exactly. -/
example :
    (Assistant.mk [] (some echo) true (.ofSeconds 1)).respond " what? ".toList =
      .ok (.generated "echo".toList "what?".toList) := by
  rfl

end Assistant
end TeachingEditor
