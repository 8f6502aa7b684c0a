/-
# Screening.Proofs.History -- a state has no history

Two runs of events may answer, overwrite, clear and start over in quite different ways.
What they leave is decided question by question: by the last event on the question
after the last reset, and where there is none, by the sheet the run began with if it
was never reset (`lastAnswer`).  Everything else in a state is computed from there.

* `get?_foldl_applyTo`: the answers at the end of a run, by their last events;
* `Eligibility.foldl_reduce`: a run acts on the answers alone, whatever the state that
  it began with said besides.
-/
import Mathlib.Data.List.Induction
import Screening.Eligibility
import Screening.Proofs.Acceptance

namespace Screening

set_option autoImplicit false

/-! ## Events -/

namespace Event

/-- The question that the event is on, if it is on one. -/
def questionId? : Event → Option String
  | .answered questionId _ _ => some questionId
  | .cleared questionId => some questionId
  | .reset => none

/-- The answer that the event records, if it records one. -/
def answer? : Event → Option Answer
  | .answered questionId value subAnswers => some { questionId, value, subAnswers }
  | .cleared _ => none
  | .reset => none

@[simp] theorem questionId?_eq_none_iff {event : Event} :
    event.questionId? = none ↔ event = .reset := by
  cases event <;> simp [questionId?]

/-- An event on a question decides its answer and leaves the others alone. -/
theorem get?_applyTo {event : Event} {questionId : String}
    (on : event.questionId? = some questionId) (sheet : AnswerSheet) (id : String) :
    (event.applyTo sheet).get? id = if questionId = id then event.answer? else sheet.get? id := by
  cases event <;> simp_all [questionId?, applyTo, answer?]

/-- Two events on different questions can be exchanged. -/
theorem applyTo_comm {first second : Event} {left right : String}
    (onLeft : first.questionId? = some left) (onRight : second.questionId? = some right)
    (different : left ≠ right) (sheet : AnswerSheet) :
    second.applyTo (first.applyTo sheet) = first.applyTo (second.applyTo sheet) := by
  ext1 id
  simp only [get?_applyTo onLeft, get?_applyTo onRight]
  by_cases atLeft : left = id
  · have : right ≠ id := fun atRight => different (atLeft.trans atRight.symm)
    simp [atLeft, this]
  · simp [atLeft]

/-- An event that happens again changes nothing. -/
theorem applyTo_applyTo (event : Event) (sheet : AnswerSheet) :
    event.applyTo (event.applyTo sheet) = event.applyTo sheet := by
  cases on : event.questionId? with
  | none =>
      obtain rfl := questionId?_eq_none_iff.1 on
      rfl
  | some questionId =>
      ext1 id
      simp only [get?_applyTo on]
      split <;> rfl

end Event

/-! ## The last answer -/

/-- The events after the last reset, the latest first. -/
def sinceReset (events : List Event) : List Event := events.reverse.takeWhile (· ≠ .reset)

/-- What a run of events leaves recorded for a question: what the last event on it after
the last reset recorded, and where no event is on it, what the sheet held before, unless
there was a reset. -/
def lastAnswer (prior : AnswerSheet) (events : List Event) (id : String) : Option Answer :=
  match (sinceReset events).find? (·.questionId? = some id) with
  | some event => event.answer?
  | none => if .reset ∈ events then none else prior.get? id

theorem lastAnswer_append_reset (prior : AnswerSheet) (events : List Event) (id : String) :
    lastAnswer prior (events ++ [.reset]) id = none := by
  simp [lastAnswer, sinceReset]

theorem lastAnswer_append {event : Event} {questionId : String}
    (on : event.questionId? = some questionId) (prior : AnswerSheet) (events : List Event)
    (id : String) :
    lastAnswer prior (events ++ [event]) id =
      if questionId = id then event.answer? else lastAnswer prior events id := by
  have notReset : event ≠ .reset := by
    rintro rfl
    simp [Event.questionId?] at on
  have since : sinceReset (events ++ [event]) = event :: sinceReset events := by
    simp [sinceReset, notReset]
  by_cases here : questionId = id
  · simp [lastAnswer, since, on, here]
  · simp [lastAnswer, since, on, here, notReset.symm]

/-- The answers at the end of a run. -/
theorem get?_foldl_applyTo (prior : AnswerSheet) (events : List Event) (id : String) :
    (events.foldl Event.applyTo prior).get? id = lastAnswer prior events id := by
  induction events using List.reverseRecOn with
  | nil => rfl
  | append_singleton events event ih =>
      rw [List.foldl_append, List.foldl_cons, List.foldl_nil]
      cases on : event.questionId? with
      | none =>
          obtain rfl := Event.questionId?_eq_none_iff.1 on
          rw [lastAnswer_append_reset]
          rfl
      | some questionId => rw [Event.get?_applyTo on, lastAnswer_append on, ih]

/-! ## Sheets in order -/

/-- Every answer of the sheet stands under its own question. -/
def Filed (sheet : AnswerSheet) : Prop :=
  ∀ id answer, sheet.get? id = some answer → answer.questionId = id

theorem filed_empty : Filed .empty := by
  intro id answer found
  simp at found

theorem Filed.applyTo {sheet : AnswerSheet} (filed : Filed sheet) (event : Event) :
    Filed (event.applyTo sheet) := by
  intro id answer found
  cases event with
  | answered questionId value subAnswers =>
      simp only [Event.applyTo, Keyed.get?_insert] at found
      split at found
      · rename_i here
        cases found
        exact here
      · exact filed id answer found
  | cleared questionId =>
      simp only [Event.applyTo, Keyed.get?_erase] at found
      split at found
      · cases found
      · exact filed id answer found
  | reset => exact filed_empty id answer found

theorem Filed.foldl {sheet : AnswerSheet} (filed : Filed sheet) (events : List Event) :
    Filed (events.foldl Event.applyTo sheet) := by
  induction events generalizing sheet with
  | nil => exact filed
  | cons event events ih => exact ih (filed.applyTo event)

/-- What an answer says, apart from the question that it names. -/
def Answer.content (answer : Answer) : AnswerValue × Option SubAnswers :=
  (answer.value, answer.subAnswers)

/-- Of two sheets in order that say the same, each record is the same. -/
theorem Filed.eq_of_content {left right : AnswerSheet} (filed : Filed left) (filed' : Filed right)
    (same : ∀ id, (left.get? id).map Answer.content = (right.get? id).map Answer.content) :
    left = right := by
  ext1 id
  have content := same id
  cases foundLeft : left.get? id with
  | none =>
      cases foundRight : right.get? id with
      | none => rfl
      | some other => simp [foundLeft, foundRight] at content
  | some answer =>
      cases foundRight : right.get? id with
      | none => simp [foundLeft, foundRight] at content
      | some other =>
          have named : answer.questionId = other.questionId :=
            (filed id answer foundLeft).trans (filed' id other foundRight).symm
          obtain ⟨_, _, _⟩ := answer
          obtain ⟨_, _, _⟩ := other
          simp_all [Answer.content]

/-- The tally reads of an answer sheet the values alone. -/
theorem Tally.ofAnswers_congr (catalog : Catalog) {left right : AnswerSheet}
    (same : ∀ id, (left.get? id).map (·.value) = (right.get? id).map (·.value)) :
    ofAnswers catalog left = ofAnswers catalog right := by
  unfold ofAnswers
  congr 1
  funext tally asked
  have := same asked.questionId
  cases foundLeft : left.get? asked.questionId <;> cases foundRight : right.get? asked.questionId <;>
    simp_all

/-! ## States -/

namespace Eligibility

variable (catalog : Catalog)

/-- A run acts on the answers alone: the state at its end is that of the answers it
leaves, whatever the state at its beginning said besides. -/
theorem foldl_reduce {events : List Event} (acted : events ≠ []) (prior : Eligibility) :
    events.foldl (reduce catalog) prior =
      ofAnswers catalog (events.foldl Event.applyTo prior.answers) := by
  induction events generalizing prior with
  | nil => exact absurd rfl acted
  | cons event events ih =>
      cases events with
      | nil => rfl
      | cons next events =>
          rw [List.foldl_cons, ih (List.cons_ne_nil next events)]
          rfl

/-- Runs that leave the same answers lead to one state, that of these answers. -/
theorem foldl_reduce_eq_of_lastAnswer {first second : Eligibility} {left right : List Event}
    (acted : left ≠ []) (acted' : right ≠ [])
    (same : ∀ id, lastAnswer first.answers left id = lastAnswer second.answers right id) :
    ∃ sheet : AnswerSheet, (∀ id, sheet.get? id = lastAnswer first.answers left id) ∧
      left.foldl (reduce catalog) first = ofAnswers catalog sheet ∧
      right.foldl (reduce catalog) second = ofAnswers catalog sheet := by
  refine ⟨left.foldl Event.applyTo first.answers, get?_foldl_applyTo _ _,
    foldl_reduce catalog acted first, ?_⟩
  have sheets : right.foldl Event.applyTo second.answers =
      left.foldl Event.applyTo first.answers := by
    ext1 id
    rw [get?_foldl_applyTo, get?_foldl_applyTo, same]
  rw [foldl_reduce catalog acted', sheets]

/-- Runs that leave answers of the same content agree on who is left and why, and on
everything where the sheets that they began with were in order. -/
theorem foldl_reduce_eq_of_content {first second : Eligibility} {left right : List Event}
    (acted : left ≠ []) (acted' : right ≠ [])
    (same : ∀ id, (lastAnswer first.answers left id).map Answer.content =
      (lastAnswer second.answers right id).map Answer.content) :
    (left.foldl (reduce catalog) first).eligible =
        (right.foldl (reduce catalog) second).eligible ∧
      (left.foldl (reduce catalog) first).eliminated =
        (right.foldl (reduce catalog) second).eliminated ∧
      (left.foldl (reduce catalog) first).preferred =
        (right.foldl (reduce catalog) second).preferred ∧
      (Filed first.answers → Filed second.answers →
        left.foldl (reduce catalog) first = right.foldl (reduce catalog) second) := by
  simp only [← get?_foldl_applyTo] at same
  have tallies : Tally.ofAnswers catalog (left.foldl Event.applyTo first.answers) =
      Tally.ofAnswers catalog (right.foldl Event.applyTo second.answers) := by
    refine Tally.ofAnswers_congr catalog fun id => ?_
    simpa [Function.comp_def, Answer.content] using congrArg (Option.map Prod.fst) (same id)
  rw [foldl_reduce catalog acted, foldl_reduce catalog acted']
  refine ⟨congrArg Tally.eligible tallies, congrArg Tally.eliminated tallies, rfl,
    fun filed filed' => ?_⟩
  rw [(filed.foldl left).eq_of_content (filed'.foldl right) same]

/-- Clearing a question that was not answered before takes its answer back. -/
theorem reduce_answered_cleared (state : Eligibility) {questionId : String}
    (unanswered : state.answers.get? questionId = none) (value : AnswerValue)
    (subAnswers : Option SubAnswers) :
    reduce catalog (reduce catalog state (.answered questionId value subAnswers))
      (.cleared questionId) = ofAnswers catalog state.answers := by
  have sheets : (state.answers.insert questionId { questionId, value, subAnswers }).erase
      questionId = state.answers := by
    ext1 id
    by_cases here : questionId = id
    · subst here
      simp [unanswered]
    · simp [here]
  simp only [reduce, Event.applyTo, ofAnswers, sheets]

/-- **History independence.**  Two runs, from any two states, lead to one state if they
leave the same record or none for each question.  (A record also names its question.  If
only what the records say is the same, then so is who is left and why, and with sheets in
order at the start everything.)  In particular an event counts once, events on different
questions can be exchanged, clearing takes an answer back, and a reset starts over. -/
theorem reduce_independent_of_history :
    (∀ (first second : Eligibility) (left right : List Event), left ≠ [] → right ≠ [] →
      (∀ id, lastAnswer first.answers left id = lastAnswer second.answers right id) →
      ∃ sheet : AnswerSheet, (∀ id, sheet.get? id = lastAnswer first.answers left id) ∧
        left.foldl (reduce catalog) first = ofAnswers catalog sheet ∧
        right.foldl (reduce catalog) second = ofAnswers catalog sheet) ∧
    (∀ (first second : Eligibility) (left right : List Event), left ≠ [] → right ≠ [] →
      (∀ id, (lastAnswer first.answers left id).map Answer.content =
        (lastAnswer second.answers right id).map Answer.content) →
      (left.foldl (reduce catalog) first).eligible =
          (right.foldl (reduce catalog) second).eligible ∧
        (left.foldl (reduce catalog) first).eliminated =
          (right.foldl (reduce catalog) second).eliminated ∧
        (left.foldl (reduce catalog) first).preferred =
          (right.foldl (reduce catalog) second).preferred ∧
        (Filed first.answers → Filed second.answers →
          left.foldl (reduce catalog) first = right.foldl (reduce catalog) second)) ∧
    (∀ state event,
      reduce catalog (reduce catalog state event) event = reduce catalog state event) ∧
    (∀ (state : Eligibility) (first second : Event) (left right : String),
      first.questionId? = some left → second.questionId? = some right → left ≠ right →
      reduce catalog (reduce catalog state first) second =
        reduce catalog (reduce catalog state second) first) ∧
    (∀ (state : Eligibility) (questionId : String) (value : AnswerValue)
      (subAnswers : Option SubAnswers), state.answers.get? questionId = none →
      reduce catalog (reduce catalog state (.answered questionId value subAnswers))
        (.cleared questionId) = ofAnswers catalog state.answers) ∧
    (∀ state, reduce catalog state .reset = initial catalog) := by
  refine ⟨?runs, ?contents, ?repeated, ?exchanged, ?takenBack, fun _ => rfl⟩
  case runs =>
    intro first second left right acted acted' same
    exact foldl_reduce_eq_of_lastAnswer catalog acted acted' same
  case contents =>
    intro first second left right acted acted' same
    exact foldl_reduce_eq_of_content catalog acted acted' same
  case repeated =>
    intro state event
    exact congrArg (ofAnswers catalog) (event.applyTo_applyTo state.answers)
  case exchanged =>
    intro state first second left right onLeft onRight different
    exact congrArg (ofAnswers catalog)
      (Event.applyTo_comm onLeft onRight different state.answers)
  case takenBack =>
    intro state questionId value subAnswers unanswered
    exact reduce_answered_cleared catalog state unanswered value subAnswers

end Eligibility

namespace Sample

def direct : List Event := [
  .answered "interests" (.multiple ["music"]) none,
  .answered "enrolled" (.single "no") none]

/-- The same answers in the end, after others and a reset. -/
def winding : List Event := [
  .answered "enrolled" (.single "no") none,
  .answered "major" (.single "law") none,
  .reset,
  .answered "enrolled" (.single "yes") none,
  .answered "interests" (.multiple ["music"]) none,
  .answered "enrolled" (.single "no") none]

/-- A state that contradicts itself. -/
def muddled : Eligibility where
  answers := .ofList [("major", { questionId := "major", value := .single "arts" })]
  eligible := ["Z", "Z"]
  eliminated := [⟨"Z", "", ""⟩]
  preferred := Keyed.empty.insert "Z" ()

theorem lastAnswer_direct_eq_winding (id : String) :
    lastAnswer (Eligibility.initial catalog).answers direct id =
      lastAnswer muddled.answers winding id := by
  by_cases enrolled : "enrolled" = id
  · subst enrolled
    rfl
  · by_cases interests : "interests" = id
    · subst interests
      rfl
    · simp [lastAnswer, sinceReset, direct, winding, Event.questionId?, enrolled, interests,
        Eligibility.initial, Eligibility.ofAnswers]

end Sample

theorem sample_independent_of_history :
    Sample.direct ≠ [] ∧ Sample.winding ≠ [] ∧
      ∃ sheet : AnswerSheet,
        (∀ id, sheet.get? id =
          lastAnswer (Eligibility.initial Sample.catalog).answers Sample.direct id) ∧
        Sample.direct.foldl (Eligibility.reduce Sample.catalog)
            (Eligibility.initial Sample.catalog) = .ofAnswers Sample.catalog sheet ∧
        Sample.winding.foldl (Eligibility.reduce Sample.catalog) Sample.muddled =
          .ofAnswers Sample.catalog sheet :=
  ⟨by decide, by decide,
    (Eligibility.reduce_independent_of_history Sample.catalog).1 _ _ _ _ (by decide) (by decide)
      Sample.lastAnswer_direct_eq_winding⟩

end Screening
