/-
# Screening.Proofs.Dependencies -- what a display expression reads

An expression names the questions whose answers it depends on, by a list that is made apart
from its evaluation.  The list leaves nothing out: two answer sheets that agree on these
questions show the same, and they agree where both hold the same value or neither holds an
answer (`Agree`).  What an expression takes an unanswered question for differs from form to
form, but every form takes it for something that is settled by the question being unanswered.

A run shows what its sheet shows.  An event on a question changes the sheet at that question
alone, so of the questions that a tier lists, those that do not depend on it stay, in their
order, and no such question comes to them.

* `Visibility.isVisible_eq_of_agree`: sheets that agree on the dependencies show the same;
* `Run.filter_visibleIn_of_agree`: runs that agree on some questions list the same, up to
  what depends on the others;
* `Run.foldl_after_frame`: events leave a run as it was on every question they are not on;
* `visibility_reads_dependencies`: all this of every expression and of every run.
-/
import Screening.Proofs.History
import Screening.Run

namespace Screening

set_option autoImplicit false

/-! ## Sheets that agree -/

/-- Both sheets hold the same value for a question, or neither has an answer to it. -/
inductive Agree (left right : AnswerSheet) (id : String) : Prop where
  | absent (onLeft : left.get? id = none) (onRight : right.get? id = none)
  | held {answer answer' : Answer} (onLeft : left.get? id = some answer)
      (onRight : right.get? id = some answer') (same : answer.value = answer'.value)

theorem Agree.of_get?_eq {left right : AnswerSheet} {id : String}
    (same : left.get? id = right.get? id) : Agree left right id := by
  cases found : right.get? id with
  | none => exact .absent (same.trans found) found
  | some answer => exact .held (same.trans found) found rfl

/-- An answer put into both sheets is told apart by its value only. -/
theorem Agree.insert {left right : AnswerSheet} {id : String} (agree : Agree left right id)
    (question : String) {answer answer' : Answer} (same : answer.value = answer'.value) :
    Agree (left.insert question answer) (right.insert question answer') id := by
  by_cases here : question = id
  · exact .held (by rw [Keyed.get?_insert, if_pos here]) (by rw [Keyed.get?_insert, if_pos here])
      same
  · cases agree with
    | absent onLeft onRight => exact .absent (by simpa [here]) (by simpa [here])
    | held onLeft onRight same' => exact .held (by simpa [here]) (by simpa [here]) same'

/-! ## Expressions -/

/-- A clause reads the value for its own question, in a conjunction and in a disjunction. -/
theorem Clause.holds_congr {clause : Clause} {answers answers' : AnswerSheet}
    (agree : Agree answers answers' clause.questionId) :
    clause.holdsInConjunction answers = clause.holdsInConjunction answers' ∧
      clause.holdsInDisjunction answers = clause.holdsInDisjunction answers' := by
  cases agree with
  | absent left right =>
      simp only [holdsInConjunction, holdsInDisjunction, left, right, and_self]
  | held left right same =>
      simp only [holdsInConjunction, holdsInDisjunction, left, right, same, and_self]

namespace Visibility

/-- A clause that was read names a dependency. -/
theorem mem_dependencies {clauses : List (Option Clause)} {clause : Clause}
    (member : some clause ∈ clauses) :
    clause.questionId ∈ clauses.filterMap fun clause => clause.map (·.questionId) :=
  List.mem_filterMap.2 ⟨some clause, member, rfl⟩

/-- Sheets that agree on the dependencies of an expression show the same. -/
theorem isVisible_eq_of_agree (expression : Visibility) {answers answers' : AnswerSheet}
    (agree : ∀ id ∈ expression.dependencies, Agree answers answers' id) :
    expression.isVisible answers = expression.isVisible answers' := by
  cases expression with
  | always | unrecognized => rfl
  | equals id expected | notEquals id expected | includes id value | nonEmpty id =>
      cases agree id List.mem_cons_self with
      | absent left right => simp only [isVisible, left, right]
      | held left right same => simp only [isVisible, left, right, same, Option.bind_some]
  | allOf clauses =>
      rw [isVisible, isVisible, Bool.eq_iff_iff, List.all_eq_true, List.all_eq_true]
      refine forall₂_congr fun clause member => ?_
      cases clause with
      | none => rfl
      | some clause =>
          have same := Clause.holds_congr (agree clause.questionId (mem_dependencies member))
          simp only [same.1]
  | anyOf clauses =>
      rw [isVisible, isVisible, Bool.eq_iff_iff, List.any_eq_true, List.any_eq_true]
      refine exists_congr fun clause => and_congr_right fun member => ?_
      cases clause with
      | none => rfl
      | some clause =>
          have same := Clause.holds_congr (agree clause.questionId (mem_dependencies member))
          simp only [same.2]

end Visibility

/-! ## Runs -/

/-- Whether the question depends on none of these. -/
def ReadQuestion.independentOf (asked : ReadQuestion) (questions : List String) : Bool :=
  asked.visibility.dependencies.all fun id => !questions.contains id

theorem ReadQuestion.independentOf_iff {asked : ReadQuestion} {questions : List String} :
    asked.independentOf questions ↔ ∀ id ∈ asked.visibility.dependencies, id ∉ questions := by
  simp [independentOf]

/-- The questions that events are on. -/
def touched (events : List Event) : List String := events.filterMap Event.questionId?

namespace Run

variable {run run' : Run}

/-- Runs that agree on everything outside some questions list the same questions of a tier, up
to those that depend on one of these. -/
theorem filter_visibleIn_of_agree {questions : List String}
    (agree : ∀ id, id ∉ questions → Agree run'.answers run.answers id)
    (asks : run'.catalog = run.catalog) (tierId : String) :
    (run'.visibleIn tierId).filter (·.independentOf questions) =
      (run.visibleIn tierId).filter (·.independentOf questions) := by
  rw [visibleIn, visibleIn, asks]
  cases run.catalog.tier? tierId with
  | none => rfl
  | some tier =>
      simp only [List.filter_filter]
      refine List.filter_congr fun asked _ => ?_
      by_cases independent : asked.independentOf questions
      · have apart := ReadQuestion.independentOf_iff.1 independent
        have same : run'.isVisible asked = run.isVisible asked :=
          asked.visibility.isVisible_eq_of_agree fun id depends => agree id (apart id depends)
        rw [same]
      · simp only [independent, Bool.false_and]

/-- Runs that agree on every question list the same. -/
theorem visibleIn_of_agree (agree : ∀ id, Agree run'.answers run.answers id)
    (asks : run'.catalog = run.catalog) (tierId : String) :
    run'.visibleIn tierId = run.visibleIn tierId := by
  have whole (asked : ReadQuestion) : asked.independentOf [] = true := by
    simp [ReadQuestion.independentOf]
  have filtered := filter_visibleIn_of_agree (fun id (_ : id ∉ []) => agree id) asks tierId
  simpa only [whole, List.filter_true] using filtered

/-- Events leave the catalog as it was, and the answers to all questions that they are not on. -/
theorem foldl_after_frame (run : Run) {events : List Event} (kept : .reset ∉ events) :
    (events.foldl after run).catalog = run.catalog ∧
      ∀ id, id ∉ touched events →
        (events.foldl after run).answers.get? id = run.answers.get? id := by
  induction events generalizing run with
  | nil => exact ⟨rfl, fun _ _ => rfl⟩
  | cons event events ih =>
      rw [List.mem_cons, not_or] at kept
      obtain ⟨question, on⟩ := Option.ne_none_iff_exists'.1
        (mt Event.questionId?_eq_none_iff.1 (Ne.symm kept.1))
      obtain ⟨asks, unchanged⟩ := ih (run.after event) kept.2
      refine ⟨asks, fun id apart => ?_⟩
      rw [touched, List.filterMap_cons_some on, List.mem_cons, not_or] at apart
      have here : (run.after event).answers.get? id = run.answers.get? id := by
        show (event.applyTo run.answers).get? id = run.answers.get? id
        rw [Event.get?_applyTo on, if_neg (Ne.symm apart.1)]
      exact (unchanged id apart.2).trans here

/-- So what they list is what was listed, up to questions that depend on one they are on. -/
theorem filter_visibleIn_foldl_after (run : Run) {events : List Event} (kept : .reset ∉ events)
    (tierId : String) :
    ((events.foldl after run).visibleIn tierId).filter (·.independentOf (touched events)) =
      (run.visibleIn tierId).filter (·.independentOf (touched events)) := by
  obtain ⟨asks, unchanged⟩ := run.foldl_after_frame kept
  exact filter_visibleIn_of_agree (fun id apart => .of_get?_eq (unchanged id apart)) asks tierId

/-- A question that is listed on one side of an event on a question, and not on the other,
depends on it. -/
theorem depends_of_listed (run : Run) {event : Event} {question tierId : String}
    (on : event.questionId? = some question) {asked : ReadQuestion}
    (changed : ¬ (asked ∈ (run.after event).visibleIn tierId ↔ asked ∈ run.visibleIn tierId)) :
    question ∈ asked.visibility.dependencies := by
  by_contra apart
  have kept : .reset ∉ [event] := by
    rw [List.mem_singleton]
    rintro rfl
    cases on
  have only : touched [event] = [question] := by simp [touched, on]
  have independent : asked.independentOf (touched [event]) := by
    rw [only, ReadQuestion.independentOf_iff]
    intro id depends same
    exact apart (List.mem_singleton.1 same ▸ depends)
  have listed := congrArg (asked ∈ ·) (run.filter_visibleIn_foldl_after kept tierId)
  simp only [List.mem_filter, independent, and_true] at listed
  exact changed (iff_of_eq listed)

end Run

/-- **Visibility reads its dependencies only.**  Sheets that hold the same values for the
dependencies of an expression, or no answer, show the same, whatever else they hold; so the
follow-up answers that come with a value make no difference.  An event on a question brings or
takes, in the list of any tier, only questions that depend on it, and what any events without a
reset leave of a list is in its old order, but for questions that depend on one they are on. -/
theorem visibility_reads_dependencies :
    (∀ (expression : Visibility) (answers answers' : AnswerSheet),
      (∀ id ∈ expression.dependencies, Agree answers answers' id) →
        expression.isVisible answers = expression.isVisible answers') ∧
    (∀ (run : Run) (question : String) (value : AnswerValue)
      (subAnswers subAnswers' : Option SubAnswers) (tierId : String),
        (run.after (.answered question value subAnswers)).visibleIn tierId =
          (run.after (.answered question value subAnswers')).visibleIn tierId) ∧
    (∀ (run : Run) (event : Event) (question : String), event.questionId? = some question →
      ∀ tierId asked,
        ¬ (asked ∈ (run.after event).visibleIn tierId ↔ asked ∈ run.visibleIn tierId) →
          question ∈ asked.visibility.dependencies) ∧
    ∀ (run : Run) (events : List Event), .reset ∉ events → ∀ tierId,
      ((events.foldl Run.after run).visibleIn tierId).filter (·.independentOf (touched events)) =
        (run.visibleIn tierId).filter (·.independentOf (touched events)) := by
  refine ⟨fun expression _ _ => expression.isVisible_eq_of_agree, ?followUps,
    fun run _ _ on _ _ => run.depends_of_listed on,
    fun run _ kept => run.filter_visibleIn_foldl_after kept⟩
  case followUps =>
    intro run question value subAnswers subAnswers' tierId
    have agree (id : String) : Agree (run.after (.answered question value subAnswers)).answers
        (run.after (.answered question value subAnswers')).answers id :=
      (Agree.of_get?_eq rfl).insert question rfl
    exact Run.visibleIn_of_agree agree rfl tierId

namespace Sample

/-- A conjunction with a clause that was not read. -/
def eligibleVisitor : Visibility :=
  .allOf [some ⟨"enrolled", .equal, "yes"⟩, none, some ⟨"visitor", .different, "no"⟩]

/-- The same values for the questions of the conjunction, and different answers. -/
def briefly : AnswerSheet := .ofList [("enrolled", { questionId := "enrolled", value := .single "yes" })]

def atLength : AnswerSheet := .ofList [
  ("enrolled", {
    questionId := "enrolled", value := .single "yes"
    subAnswers := some (.ofList [("since", .single "May")]) }),
  ("hobby", { questionId := "hobby", value := .single "chess" })]

theorem briefly_agrees : ∀ id ∈ eligibleVisitor.dependencies, Agree briefly atLength id := by
  intro id depends
  have either : id = "enrolled" ∨ id = "visitor" := by
    simpa [Visibility.dependencies, eligibleVisitor] using depends
  rcases either with rfl | rfl
  · exact .held rfl rfl rfl
  · exact .absent rfl rfl

/-- Asked of those who are enrolled. -/
def field : Question where
  questionId := "field"
  questionType := .freeText
  conditionalDisplay := some ⟨"enrolled.value == \x27yes\x27"⟩

def linked : Run := .start {
  metadata := {}
  processingInstructions := none
  scholarships := []
  tiers := [.ofTier {
    tierId := "early"
    tierOrder := 1
    questions := [{ questionId := "enrolled", questionType := .singleChoice }, field] }] }

def enrols : Event := .answered "enrolled" (.single "yes") none

theorem field_not_listed : .ofQuestion "early" field ∉ linked.visibleIn "early" := by
  intro listed
  have visible : linked.isVisible (.ofQuestion "early" field) := (List.mem_filter.1 listed).2
  revert visible
  decide +kernel

theorem field_listed : .ofQuestion "early" field ∈ (linked.after enrols).visibleIn "early" := by
  refine List.mem_filter.2 ⟨?_, ?_⟩
  · exact List.mem_cons_of_mem _ List.mem_cons_self
  · decide +kernel

end Sample

/-- A conjunction under two sheets, and a question that an answer brings into its tier. -/
theorem sample_visibility_reads_dependencies :
    Sample.eligibleVisitor.dependencies = ["enrolled", "visitor"] ∧
      Sample.eligibleVisitor.isVisible Sample.briefly =
        Sample.eligibleVisitor.isVisible Sample.atLength ∧
      Sample.enrols.questionId? = some "enrolled" ∧
      "enrolled" ∈ (ReadQuestion.ofQuestion "early" Sample.field).visibility.dependencies ∧
      ((([Sample.enrols, .cleared "hobby"].foldl Run.after Sample.linked).visibleIn "early").filter
        (·.independentOf ["enrolled", "hobby"])) =
          (Sample.linked.visibleIn "early").filter (·.independentOf ["enrolled", "hobby"]) := by
  obtain ⟨reads, -, listed, kept⟩ := visibility_reads_dependencies
  refine ⟨rfl, reads _ _ _ Sample.briefly_agrees, rfl, ?_, ?_⟩
  · refine listed Sample.linked Sample.enrols "enrolled" rfl "early" _ fun same => ?_
    exact Sample.field_not_listed (same.1 Sample.field_listed)
  · exact kept Sample.linked [Sample.enrols, .cleared "hobby"] (by decide) "early"

end Screening
