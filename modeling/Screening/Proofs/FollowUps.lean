/-
# Screening.Proofs.FollowUps -- which follow-up questions an answer reveals

A follow-up names the option that reveals it by its id, and an answer has the value of an option.
So a follow-up is due under an answer if some option has the id that it names and the value
answered with (`Question.Reveals`).  A run goes the other way: it looks for the first option with
the value, and shows the follow-ups that name the id of that one.

The options of a question may share a value or an id, as loading does not look at options.  Then an
option behind another one of its value is never found, and what only its id reveals is not shown:
the follow-up is shadowed.  That is all that goes wrong.  A run shows, in their order, the follow-ups
that are due less those that are shadowed, and a question whose follow-ups no option can shadow
shows exactly what is due, after whatever answers.

* `Question.shownBy_eq`: what is found by the first option, against what is due;
* `Question.unshadowed_of_values_nodup`: options of different values shadow nothing;
* `follow_ups_shown_unless_shadowed`: what a run shows, and when it is all that is due;
* `follow_up_hidden_by_equal_value`: a follow-up that is due and not shown.
-/
import Screening.Proofs.Acceptance
import Screening.Run

namespace Screening

set_option autoImplicit false

namespace Question

/-! ## One answer -/

variable (question : Question)

/-- An option of the question has the id that the follow-up names, and the value answered with. -/
def Reveals (value : AnswerValue) (followUp : FollowUp) : Prop :=
  ∃ option ∈ question.options,
    option.optionId = followUp.triggeredBy ∧ value = .single option.value

instance (value : AnswerValue) (followUp : FollowUp) :
    Decidable (question.Reveals value followUp) :=
  inferInstanceAs (Decidable (∃ option ∈ question.options,
    option.optionId = followUp.triggeredBy ∧ value = .single option.value))

/-- The first option with the value answered with has another id than the follow-up names. -/
def Shadows (value : AnswerValue) (followUp : FollowUp) : Prop :=
  ∃ text ∈ value.single?, ∃ first ∈ question.optionByValue? text,
    first.optionId ≠ followUp.triggeredBy

instance (value : AnswerValue) (followUp : FollowUp) :
    Decidable (question.Shadows value followUp) :=
  inferInstanceAs (Decidable (∃ text ∈ value.single?, ∃ first ∈ question.optionByValue? text,
    first.optionId ≠ followUp.triggeredBy))

/-- No follow-up is shadowed under an answer that reveals it. -/
def Unshadowed : Prop :=
  ∀ followUp ∈ question.followUps, ∀ option ∈ question.options,
    option.optionId = followUp.triggeredBy → ¬ question.Shadows (.single option.value) followUp

instance : Decidable question.Unshadowed :=
  inferInstanceAs (Decidable (∀ followUp ∈ question.followUps, ∀ option ∈ question.options,
    option.optionId = followUp.triggeredBy → ¬ question.Shadows (.single option.value) followUp))

/-- The follow-ups that are due under an answer. -/
def dueUnder (value : AnswerValue) : List FollowUp :=
  question.followUps.filter fun followUp => question.Reveals value followUp

/-- The follow-ups of the first option with the value answered with. -/
def shownBy (value : AnswerValue) : List FollowUp :=
  match value.single?.bind question.optionByValue? with
  | none => []
  | some first => question.followUps.filter fun followUp => followUp.triggeredBy = first.optionId

variable {question} {value : AnswerValue} {followUp : FollowUp}

/-- An answer that is a list has the value of no option. -/
theorem dueUnder_multiple (question : Question) (texts : List String) :
    question.dueUnder (.multiple texts) = [] := by
  simp [dueUnder, Reveals]

theorem optionByValue?_eq_none_iff {text : String} :
    question.optionByValue? text = none ↔ ∀ option ∈ question.options, option.value ≠ text := by
  simp [optionByValue?]

/-- What is found by a value is an option with the value. -/
theorem of_optionByValue?_eq_some {text : String} {first : QuestionOption}
    (found : question.optionByValue? text = some first) :
    first ∈ question.options ∧ first.value = text :=
  ⟨List.mem_of_find?_eq_some found, by simpa using List.find?_some found⟩

/-- The first option with the value has the id that the follow-up names exactly if the follow-up
is due and not shadowed. -/
theorem reveals_and_not_shadows_iff {text : String} {first : QuestionOption}
    (found : question.optionByValue? text = some first) :
    question.Reveals (.single text) followUp ∧ ¬ question.Shadows (.single text) followUp ↔
      followUp.triggeredBy = first.optionId := by
  obtain ⟨member, valued⟩ := of_optionByValue?_eq_some found
  constructor
  · rintro ⟨-, clear⟩
    by_contra other
    exact clear ⟨text, rfl, first, found, Ne.symm other⟩
  · intro named
    refine ⟨⟨first, member, named.symm, by rw [valued]⟩, ?_⟩
    rintro ⟨_, ⟨⟩, _, found', other⟩
    obtain rfl : first = _ := Option.some.inj (found.symm.trans found')
    exact other named.symm

/-- What the first option reveals is what is due, less what it shadows. -/
theorem shownBy_eq (question : Question) (value : AnswerValue) :
    question.shownBy value =
      (question.dueUnder value).filter fun followUp => ¬ question.Shadows value followUp := by
  cases value with
  | multiple texts =>
      rw [dueUnder_multiple]
      rfl
  | single text =>
      rw [dueUnder, List.filter_filter]
      simp only [shownBy, AnswerValue.single?, Option.bind_some]
      cases found : question.optionByValue? text with
      | none =>
          have absent := optionByValue?_eq_none_iff.1 found
          refine (List.filter_eq_nil_iff.2 fun followUp _ => ?_).symm
          rw [Bool.and_eq_true, decide_eq_true_iff, decide_eq_true_iff]
          rintro ⟨-, option, member, -, same⟩
          exact absent option member (AnswerValue.single.inj same).symm
      | some first =>
          refine List.filter_congr fun followUp _ => ?_
          rw [Bool.eq_iff_iff, Bool.and_eq_true, decide_eq_true_iff, decide_eq_true_iff,
            decide_eq_true_iff, And.comm, reveals_and_not_shadows_iff found]

/-- Where no option can shadow a follow-up, all that is due is shown. -/
theorem Unshadowed.shownBy_eq (clear : question.Unshadowed) (value : AnswerValue) :
    question.shownBy value = question.dueUnder value := by
  rw [Question.shownBy_eq, List.filter_eq_self]
  intro followUp due
  obtain ⟨member, revealed⟩ := List.mem_filter.1 due
  obtain ⟨option, offered, named, rfl⟩ := of_decide_eq_true revealed
  exact decide_eq_true (clear followUp member option offered named)

/-- Otherwise there is an answer under which something is due and not shown. -/
theorem exists_due_not_shown (shadowed : ¬ question.Unshadowed) :
    ∃ text, ∃ followUp ∈ question.dueUnder (.single text),
      followUp ∉ question.shownBy (.single text) := by
  simp only [Unshadowed, not_forall, not_not] at shadowed
  obtain ⟨followUp, member, option, offered, named, hides⟩ := shadowed
  refine ⟨option.value, followUp, ?due, ?hidden⟩
  case due => exact List.mem_filter.2 ⟨member, decide_eq_true ⟨option, offered, named, rfl⟩⟩
  case hidden =>
    rw [shownBy_eq]
    intro shown
    exact of_decide_eq_true (List.mem_filter.1 shown).2 hides

/-- Options of different values shadow nothing. -/
theorem unshadowed_of_values_nodup (distinct : (question.options.map (·.value)).Nodup) :
    question.Unshadowed := by
  rintro followUp - option offered named ⟨_, ⟨⟩, first, found, other⟩
  have itself : question.optionByValue? option.value = some option :=
    (find?_key_eq_some_iff distinct).2 ⟨offered, rfl⟩
  obtain rfl : option = first := Option.some.inj (itself.symm.trans found)
  exact other named

end Question

namespace Run

/-! ## A run -/

/-- The follow-ups that are due under the current answer to the question. -/
def due (run : Run) (question : Question) : List FollowUp :=
  ((run.answers.get? question.questionId).map (·.value)).elim [] question.dueUnder

variable {run : Run}

/-- A run shows what the first option with the value answered with reveals. -/
theorem triggered_of_question? {id : String} {asked : ReadQuestion}
    (found : run.catalog.question? id = some asked) :
    run.triggered id = ((run.answers.get? id).map (·.value)).elim [] asked.question.shownBy := by
  rw [triggered, found]
  cases run.answers.get? id with
  | none => rfl
  | some answer => cases answer.value <;> rfl

/-- Without an answer that is one text, nothing is shown. -/
theorem triggered_of_not_single {id : String}
    (unanswered : ∀ text, (run.answers.get? id).map (·.value) ≠ some (.single text)) :
    run.triggered id = [] := by
  cases found : run.catalog.question? id with
  | none => rw [triggered, found]
  | some asked =>
      rw [triggered_of_question? found]
      cases answered : (run.answers.get? id).map (·.value) with
      | none => rfl
      | some value =>
          cases value with
          | single text => exact absurd answered (unanswered text)
          | multiple texts => rfl

theorem get?_after_answered (run : Run) (questionId : String) (value : AnswerValue)
    (subAnswers : Option SubAnswers) :
    ((run.after (.answered questionId value subAnswers)).answers.get? questionId).map (·.value) =
      some value := by
  show ((run.answers.insert questionId _).get? questionId).map (·.value) = some value
  rw [Keyed.get?_insert, if_pos rfl]
  rfl

/-- What is due once the question was answered. -/
theorem due_after_answered (run : Run) (question : Question) (value : AnswerValue)
    (subAnswers : Option SubAnswers) :
    (run.after (.answered question.questionId value subAnswers)).due question =
      question.dueUnder value := by
  rw [due, get?_after_answered]
  rfl

/-- What is shown once the question was answered. -/
theorem triggered_after_answered {id : String} {asked : ReadQuestion}
    (found : run.catalog.question? id = some asked) (value : AnswerValue)
    (subAnswers : Option SubAnswers) :
    (run.after (.answered id value subAnswers)).triggered id = asked.question.shownBy value := by
  have still : (run.after (.answered id value subAnswers)).catalog.question? id = some asked := found
  rw [triggered_of_question? still, get?_after_answered]
  rfl

end Run

namespace Catalog

variable {document : Questionnaire} {catalog : Catalog}
  (accepted : ofQuestionnaire document = .ok catalog)

include accepted

theorem mem_questions_iff {asked : ReadQuestion} :
    asked ∈ catalog.questions ↔ ∃ tier ∈ document.tiers, ∃ question ∈ tier.questions,
      asked = .ofQuestion tier.tierId question := by
  simp only [questions_eq accepted, Questionnaire.questionsInOrder, List.mem_map,
    List.mem_flatMap, Tier.mem_inOrder]
  constructor
  · rintro ⟨_, ⟨tier, listed, question, member, rfl⟩, rfl⟩
    exact ⟨tier, listed, question, member, rfl⟩
  · rintro ⟨tier, listed, question, member, rfl⟩
    exact ⟨_, ⟨tier, listed, question, member, rfl⟩, rfl⟩

/-- A question of the document is found by its id. -/
theorem question?_of_mem {tier : Tier} (listed : tier ∈ document.tiers) {question : Question}
    (member : question ∈ tier.questions) :
    catalog.question? question.questionId = some (.ofQuestion tier.tierId question) :=
  (question?_eq_some_iff accepted).2
    ⟨(mem_questions_iff accepted).2 ⟨tier, listed, question, member, rfl⟩, rfl⟩

/-- Nothing is found by an id that no question of the document has. -/
theorem question?_eq_none {id : String}
    (unknown : ∀ tier ∈ document.tiers, ∀ question ∈ tier.questions, question.questionId ≠ id) :
    catalog.question? id = none := by
  refine Option.eq_none_iff_forall_ne_some.2 fun asked found => ?_
  obtain ⟨member, named⟩ := (question?_eq_some_iff accepted).1 found
  obtain ⟨tier, listed, question, inTier, rfl⟩ := (mem_questions_iff accepted).1 member
  exact unknown tier listed question inTier named

end Catalog

/-- **Follow-ups are shown unless they are shadowed.**  In every state of a run, a question of the
document shows the follow-ups that are due under its current answer, in their order, less those
that name another option than the first one with the value answered with.  It shows none where the
answer is missing or a list, and neither does an id that no question has.  If no option of a
question can shadow a follow-up, the question shows all that is due in every state; otherwise there
is an answer to it after which, in whatever state it was given, something due is not shown. -/
theorem follow_ups_shown_unless_shadowed {document : Questionnaire} {catalog : Catalog}
    (accepted : Catalog.ofQuestionnaire document = .ok catalog) :
    (∀ run : Run, run.catalog = catalog → ∀ id,
      ((∀ tier ∈ document.tiers, ∀ question ∈ tier.questions, question.questionId ≠ id) ∨
        ∀ text, (run.answers.get? id).map (·.value) ≠ some (.single text)) →
      run.triggered id = []) ∧
    ∀ tier ∈ document.tiers, ∀ question ∈ tier.questions,
      (∀ run : Run, run.catalog = catalog → ∀ answer,
        run.answers.get? question.questionId = some answer →
          run.triggered question.questionId =
            (run.due question).filter fun followUp => ¬ question.Shadows answer.value followUp) ∧
      (question.Unshadowed → ∀ run : Run, run.catalog = catalog →
        run.triggered question.questionId = run.due question) ∧
      (¬ question.Unshadowed → ∃ text followUp, ∀ run : Run, run.catalog = catalog →
        let next := run.after (.answered question.questionId (.single text) none)
        followUp ∈ next.due question ∧ followUp ∉ next.triggered question.questionId) := by
  refine ⟨?nothing, fun tier listed question member => ?shown⟩
  case nothing =>
    rintro run rfl id (unknown | unanswered)
    · rw [Run.triggered, Catalog.question?_eq_none accepted unknown]
    · exact Run.triggered_of_not_single unanswered
  have found := Catalog.question?_of_mem accepted listed member
  refine ⟨?less, ?all, ?missed⟩
  case less =>
    rintro run rfl answer answered
    rw [Run.triggered_of_question? found, Run.due, answered]
    exact question.shownBy_eq answer.value
  case all =>
    rintro clear run rfl
    rw [Run.triggered_of_question? found, Run.due]
    cases run.answers.get? question.questionId with
    | none => rfl
    | some answer => exact clear.shownBy_eq answer.value
  case missed =>
    intro shadowed
    obtain ⟨text, followUp, due, hidden⟩ := Question.exists_due_not_shown shadowed
    refine ⟨text, followUp, ?_⟩
    rintro run rfl next
    rw [Run.due_after_answered, Run.triggered_after_answered found]
    exact ⟨due, hidden⟩

namespace Sample

/-- A question whose second option shares its value with the first one. -/
def residence : Question where
  questionId := "residence"
  questionType := .singleChoice
  options := [
    { optionId := "city", value := "here" },
    { optionId := "county", value := "here" },
    { optionId := "abroad", value := "elsewhere" }]
  followUps := [
    { triggeredBy := "abroad", subQuestionId := "country", questionType := .freeText },
    { triggeredBy := "county", subQuestionId := "village", questionType := .freeText },
    { triggeredBy := "city", subQuestionId := "district", questionType := .freeText }]

def housed : Questionnaire where
  scholarships := []
  tiers := [{ tierId := "home", tierOrder := 1, questions := [residence] }]

def housedCatalog : Catalog where
  metadata := {}
  processingInstructions := none
  scholarships := []
  tiers := (Tier.inOrder housed.tiers).map .ofTier

theorem inOrder_housed : Tier.inOrder housed.tiers = housed.tiers := by
  simp [Tier.inOrder, housed]

theorem accepted_housed : Catalog.ofQuestionnaire housed = .ok housedCatalog :=
  Catalog.ofQuestionnaire_of_inOrder inOrder_housed (by decide)

theorem question?_residence :
    housedCatalog.question? residence.questionId = some (.ofQuestion "home" residence) :=
  Catalog.question?_of_mem accepted_housed List.mem_cons_self List.mem_cons_self

/-- A run that has the value of two options for its answer. -/
def settled : Run :=
  (Run.start housedCatalog).after (.answered residence.questionId (.single "here") none)

end Sample

/-- The village is asked for only where the first option of the value is the county. -/
theorem sample_follow_ups_shown_unless_shadowed :
    Catalog.ofQuestionnaire Sample.housed = .ok Sample.housedCatalog ∧
      ¬ Sample.residence.Unshadowed ∧
      (Sample.settled.due Sample.residence).map (·.subQuestionId) = ["village", "district"] ∧
      (Sample.settled.triggered Sample.residence.questionId).map (·.subQuestionId) =
        ["district"] ∧
      Sample.settled.triggered "unasked" = [] := by
  obtain ⟨nothing, shown⟩ := follow_ups_shown_unless_shadowed Sample.accepted_housed
  obtain ⟨less, -, -⟩ := shown _ List.mem_cons_self Sample.residence List.mem_cons_self
  have due : Sample.settled.due Sample.residence = Sample.residence.dueUnder (.single "here") :=
    Run.due_after_answered _ _ _ _
  refine ⟨Sample.accepted_housed, by decide, ?due, ?shown, ?unknown⟩
  case due =>
    rw [due]
    decide
  case shown =>
    rw [less Sample.settled rfl { questionId := "residence", value := .single "here" } rfl, due]
    decide
  case unknown => exact nothing Sample.settled rfl "unasked" (.inl (by decide))

/-- **A follow-up can stay hidden.**  It is not so that every question of a document shows, in
every state, all follow-ups that are due. -/
theorem follow_up_hidden_by_equal_value :
    ¬ ∀ (document : Questionnaire) (catalog : Catalog),
      Catalog.ofQuestionnaire document = .ok catalog →
        ∀ tier ∈ document.tiers, ∀ question ∈ tier.questions,
          ∀ run : Run, run.catalog = catalog →
            run.triggered question.questionId = run.due question := by
  intro exact
  have same : Sample.settled.triggered Sample.residence.questionId =
      Sample.settled.due Sample.residence :=
    exact _ _ Sample.accepted_housed _ List.mem_cons_self _ List.mem_cons_self _ rfl
  rw [Sample.settled, Run.due_after_answered,
    Run.triggered_after_answered Sample.question?_residence] at same
  exact absurd same (by decide)

end Screening
