/-
# Screening.Eligibility -- what the answers leave

The state of a screening is its answer sheet and what follows from it: who is still
eligible, the log of eliminations, and the preferred scholarships.  Nothing is
carried from one state to the next but the answers; after every event the rules are
applied anew to the whole registry, so the state tells nothing of how it was
reached.
-/
import Screening.Catalog
import Screening.Tally

namespace Screening

set_option autoImplicit false

structure Eligibility where
  answers : AnswerSheet
  eligible : List String
  eliminated : List Elimination
  preferred : Keyed Unit
  deriving DecidableEq, Repr

inductive Event where
  | answered (questionId : String) (value : AnswerValue) (subAnswers : Option SubAnswers)
  | cleared (questionId : String)
  | reset
  deriving DecidableEq, Repr

namespace Event

/-- What the event makes of an answer sheet. -/
def applyTo (answers : AnswerSheet) : Event → AnswerSheet
  | .answered questionId value subAnswers =>
      answers.insert questionId { questionId, value, subAnswers }
  | .cleared questionId => answers.erase questionId
  | .reset => .empty

end Event

namespace Tally

/-- The tally before any rule is applied. -/
def allEligible (ids : List String) : Tally := { eligible := ids }

/-- The tally that an answer sheet gives: the rules of every answered question, in the
order of the catalog. -/
def ofAnswers (catalog : Catalog) (answers : AnswerSheet) : Tally :=
  (catalog.questions.filter (·.hasRules)).foldl
    (fun tally asked =>
      match answers.get? asked.questionId with
      | none => tally
      | some answer => tally.apply asked.rules asked.questionId answer.value)
    (allEligible catalog.scholarshipIds)

end Tally

namespace Eligibility

def ofAnswers (catalog : Catalog) (answers : AnswerSheet) : Eligibility :=
  let tally := Tally.ofAnswers catalog answers
  { answers, eligible := tally.eligible, eliminated := tally.eliminated, preferred := .empty }

def initial (catalog : Catalog) : Eligibility := ofAnswers catalog .empty

/-- The state after an event. -/
def reduce (catalog : Catalog) (state : Eligibility) (event : Event) : Eligibility :=
  ofAnswers catalog (event.applyTo state.answers)

def isEligible (state : Eligibility) (scholarshipId : String) : Bool :=
  state.eligible.contains scholarshipId

def elimination? (state : Eligibility) (scholarshipId : String) : Option Elimination :=
  state.eliminated.find? fun entry => entry.scholarshipId = scholarshipId

end Eligibility

end Screening
