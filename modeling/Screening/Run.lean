/-
# Screening.Run -- one applicant's way through a questionnaire

A run is a catalog and the state that the answers so far have led to.  It knows
which questions are shown, how far the applicant has come, which follow-up questions
an answer reveals, and whether the run can be completed.  Answers to questions that
are hidden, or that the catalog does not have, are kept and handed off all the same,
but do not count as progress.

* `canComplete_iff`: a run can be completed exactly when somebody is left to apply to
  and a shown question is answered;
* `complete_eligible`: what is handed off is who is eligible.
-/
import Screening.Eligibility

namespace Screening

set_option autoImplicit false

/-- How many of the shown questions are answered. -/
structure Progress where
  answered : Nat
  total : Nat
  deriving DecidableEq, Repr

namespace Progress

def isComplete (progress : Progress) : Bool := progress.answered = progress.total

/-- The answered share in percent, and 0 where no question is shown. -/
def percent (progress : Progress) : Binary64 :=
  let share := do
    let answered ← Binary64.ofNat? progress.answered
    let total ← Binary64.ofNat? progress.total
    let quotient ← answered.div? total
    quotient.mul? (← Binary64.ofNat? 100)
  share.getD {}

end Progress

/-- Why a run cannot be completed. -/
inductive Incompletion where
  | nothingEligible
  | noAnswers
  deriving DecidableEq, Repr

def Incompletion.message : Incompletion → String
  | .nothingEligible => "every scholarship has been eliminated"
  | .noAnswers => "no questions have been answered"

/-- What a completed run passes on. -/
structure Handoff where
  eligible : List String
  answers : Keyed AnswerValue
  deriving DecidableEq, Repr

structure Run where
  catalog : Catalog
  state : Eligibility

namespace Run

/-- A run with every scholarship eligible and no answers. -/
def start (catalog : Catalog) : Run := ⟨catalog, .initial catalog⟩

def after (run : Run) (event : Event) : Run :=
  { run with state := run.state.reduce run.catalog event }

def answers (run : Run) : AnswerSheet := run.state.answers

def isAnswered (run : Run) (asked : ReadQuestion) : Bool := run.answers.contains asked.questionId

/-! ## What is shown -/

def isVisible (run : Run) (asked : ReadQuestion) : Bool := asked.visibility.isVisible run.answers

/-- The shown questions of a tier; a tier that the catalog does not have shows none. -/
def visibleIn (run : Run) (tierId : String) : List ReadQuestion :=
  match run.catalog.tier? tierId with
  | none => []
  | some tier => tier.questions.filter run.isVisible

def progressOf (run : Run) (asked : List ReadQuestion) : Progress where
  answered := (asked.filter run.isAnswered).length
  total := asked.length

def tierProgress (run : Run) (tierId : String) : Progress := run.progressOf (run.visibleIn tierId)

def progress (run : Run) : Progress := run.progressOf (run.catalog.questions.filter run.isVisible)

/-- The follow-up questions that the option answered with reveals.  Of several options
with one value the first one counts. -/
def triggered (run : Run) (questionId : String) : List FollowUp :=
  match run.catalog.question? questionId with
  | none => []
  | some asked =>
      let selected := do
        let answer ← run.answers.get? questionId
        let value ← answer.value.single?
        asked.question.optionByValue? value
      match selected with
      | none => []
      | some option =>
          asked.question.followUps.filter fun followUp => followUp.triggeredBy = option.optionId

/-! ## Who is left -/

/-- The registry's records of those still eligible, in the registry's order. -/
def entries (run : Run) : List Scholarship :=
  run.catalog.scholarships.filter fun entry => run.state.isEligible entry.scholarshipId

/-! ## Completion -/

/-- Why the run cannot be completed; that nobody is left is looked at first.  Whether something
is answered is told by the count, and of any count of 64 bits the percentage tells the same
(`obstacle?_eq_of_percent`). -/
def obstacle? (run : Run) : Option Incompletion :=
  if run.state.eligible.isEmpty then some .nothingEligible
  else if run.progress.answered = 0 then some .noAnswers
  else none

def canComplete (run : Run) : Bool := run.obstacle?.isNone

def complete (run : Run) : Except Incompletion Handoff :=
  match run.obstacle? with
  | some reason => .error reason
  | none => .ok { eligible := run.state.eligible, answers := run.answers.map (·.value) }

theorem canComplete_iff (run : Run) :
    run.canComplete ↔ run.state.eligible ≠ [] ∧ 0 < run.progress.answered := by
  simp only [canComplete, obstacle?]
  split
  · simp_all
  · split
    · simp_all
    · simp_all
      omega

theorem complete_eligible {run : Run} {handoff : Handoff} (completed : run.complete = .ok handoff) :
    handoff.eligible = run.state.eligible := by
  simp only [complete] at completed
  split at completed <;> cases completed
  rfl

end Run

end Screening
