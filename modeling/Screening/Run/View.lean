/-
# Screening.Run.View -- a run as it is shown

An applicant is shown how far the run has come, who is left, and the questions of a
tier with their follow-ups.
-/
import Screening.Eligibility.Codec
import Screening.Questionnaire.Codec

namespace Screening

open Json

set_option autoImplicit false

/-- A scholarship as an applicant is shown it. -/
structure ScholarshipLine where
  scholarshipId : String
  scholarshipName : String
  awardLabel : String
  applicationDeadline : String
  deriving DecidableEq, Repr

namespace ScholarshipLine

def ofScholarship (entry : Scholarship) : ScholarshipLine where
  scholarshipId := entry.scholarshipId
  scholarshipName := entry.scholarshipName
  awardLabel := Award.labelOf entry.award
  applicationDeadline := entry.applicationDeadline

def toJson (line : ScholarshipLine) : Json :=
  .object [
    ("scholarshipId", .text line.scholarshipId),
    ("scholarshipName", .text line.scholarshipName),
    ("awardLabel", .text line.awardLabel),
    ("applicationDeadline", .text line.applicationDeadline)]

end ScholarshipLine

def Run.lines (run : Run) : List ScholarshipLine := run.entries.map .ofScholarship

/-- A session as it is after a call. -/
structure SessionView where
  sessionId : String
  progress : Binary64
  canComplete : Bool
  eligible : List ScholarshipLine
  state : Eligibility

namespace SessionView

def ofRun (sessionId : String) (run : Run) : SessionView where
  sessionId
  progress := run.progress.percent
  canComplete := run.canComplete
  eligible := run.lines
  state := run.state

def toJson (view : SessionView) : Json :=
  .object [
    ("sessionId", .text view.sessionId),
    ("progress", .real view.progress),
    ("canComplete", .bool view.canComplete),
    ("eligible", .array (view.eligible.map (·.toJson))),
    ("state", Eligibility.codec.encode view.state)]

end SessionView

/-- A shown question with the follow-ups that its answer reveals. -/
structure QuestionView where
  question : Question
  answered : Bool
  triggered : List FollowUp

/-- The shown questions of a tier. -/
structure TierView where
  tierId : String
  progress : Progress
  questions : List QuestionView

def Progress.toJson (progress : Progress) : Json :=
  .object [("answered", .ofNat progress.answered), ("total", .ofNat progress.total)]

namespace TierView

def ofRun (tierId : String) (run : Run) : TierView where
  tierId
  progress := run.tierProgress tierId
  questions := (run.visibleIn tierId).map fun asked =>
    { question := asked.question
      answered := run.isAnswered asked
      triggered := run.triggered asked.questionId }

def toJson (view : TierView) : Json :=
  .object [
    ("tierId", .text view.tierId),
    ("progress", view.progress.toJson),
    ("questions", .array (view.questions.map fun shown =>
      .object [
        ("question", Question.codec.encode shown.question),
        ("answered", .bool shown.answered),
        ("triggeredSubQuestions", FollowUp.codec.list.encode shown.triggered)]))]

end TierView

end Screening
