/-
# Screening.Report -- the outcome of a screening

A report tells who is still eligible, why the others are not, how far each tier has
been answered, and which answers were left out because nobody asks the question.
-/
import Screening.Json.Printer
import Screening.Run.View
import Screening.Text.Blank

namespace Screening

open Json

set_option autoImplicit false

structure EliminationLine where
  scholarshipId : String
  scholarshipName : String
  reason : String
  questionId : String
  deriving DecidableEq, Repr

structure QuestionLine where
  questionId : String
  questionText : String
  questionType : String
  answer : Option String
  followUps : List String
  deriving DecidableEq, Repr

structure TierLine where
  tierId : String
  tierName : String
  progress : Progress
  questions : List QuestionLine
  deriving DecidableEq, Repr

structure Report where
  title : String
  version : String
  progress : Binary64
  canComplete : Bool
  eligible : List ScholarshipLine
  eliminated : List EliminationLine
  tiers : List TierLine
  skipped : List String
  eliminationStrategy : Option String
  deriving DecidableEq, Repr

namespace Report

/-! ## Making a report -/

def untitled : String := "Scholarship questionnaire"

/-- The line of a log entry.  A scholarship without a record is shown by its id. -/
def eliminationLine (catalog : Catalog) (entry : Elimination) : EliminationLine where
  scholarshipId := entry.scholarshipId
  scholarshipName :=
    match catalog.scholarship? entry.scholarshipId with
    | some record => record.scholarshipName
    | none => entry.scholarshipId
  reason := entry.reason
  questionId := entry.questionId

def questionLine (run : Run) (asked : ReadQuestion) : QuestionLine where
  questionId := asked.questionId
  questionText := asked.question.questionText
  questionType := asked.question.questionType.label
  answer := (run.answers.get? asked.questionId).map fun answer => answer.value.display
  followUps := (run.triggered asked.questionId).map (·.subQuestionText)

def tierLine (run : Run) (showQuestions : Bool) (tier : ReadTier) : TierLine where
  tierId := tier.tierId
  tierName := tier.tierName
  progress := run.tierProgress tier.tierId
  questions :=
    if showQuestions then (run.visibleIn tier.tierId).map (questionLine run) else []

/-- The strategy that the authors note, without blanks around it, if they note one. -/
def strategy? (catalog : Catalog) : Option String :=
  match catalog.processingInstructions with
  | none => none
  | some notes =>
      let trimmed := Text.trim notes.eliminationStrategy.toList
      if trimmed.isEmpty then none else some (String.ofList trimmed)

def ofRun (run : Run) (skipped : List String) (showQuestions : Bool) : Report where
  title := run.catalog.metadata.title.getD untitled
  version := run.catalog.metadata.version
  progress := run.progress.percent
  canComplete := run.canComplete
  eligible := run.lines
  eliminated := run.state.eliminated.map (eliminationLine run.catalog)
  tiers := run.catalog.tiers.map (tierLine run showQuestions)
  skipped
  eliminationStrategy := strategy? run.catalog

/-! ## As JSON -/

def eliminationJson (line : EliminationLine) : Json :=
  .object [
    ("scholarshipId", .text line.scholarshipId),
    ("scholarshipName", .text line.scholarshipName),
    ("reason", .text line.reason),
    ("questionId", .text line.questionId)]

def questionJson (line : QuestionLine) : Json :=
  .object [
    ("questionId", .text line.questionId),
    ("questionText", .text line.questionText),
    ("questionType", .text line.questionType),
    ("answer", (line.answer.map Json.text).getD .null),
    ("followUps", .texts line.followUps)]

def tierJson (line : TierLine) : Json :=
  .object <|
    [("tierId", .text line.tierId),
      ("tierName", .text line.tierName),
      ("answered", .ofNat line.progress.answered),
      ("visible", .ofNat line.progress.total)] ++
      if line.questions.isEmpty then []
      else [("questions", .array (line.questions.map questionJson))]

def toJson (report : Report) : Json :=
  .object <|
    [("title", .text report.title),
      ("version", .text report.version),
      ("progress", .real report.progress),
      ("canComplete", .bool report.canComplete),
      ("eligible", .array (report.eligible.map (·.toJson))),
      ("eliminated", .array (report.eliminated.map eliminationJson)),
      ("tiers", .array (report.tiers.map tierJson)),
      ("skippedAnswers", .texts report.skipped)] ++
      (report.eliminationStrategy.toList.map fun strategy => ("eliminationStrategy", .text strategy))

/-! ## As text -/

def headLines (report : Report) : List String :=
  ["Scholarship eligibility report",
    "Questionnaire: " ++ report.title ++ " (version " ++ report.version ++ ")",
    "Progress: " ++ Text.natText report.progress.roundToEven
      ++ "% of visible questions answered | ready to submit: "
      ++ (if report.canComplete then "yes" else "no")] ++
    (report.eliminationStrategy.toList.map fun strategy => "Elimination strategy: " ++ strategy) ++
    if report.skipped.isEmpty then []
    else ["Skipped answers for unknown questions: " ++ ", ".intercalate report.skipped]

/-- A heading with the number of its lines, and the lines. -/
def counted (heading : String) (lines : List String) : List String :=
  if lines.isEmpty then ["", heading ++ ": none"]
  else ["", heading ++ " (" ++ Text.natText lines.length ++ ")"] ++ lines

def eligibleText (line : ScholarshipLine) : String :=
  "- " ++ line.scholarshipName ++ " [" ++ line.scholarshipId ++ "]: " ++ line.awardLabel
    ++ ", deadline "
    ++ (if line.applicationDeadline.isEmpty then "not published" else line.applicationDeadline)

def eliminationText (line : EliminationLine) : String :=
  "- " ++ line.scholarshipName ++ " [" ++ line.scholarshipId ++ "] by " ++ line.questionId ++ ": "
    ++ line.reason

def questionTexts (line : QuestionLine) : List String :=
  ("    " ++ line.questionId ++ " " ++ line.questionText ++ " (" ++ line.questionType ++ ") -> "
    ++ line.answer.getD "(unanswered)") ::
    line.followUps.map fun text => "      follow-up: " ++ text

def tierTexts (line : TierLine) : List String :=
  ("- " ++ line.tierName ++ " (" ++ line.tierId ++ "): " ++ Text.natText line.progress.answered
    ++ "/" ++ Text.natText line.progress.total ++ " visible questions answered") ::
    line.questions.flatMap questionTexts

/-- The lines of the report. -/
def lines (report : Report) : List String :=
  headLines report ++
    counted "Eligible scholarships" (report.eligible.map eligibleText) ++
    counted "Eliminated scholarships" (report.eliminated.map eliminationText) ++
    ["", "Question tiers"] ++ report.tiers.flatMap tierTexts

def render (report : Report) : String :=
  String.join (report.lines.map fun line => line ++ "\n")

end Report

end Screening
