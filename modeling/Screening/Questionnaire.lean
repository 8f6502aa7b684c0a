/-
# Screening.Questionnaire -- the document that a screening runs on

A questionnaire lists the scholarships that can be applied for and asks its
questions in tiers.  A question may have options, elimination rules, an expression
that says when it is shown, and follow-up questions that an option of it reveals.
-/
import Screening.Award
import Screening.Rule

namespace Screening

set_option autoImplicit false

/-- One scholarship of the registry. -/
structure Scholarship where
  scholarshipId : String
  scholarshipName : String
  applicationDeadline : String := ""
  applicationPeriod : String := ""
  paymentTiming : String := ""
  numberOfAwards : Option UInt32 := none
  award : Option Award := none
  deriving DecidableEq, Repr, Inhabited

inductive QuestionType where
  | singleChoice
  | multipleChoice
  | courseMarks
  | freeText
  deriving DecidableEq, Repr, Inhabited

namespace QuestionType

/-- The name of the type in a document. -/
def name : QuestionType → String
  | .singleChoice => "single_choice"
  | .multipleChoice => "multiple_choice"
  | .courseMarks => "course_marks_input"
  | .freeText => "text_area"

/-- What a report calls the type. -/
def label : QuestionType → String
  | .singleChoice => "Single choice"
  | .multipleChoice => "Multiple choice"
  | .courseMarks => "Course marks"
  | .freeText => "Free text"

def all : List QuestionType := [.singleChoice, .multipleChoice, .courseMarks, .freeText]

def ofName? (name : String) : Option QuestionType := all.find? fun type => type.name = name

@[simp] theorem ofName?_name (type : QuestionType) : ofName? type.name = some type := by
  cases type <;> decide

end QuestionType

structure QuestionOption where
  optionId : String
  optionText : String := ""
  value : String
  deriving DecidableEq, Repr, Inhabited

structure InputField where
  fieldId : String
  fieldType : String := ""
  minValue : Option Binary64 := none
  maxValue : Option Binary64 := none
  placeholder : Option String := none
  deriving DecidableEq, Repr, Inhabited

/-- A question that an answer to its parent reveals.  `triggeredBy` is the id of the
revealing option, not its value. -/
structure FollowUp where
  triggeredBy : String
  subQuestionId : String
  subQuestionText : String := ""
  questionType : QuestionType
  options : List QuestionOption := []
  maxLength : Option UInt32 := none
  helpText : Option String := none
  inputFields : List InputField := []
  deriving DecidableEq, Repr, Inhabited

/-- When a question is shown. -/
structure ConditionalDisplay where
  showIf : String
  deriving DecidableEq, Repr, Inhabited

structure Question where
  questionId : String
  questionText : String := ""
  questionType : QuestionType
  required : Bool := false
  options : List QuestionOption := []
  eliminationRules : List Rule := []
  conditionalDisplay : Option ConditionalDisplay := none
  followUps : List FollowUp := []
  inputFields : List InputField := []
  helpText : Option String := none
  additionalInfo : Keyed String := .empty
  deriving DecidableEq, Repr

namespace Question

def showIf (question : Question) : Option String := question.conditionalDisplay.map (·.showIf)

/-- The first option with this value. -/
def optionByValue? (question : Question) (value : String) : Option QuestionOption :=
  question.options.find? fun option => option.value = value

end Question

/-- A group of questions.  Tiers are asked by ascending `tierOrder`. -/
structure Tier where
  tierId : String
  tierOrder : UInt32
  tierName : String := ""
  tierDescription : String := ""
  estimatedEliminationRate : String := ""
  questions : List Question := []
  deriving DecidableEq, Repr

structure Metadata where
  title : Option String := none
  description : String := ""
  version : String := ""
  lastUpdated : String := ""
  totalScholarships : UInt64 := 0
  deriving DecidableEq, Repr, Inhabited

/-- The authors' notes on processing; they have no effect. -/
structure ProcessingInstructions where
  questionFlowLogic : String := ""
  eliminationStrategy : String := ""
  preferenceHandling : String := ""
  tieBreaking : String := ""
  finalOutput : Keyed String := .empty
  deriving DecidableEq, Repr

structure Questionnaire where
  metadata : Metadata := {}
  scholarships : List Scholarship
  tiers : List Tier := []
  processingInstructions : Option ProcessingInstructions := none
  deriving DecidableEq, Repr

end Screening
