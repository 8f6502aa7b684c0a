/-
# Screening.Answer -- what an applicant answers

A question is answered with one text or with a list of texts, and the follow-up
questions that the answer reveals have answers of their own.  An answer sheet
keeps at most one answer for a question.

* `isExactly_iff`: a list is never exactly a text, not even a list of one.
-/
import Screening.Keyed

namespace Screening

set_option autoImplicit false

/-- The value of an answer: one selection or text, or a list of selections. -/
inductive AnswerValue where
  | single (text : String)
  | multiple (texts : List String)
  deriving DecidableEq, Repr, Inhabited

namespace AnswerValue

def single? : AnswerValue → Option String
  | .single text => some text
  | .multiple _ => none

def multiple? : AnswerValue → Option (List String)
  | .single _ => none
  | .multiple texts => some texts

/-- Whether the answer is this one text; a list of selections never is. -/
def isExactly (value : AnswerValue) (text : String) : Bool := value.single? = some text

/-- The value as a report shows it: a list stands in brackets. -/
def display : AnswerValue → String
  | .single text => text
  | .multiple texts => "[" ++ ", ".intercalate texts ++ "]"

theorem isExactly_iff {value : AnswerValue} {text : String} :
    value.isExactly text ↔ value = .single text := by
  cases value <;> simp [isExactly, single?]

end AnswerValue

/-- Answers to the follow-up questions of one question. -/
abbrev SubAnswers := Keyed AnswerValue

structure Answer where
  questionId : String
  value : AnswerValue
  subAnswers : Option SubAnswers := none
  deriving DecidableEq, Repr, Inhabited

/-- At most one answer for each question id. -/
abbrev AnswerSheet := Keyed Answer

end Screening
