/-
# Screening.Answer.Codec -- answers as JSON

The value of an answer is a text or an array of texts.  An entry of an answers file
is such a value, or a submission that holds one together with sub-answers.
-/
import Screening.Answer
import Screening.Json.Choice
import Screening.Json.Record

namespace Screening

open Json

set_option autoImplicit false

/-- An answer as it is handed in for a question. -/
structure Submission where
  value : AnswerValue
  subAnswers : Option SubAnswers := none
  deriving DecidableEq, Repr, Inhabited

namespace AnswerValue

/-- The text of an outline that is one. -/
def textOf? : Outline → Option String
  | .text value => some value
  | _ => none

def ofOutline? : Outline → Option AnswerValue
  | .text value => some (.single value)
  | .array items _ => (items.mapM textOf?).map .multiple
  | _ => none

def codec : Codec AnswerValue where
  encode
    | .single selected => .text selected
    | .multiple selected => .texts selected
  decode := anyOfKinds "AnswerValue" ofOutline?

end AnswerValue

def SubAnswers.codec : Codec SubAnswers := AnswerValue.codec.keyed

namespace Answer

def record : Record Answer where
  kind := "struct Answer"
  fields :=
    .field (.required "questionId" .string) <|
    .field (.required "value" AnswerValue.codec) <|
    .field (.optional "subAnswers" SubAnswers.codec) .none
  values answer := (answer.questionId, answer.value, answer.subAnswers, ())
  make := fun (questionId, value, subAnswers, _) => { questionId, value, subAnswers }

def codec : Codec Answer := record.codec

end Answer

namespace Submission

def record : Record Submission where
  kind := "struct AnswerSubmission"
  fields :=
    .field (.required "value" AnswerValue.codec) <|
    .field (.optional "subAnswers" SubAnswers.codec) .none
  values submission := (submission.value, submission.subAnswers, ())
  make := fun (value, subAnswers, _) => { value, subAnswers }

def codec : Codec Submission := record.codec

/-- A bare value is a submission without sub-answers. -/
def ofOutline? (outline : Outline) : Option Submission :=
  match AnswerValue.ofOutline? outline with
  | some value => some { value }
  | none => (record.decode .setAside outline).toOption

/-- Reads an entry of an answers file. -/
def decodeEntry : Decoder Submission := anyOfKinds "AnswerEntry" ofOutline?

end Submission

end Screening
