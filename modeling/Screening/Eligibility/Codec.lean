/-
# Screening.Eligibility.Codec -- states and events as JSON

An event is an object whose member `type` names it, or an array that starts with the
name.  The members are set aside until the name is known, so every one of them has
to be readable, also one that nobody asks for.
-/
import Screening.Answer.Codec
import Screening.Run

namespace Screening

open Json

set_option autoImplicit false

namespace Elimination

def record : Record Elimination where
  kind := "struct EliminatedScholarship"
  fields :=
    .field (.required "scholarshipId" .string) <|
    .field (.required "reason" .string) <|
    .field (.required "eliminatedByQuestionId" .string) .none
  values entry := (entry.scholarshipId, entry.reason, entry.questionId, ())
  make := fun (scholarshipId, reason, questionId, _) => { scholarshipId, reason, questionId }

def codec : Codec Elimination := record.codec

end Elimination

namespace Eligibility

def record : Record Eligibility where
  kind := "struct EligibilityState"
  fields :=
    .field (.required "answers" Answer.codec.keyed) <|
    .field (.required "eligibleScholarships" (.list .string)) <|
    .field (.required "eliminatedScholarships" Elimination.codec.list) <|
    .field (.required "preferredScholarships" .textSet) .none
  values state := (state.answers, state.eligible, state.eliminated, state.preferred, ())
  make := fun (answers, eligible, eliminated, preferred, _) =>
    { answers, eligible, eliminated, preferred }

def codec : Codec Eligibility := record.codec

end Eligibility

namespace Handoff

def record : Record Handoff where
  kind := "struct EligibilityHandoff"
  fields :=
    .field (.required "eligibleScholarshipIds" (.list .string)) <|
    .field (.required "answers" AnswerValue.codec.keyed) .none
  values handoff := (handoff.eligible, handoff.answers, ())
  make := fun (eligible, answers, _) => { eligible, answers }

def codec : Codec Handoff := record.codec

end Handoff

namespace Event

/-- The name of an event. -/
inductive Kind where
  | answered
  | cleared
  | reset
  deriving DecidableEq, Repr

namespace Kind

def name : Kind → String
  | .answered => "answered"
  | .cleared => "cleared"
  | .reset => "reset"

def all : List Kind := [.answered, .cleared, .reset]

/-- The kind that an outline names. -/
def ofOutline : Outline → Except Fault Kind
  | .text given =>
      match all.find? fun kind => kind.name = given with
      | some kind => .ok kind
      | none => .error (.mismatch (.unknownVariant given (all.map name)))
  | other => .error (other.instead "variant identifier")

end Kind

def answeredRecord : Record (String × AnswerValue × Option SubAnswers) where
  kind := "struct variant EligibilityEvent::Answered"
  fields :=
    .field (.required "questionId" .string) <|
    .field (.required "value" AnswerValue.codec) <|
    .field (.optional "subAnswers" SubAnswers.codec) .none
  values := fun (questionId, value, subAnswers) => (questionId, value, subAnswers, ())
  make := fun (questionId, value, subAnswers, _) => (questionId, value, subAnswers)

def clearedRecord : Record String where
  kind := "struct variant EligibilityEvent::Cleared"
  fields := .field (.required "questionId" .string) .none
  values questionId := (questionId, ())
  make := fun (questionId, _) => questionId

/-- The event of a kind, from what was set aside. -/
def ofContent (kind : Kind) (content : Outline) : Except Fault Event :=
  match kind with
  | .answered =>
      (answeredRecord.decode .setAside content).map fun (questionId, value, subAnswers) =>
        .answered questionId value subAnswers
  | .cleared => (clearedRecord.decode .setAside content).map .cleared
  | .reset =>
      match content with
      | .array (_ :: items) _ =>
          .error (.mismatch (.wrongLength (items.length + 1) "0 elements in sequence"))
      | _ => .ok .reset

/-- The kind that a member names, and the members set aside. -/
def sort : List (Option String × Outline) → Option Kind →
    Except Fault (Option Kind × List (Option String × Outline))
  | [], kind => .ok (kind, [])
  | (none, _) :: _, _ => .error .malformed
  | (some name, value) :: members, kind =>
      if name = "type" then
        if kind.isSome then .error (.mismatch (.duplicateField "type"))
        else do
          let named ← Kind.ofOutline value
          sort members (some named)
      else do
        noFlaw value.readFlaw?
        let (kind, others) ← sort members kind
        return (kind, (some name, value) :: others)

def missingType : Fault := .mismatch (.missingField "type")

def decode : Decoder Event
  | _, .object members ending => do
      let (kind, others) ← sort members none
      noFlaw ending.readFlaw?
      match kind with
      | none => throw missingType
      | some kind => ofContent kind (.object others .closed)
  | _, .array [] unclosed => do
      noFlaw unclosed
      throw missingType
  | _, .array (first :: items) unclosed => do
      let kind ← Kind.ofOutline first
      noFlaw ((Outline.itemsReadFlaw? items).or unclosed)
      ofContent kind (.array items none)
  | _, other => .error (other.instead "internally tagged enum EligibilityEvent")

/-- An object with the name of its kind before its other members. -/
def tagged (kind : Kind) (members : List (String × Json)) : Json :=
  .object (("type", .text kind.name) :: members)

def encode : Event → Json
  | .answered questionId value subAnswers =>
      tagged .answered (answeredRecord.fields.encode (answeredRecord.values
        (questionId, value, subAnswers)))
  | .cleared questionId =>
      tagged .cleared (clearedRecord.fields.encode (clearedRecord.values questionId))
  | .reset => tagged .reset []

def codec : Codec Event := ⟨encode, decode⟩

end Event

end Screening
