/-
# Screening.Questionnaire.Codec -- questionnaires as JSON

One description for each record of a document, in the order in which its fields are
written.  The registry may name a scholarship and its deadline in a shorter way, too.
-/
import Screening.Questionnaire
import Screening.Json.Choice
import Screening.Json.Record

namespace Screening

open Json

set_option autoImplicit false

namespace Award

/-- The amount that a degree's member holds; null is none. -/
def degreeAmount? : Outline → Option (Option Binary64)
  | .null => some none
  | outline => (Codec.amount? outline).map some

/-- The awards by degree that the members of an object state, each degree at most once. -/
def ofMembers? :
    List (Option String × Outline) → (masters doctoral : Option (Option Binary64)) → Option Award
  | [], masters, doctoral => some (.byDegree (masters.getD none) (doctoral.getD none))
  | (name, value) :: members, masters, doctoral =>
      if name = some "masters" then
        if masters.isSome then none
        else (degreeAmount? value).bind fun amount => ofMembers? members (some amount) doctoral
      else if name = some "doctoral" then
        if doctoral.isSome then none
        else (degreeAmount? value).bind fun amount => ofMembers? members masters (some amount)
      else ofMembers? members masters doctoral

def ofOutline? : Outline → Option Award
  | .object members _ => ofMembers? members none none
  | outline => (Codec.amount? outline).map .amount

def codec : Codec Award where
  encode
    | .amount dollars => .real dollars
    | .byDegree masters doctoral =>
        .object <|
          (masters.toList.map fun amount => ("masters", .real amount)) ++
            (doctoral.toList.map fun amount => ("doctoral", .real amount))
  decode := anyOfKinds "AwardValue" ofOutline?

end Award

namespace Scholarship

def record : Record Scholarship where
  kind := "struct ScholarshipEntry"
  fields :=
    .field (.required "scholarshipId" .string) <|
    .field (.required "scholarshipName" .string ["name"]) <|
    .field (.defaulted "applicationDeadline" .string "" ["deadline"]) <|
    .field (.defaulted "applicationPeriod" .string "") <|
    .field (.defaulted "paymentTiming" .string "") <|
    .field (.optional "numberOfAwards" .word32) <|
    .field (.optional "awardValue" Award.codec) .none
  values entry :=
    (entry.scholarshipId, entry.scholarshipName, entry.applicationDeadline,
      entry.applicationPeriod, entry.paymentTiming, entry.numberOfAwards, entry.award, ())
  make := fun (scholarshipId, scholarshipName, applicationDeadline, applicationPeriod,
      paymentTiming, numberOfAwards, award, _) =>
    { scholarshipId, scholarshipName, applicationDeadline, applicationPeriod, paymentTiming,
      numberOfAwards, award }

def codec : Codec Scholarship := record.codec

end Scholarship

namespace QuestionType

def codec : Codec QuestionType :=
  Choice.codec name fun given =>
    match ofName? given with
    | some type => .ok type
    | none => .error (.unknownVariant given (all.map name))

end QuestionType

namespace QuestionOption

def record : Record QuestionOption where
  kind := "struct QuestionOption"
  fields :=
    .field (.required "optionId" .string) <|
    .field (.defaulted "optionText" .string "") <|
    .field (.required "value" .string) .none
  values option := (option.optionId, option.optionText, option.value, ())
  make := fun (optionId, optionText, value, _) => { optionId, optionText, value }

def codec : Codec QuestionOption := record.codec

end QuestionOption

namespace InputField

def record : Record InputField where
  kind := "struct InputField"
  fields :=
    .field (.required "fieldId" .string) <|
    .field (.defaulted "fieldType" .string "") <|
    .field (.optional "minValue" .real) <|
    .field (.optional "maxValue" .real) <|
    .field (.optional "placeholder" .string) .none
  values input := (input.fieldId, input.fieldType, input.minValue, input.maxValue,
    input.placeholder, ())
  make := fun (fieldId, fieldType, minValue, maxValue, placeholder, _) =>
    { fieldId, fieldType, minValue, maxValue, placeholder }

def codec : Codec InputField := record.codec

end InputField

namespace FollowUp

def record : Record FollowUp where
  kind := "struct ConditionalQuestion"
  fields :=
    .field (.required "triggeredBy" .string) <|
    .field (.required "subQuestionId" .string) <|
    .field (.defaulted "subQuestionText" .string "") <|
    .field (.required "questionType" QuestionType.codec) <|
    .field (.defaulted "options" QuestionOption.codec.list []) <|
    .field (.optional "maxLength" .word32) <|
    .field (.optional "helpText" .string) <|
    .field (.defaulted "inputFields" InputField.codec.list []) .none
  values followUp :=
    (followUp.triggeredBy, followUp.subQuestionId, followUp.subQuestionText,
      followUp.questionType, followUp.options, followUp.maxLength, followUp.helpText,
      followUp.inputFields, ())
  make := fun (triggeredBy, subQuestionId, subQuestionText, questionType, options, maxLength,
      helpText, inputFields, _) =>
    { triggeredBy, subQuestionId, subQuestionText, questionType, options, maxLength, helpText,
      inputFields }

def codec : Codec FollowUp := record.codec

end FollowUp

namespace ConditionalDisplay

def record : Record ConditionalDisplay where
  kind := "struct ConditionalDisplay"
  fields := .field (.required "showIf" .string) .none
  values display := (display.showIf, ())
  make := fun (showIf, _) => { showIf }

def codec : Codec ConditionalDisplay := record.codec

end ConditionalDisplay

def RuleAction.codec : Codec RuleAction := Choice.codec label fun name => .ok (ofLabel name)

namespace Rule

def record : Record Rule where
  kind := "struct EliminationRule"
  fields :=
    .field (.required "ruleId" .string) <|
    .field (.required "condition" .string) <|
    .field (.required "action" RuleAction.codec) <|
    .field (.defaulted "eliminationMessage" .string "") <|
    .field (.optional "eliminatedScholarships" (.list .string)) <|
    .field (.optional "keptScholarships" (.list .string)) <|
    .field (.optional "preferredScholarships" (.list .string)) .none
  values rule :=
    (rule.ruleId, rule.condition, rule.action, rule.eliminationMessage,
      rule.eliminatedScholarships, rule.keptScholarships, rule.preferredScholarships, ())
  make := fun (ruleId, condition, action, eliminationMessage, eliminatedScholarships,
      keptScholarships, preferredScholarships, _) =>
    { ruleId, condition, action, eliminationMessage, eliminatedScholarships, keptScholarships,
      preferredScholarships }

def codec : Codec Rule := record.codec

end Rule

namespace Question

def record : Record Question where
  kind := "struct Question"
  fields :=
    .field (.required "questionId" .string) <|
    .field (.defaulted "questionText" .string "") <|
    .field (.required "questionType" QuestionType.codec) <|
    .field (.defaulted "required" .boolean false) <|
    .field (.defaulted "options" QuestionOption.codec.list []) <|
    .field (.defaulted "eliminationRules" Rule.codec.list []) <|
    .field (.optional "conditionalDisplay" ConditionalDisplay.codec) <|
    .field (.defaulted "conditionalQuestions" FollowUp.codec.list []) <|
    .field (.defaulted "inputFields" InputField.codec.list []) <|
    .field (.optional "helpText" .string) <|
    .field (.mapOrNothing "additionalInfo" .string) .none
  values question :=
    (question.questionId, question.questionText, question.questionType, question.required,
      question.options, question.eliminationRules, question.conditionalDisplay,
      question.followUps, question.inputFields, question.helpText, question.additionalInfo, ())
  make := fun (questionId, questionText, questionType, required, options, eliminationRules,
      conditionalDisplay, followUps, inputFields, helpText, additionalInfo, _) =>
    { questionId, questionText, questionType, required, options, eliminationRules,
      conditionalDisplay, followUps, inputFields, helpText, additionalInfo }

def codec : Codec Question := record.codec

end Question

namespace Tier

def record : Record Tier where
  kind := "struct QuestionTier"
  fields :=
    .field (.required "tierId" .string) <|
    .field (.required "tierOrder" .word32) <|
    .field (.defaulted "tierName" .string "") <|
    .field (.defaulted "tierDescription" .string "") <|
    .field (.defaulted "estimatedEliminationRate" .string "") <|
    .field (.defaulted "questions" Question.codec.list []) .none
  values tier :=
    (tier.tierId, tier.tierOrder, tier.tierName, tier.tierDescription,
      tier.estimatedEliminationRate, tier.questions, ())
  make := fun (tierId, tierOrder, tierName, tierDescription, estimatedEliminationRate,
      questions, _) =>
    { tierId, tierOrder, tierName, tierDescription, estimatedEliminationRate, questions }

def codec : Codec Tier := record.codec

end Tier

namespace Metadata

def record : Record Metadata where
  kind := "struct QuestionnaireMetadata"
  fields :=
    .field (.optional "title" .string) <|
    .field (.defaulted "description" .string "") <|
    .field (.defaulted "version" .string "") <|
    .field (.defaulted "lastUpdated" .string "") <|
    .field (.defaulted "totalScholarships" .word64 0) .none
  values metadata :=
    (metadata.title, metadata.description, metadata.version, metadata.lastUpdated,
      metadata.totalScholarships, ())
  make := fun (title, description, version, lastUpdated, totalScholarships, _) =>
    { title, description, version, lastUpdated, totalScholarships }

def codec : Codec Metadata := record.codec

end Metadata

namespace ProcessingInstructions

def record : Record ProcessingInstructions where
  kind := "struct ProcessingInstructions"
  fields :=
    .field (.defaulted "questionFlowLogic" .string "") <|
    .field (.defaulted "eliminationStrategy" .string "") <|
    .field (.defaulted "preferenceHandling" .string "") <|
    .field (.defaulted "tieBreaking" .string "") <|
    .field (.defaulted "finalOutput" (.keyed .string) .empty) .none
  values notes :=
    (notes.questionFlowLogic, notes.eliminationStrategy, notes.preferenceHandling,
      notes.tieBreaking, notes.finalOutput, ())
  make := fun (questionFlowLogic, eliminationStrategy, preferenceHandling, tieBreaking,
      finalOutput, _) =>
    { questionFlowLogic, eliminationStrategy, preferenceHandling, tieBreaking, finalOutput }

def codec : Codec ProcessingInstructions := record.codec

end ProcessingInstructions

namespace Questionnaire

def record : Record Questionnaire where
  kind := "struct EligibilityData"
  fields :=
    .field (.defaulted "questionnaireMetadata" Metadata.codec {}) <|
    .field (.required "scholarshipRegistry" Scholarship.codec.list) <|
    .field (.defaulted "questionTiers" Tier.codec.list []) <|
    .field (.optional "processingInstructions" ProcessingInstructions.codec) .none
  values document :=
    (document.metadata, document.scholarships, document.tiers,
      document.processingInstructions, ())
  make := fun (metadata, scholarships, tiers, processingInstructions, _) =>
    { metadata, scholarships, tiers, processingInstructions }

def codec : Codec Questionnaire := record.codec

end Questionnaire

end Screening
