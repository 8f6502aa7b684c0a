/-
# Screening.Proofs.RoundTrip -- what is written on the wire is taken back

Documents, answers, events, states and handoffs are all written as JSON and taken from it.
Whatever is written is taken back for the value that it was written for (`Codec.Sound`).  So a
JSON value that is taken at all has a canonical form: what it is taken for, written again.  The
form is taken for the same value and is its own form, however the value was spelled: with
the short names of the registry, with nulls or nothing in place of what is missing, with members
that nobody asks for, with an action that no rule knows.

A record is sound field by field (`Record.codec_sound`), so each has a line for each of its
fields below.  What has several kinds is tried kind by kind, and what one kind writes never
fits an earlier one; an award by degree is an object even with no amount in it.  An event is
told by its member `type`, a name that none of its fields has.

* `Award.codec_sound`, `AnswerValue.codec_sound`, `Event.codec_sound`: the values that are no
  records;
* `wire_round_trips`: every kind of value, with the canonical form.
-/
import Screening.Eligibility.Codec
import Screening.Json.Reading
import Screening.Proofs.RecordSoundness
import Screening.Questionnaire.Codec

namespace Screening

open Json

set_option autoImplicit false

/-! ## Codecs -/

namespace Json.Codec

variable {α : Type}

/-- What a value is taken for, written again. -/
def canonical (codec : Codec α) (given : Json) : Except Fault Json :=
  (decodeJson codec.decode given).map codec.encode

/-- What is written is taken back, and what is taken has a canonical form. -/
structure RoundTrips (codec : Codec α) : Prop where
  taken_back : ∀ a, decodeJson codec.decode (codec.encode a) = .ok a
  canonical : ∀ given a, decodeJson codec.decode given = .ok a →
    ∃ form, codec.canonical given = .ok form ∧ decodeJson codec.decode form = .ok a ∧
      codec.canonical form = .ok form

theorem Sound.roundTrips {codec : Codec α} (sound : codec.Sound) : codec.RoundTrips where
  taken_back := decodeJson_encode sound
  canonical := by
    intro given a taken
    have again := decodeJson_encode sound a
    refine ⟨codec.encode a, ?_, again, ?_⟩
    · rw [Codec.canonical, taken]
      rfl
    · rw [Codec.canonical, again]
      rfl

theorem string_neverNull : string.NeverNull := nofun

theorem real_neverNull : real.NeverNull := nofun

theorem word32_neverNull : word32.NeverNull := nofun

theorem list_neverNull (codec : Codec α) : codec.list.NeverNull := nofun

theorem keyed_neverNull (codec : Codec α) : codec.keyed.NeverNull := nofun

theorem textSet_sound : textSet.Sound := by
  intro origin set
  have listed : textSet.encode set = (list string).encode set.keys := rfl
  have elements : set.keys.map (fun text => (text, ())) = set.entries := by
    rw [Keyed.keys, List.map_map]
    exact List.map_id' _
  rw [listed]
  show ((list string).decode origin _).map _ = _
  rw [list_sound string_sound origin set.keys]
  exact congrArg Except.ok ((congrArg Keyed.ofList elements).trans set.ofList_entries)

end Json.Codec

/-- A value of several kinds is taken for the kind that its whole outline fits. -/
theorem Json.anyOfKinds_ofJson {α : Type} {fits : Outline → Option α} {value : Json} {a : α}
    (fit : fits (.ofJson value) = some a) (kind : String) (origin : Origin) :
    anyOfKinds kind fits origin (.ofJson value) = .ok a := by
  simp only [anyOfKinds, Outline.readFlaw?_ofJson, fit]
  rfl

/-! ## Values of several kinds -/

namespace Award

theorem codec_sound : codec.Sound := by
  intro origin award
  refine anyOfKinds_ofJson ?_ _ origin
  match award with
  | .amount dollars => rfl
  | .byDegree none none => rfl
  | .byDegree (some masters) none => rfl
  | .byDegree none (some doctoral) => rfl
  | .byDegree (some masters) (some doctoral) => rfl

theorem codec_neverNull : codec.NeverNull := by
  rintro (dollars | ⟨masters, doctoral⟩) <;> simp [codec, Json.real]

end Award

namespace AnswerValue

theorem mapM_textOf? (texts : List String) :
    (Outline.itemsOfJson (texts.map .text)).mapM textOf? = some texts := by
  induction texts with
  | nil => rfl
  | cons text texts ih => simp [Outline.itemsOfJson, Outline.ofJson, textOf?, ih]

theorem codec_sound : codec.Sound := by
  intro origin value
  refine anyOfKinds_ofJson ?_ _ origin
  cases value with
  | single text => rfl
  | multiple texts => exact congrArg (Option.map AnswerValue.multiple) (mapM_textOf? texts)

end AnswerValue

theorem QuestionType.codec_sound : QuestionType.codec.Sound :=
  Choice.codec_sound fun type => by rw [QuestionType.ofName?_name]

theorem RuleAction.codec_sound : RuleAction.codec.Sound :=
  Choice.codec_sound fun action => congrArg Except.ok (RuleAction.ofLabel_label action)

theorem SubAnswers.codec_sound : SubAnswers.codec.Sound := Codec.keyed_sound AnswerValue.codec_sound

theorem SubAnswers.codec_neverNull : SubAnswers.codec.NeverNull := Codec.keyed_neverNull _

/-! ## Records of a document -/

section

open Json.Codec Json.Field

theorem Scholarship.codec_sound : Scholarship.codec.Sound :=
  Record.codec_sound
    ⟨required_sound string_sound _ _, required_sound string_sound _ _,
      defaulted_sound string_sound _ _ _, defaulted_sound string_sound _ _ _,
      defaulted_sound string_sound _ _ _, optional_sound word32_sound word32_neverNull _,
      optional_sound Award.codec_sound Award.codec_neverNull _, trivial⟩
    (by decide) fun _ => rfl

theorem QuestionOption.codec_sound : QuestionOption.codec.Sound :=
  Record.codec_sound
    ⟨required_sound string_sound _ _, defaulted_sound string_sound _ _ _,
      required_sound string_sound _ _, trivial⟩
    (by decide) fun _ => rfl

theorem InputField.codec_sound : InputField.codec.Sound :=
  Record.codec_sound
    ⟨required_sound string_sound _ _, defaulted_sound string_sound _ _ _,
      optional_sound real_sound real_neverNull _, optional_sound real_sound real_neverNull _,
      optional_sound string_sound string_neverNull _, trivial⟩
    (by decide) fun _ => rfl

theorem FollowUp.codec_sound : FollowUp.codec.Sound :=
  Record.codec_sound
    ⟨required_sound string_sound _ _, required_sound string_sound _ _,
      defaulted_sound string_sound _ _ _, required_sound QuestionType.codec_sound _ _,
      defaulted_sound (list_sound QuestionOption.codec_sound) _ _ _,
      optional_sound word32_sound word32_neverNull _,
      optional_sound string_sound string_neverNull _,
      defaulted_sound (list_sound InputField.codec_sound) _ _ _, trivial⟩
    (by decide) fun _ => rfl

theorem ConditionalDisplay.codec_sound : ConditionalDisplay.codec.Sound :=
  Record.codec_sound ⟨required_sound string_sound _ _, trivial⟩ (by decide) fun _ => rfl

theorem Rule.codec_sound : Rule.codec.Sound :=
  Record.codec_sound
    ⟨required_sound string_sound _ _, required_sound string_sound _ _,
      required_sound RuleAction.codec_sound _ _, defaulted_sound string_sound _ _ _,
      optional_sound (list_sound string_sound) (list_neverNull _) _,
      optional_sound (list_sound string_sound) (list_neverNull _) _,
      optional_sound (list_sound string_sound) (list_neverNull _) _, trivial⟩
    (by decide) fun _ => rfl

theorem Question.codec_sound : Question.codec.Sound :=
  Record.codec_sound
    ⟨required_sound string_sound _ _, defaulted_sound string_sound _ _ _,
      required_sound QuestionType.codec_sound _ _, defaulted_sound boolean_sound _ _ _,
      defaulted_sound (list_sound QuestionOption.codec_sound) _ _ _,
      defaulted_sound (list_sound Rule.codec_sound) _ _ _,
      optional_sound ConditionalDisplay.codec_sound (Record.codec_neverNull _) _,
      defaulted_sound (list_sound FollowUp.codec_sound) _ _ _,
      defaulted_sound (list_sound InputField.codec_sound) _ _ _,
      optional_sound string_sound string_neverNull _, mapOrNothing_sound string_sound _, trivial⟩
    (by decide) fun _ => rfl

theorem Tier.codec_sound : Tier.codec.Sound :=
  Record.codec_sound
    ⟨required_sound string_sound _ _, required_sound word32_sound _ _,
      defaulted_sound string_sound _ _ _, defaulted_sound string_sound _ _ _,
      defaulted_sound string_sound _ _ _,
      defaulted_sound (list_sound Question.codec_sound) _ _ _, trivial⟩
    (by decide) fun _ => rfl

theorem Metadata.codec_sound : Metadata.codec.Sound :=
  Record.codec_sound
    ⟨optional_sound string_sound string_neverNull _, defaulted_sound string_sound _ _ _,
      defaulted_sound string_sound _ _ _, defaulted_sound string_sound _ _ _,
      defaulted_sound word64_sound _ _ _, trivial⟩
    (by decide) fun _ => rfl

theorem ProcessingInstructions.codec_sound : ProcessingInstructions.codec.Sound :=
  Record.codec_sound
    ⟨defaulted_sound string_sound _ _ _, defaulted_sound string_sound _ _ _,
      defaulted_sound string_sound _ _ _, defaulted_sound string_sound _ _ _,
      defaulted_sound (keyed_sound string_sound) _ _ _, trivial⟩
    (by decide) fun _ => rfl

theorem Questionnaire.codec_sound : Questionnaire.codec.Sound :=
  Record.codec_sound
    ⟨defaulted_sound Metadata.codec_sound _ _ _,
      required_sound (list_sound Scholarship.codec_sound) _ _,
      defaulted_sound (list_sound Tier.codec_sound) _ _ _,
      optional_sound ProcessingInstructions.codec_sound (Record.codec_neverNull _) _, trivial⟩
    (by decide) fun _ => rfl

/-! ## Answers, states and events -/

theorem Answer.codec_sound : Answer.codec.Sound :=
  Record.codec_sound
    ⟨required_sound string_sound _ _, required_sound AnswerValue.codec_sound _ _,
      optional_sound SubAnswers.codec_sound SubAnswers.codec_neverNull _, trivial⟩
    (by decide) fun _ => rfl

theorem Submission.codec_sound : Submission.codec.Sound :=
  Record.codec_sound
    ⟨required_sound AnswerValue.codec_sound _ _,
      optional_sound SubAnswers.codec_sound SubAnswers.codec_neverNull _, trivial⟩
    (by decide) fun _ => rfl

theorem Elimination.codec_sound : Elimination.codec.Sound :=
  Record.codec_sound
    ⟨required_sound string_sound _ _, required_sound string_sound _ _,
      required_sound string_sound _ _, trivial⟩
    (by decide) fun _ => rfl

theorem Eligibility.codec_sound : Eligibility.codec.Sound :=
  Record.codec_sound
    ⟨required_sound (keyed_sound Answer.codec_sound) _ _,
      required_sound (list_sound string_sound) _ _,
      required_sound (list_sound Elimination.codec_sound) _ _, required_sound textSet_sound _ _,
      trivial⟩
    (by decide) fun _ => rfl

theorem Handoff.codec_sound : Handoff.codec.Sound :=
  Record.codec_sound
    ⟨required_sound (list_sound string_sound) _ _,
      required_sound (keyed_sound AnswerValue.codec_sound) _ _, trivial⟩
    (by decide) fun _ => rfl

namespace Event

theorem answeredRecord_sound : answeredRecord.codec.Sound :=
  Record.codec_sound
    ⟨required_sound string_sound _ _, required_sound AnswerValue.codec_sound _ _,
      optional_sound SubAnswers.codec_sound SubAnswers.codec_neverNull _, trivial⟩
    (by decide) fun _ => rfl

theorem clearedRecord_sound : clearedRecord.codec.Sound :=
  Record.codec_sound ⟨required_sound string_sound _ _, trivial⟩ (by decide) fun _ => rfl

end Event

end

namespace Event

theorem Kind.ofOutline_name (kind : Kind) : Kind.ofOutline (.text kind.name) = .ok kind := by
  cases kind <;> decide

/-- Once the kind is known, members of other names than `type` are set aside as they are. -/
theorem sort_of_untyped {members : List (String × Json)} (untyped : "type" ∉ members.map (·.1))
    (kind : Kind) :
    sort (Outline.membersOfJson members) (some kind) =
      .ok (some kind, Outline.membersOfJson members) := by
  induction members with
  | nil => rfl
  | cons member members ih =>
      obtain ⟨name, value⟩ := member
      obtain ⟨here, later⟩ := not_or.1 (mt List.mem_cons.2 untyped)
      simp only [Outline.membersOfJson, sort, if_neg (Ne.symm here),
        Outline.readFlaw?_ofJson, ih later]
      rfl

theorem sort_tagged (kind : Kind) {members : List (String × Json)}
    (untyped : "type" ∉ members.map (·.1)) :
    sort (Outline.membersOfJson (("type", .text kind.name) :: members)) none =
      .ok (some kind, Outline.membersOfJson members) := by
  simp only [Outline.membersOfJson, Outline.ofJson, sort, if_true, Option.isSome_none,
    Kind.ofOutline_name]
  exact sort_of_untyped untyped kind

/-- What is tagged with a kind is taken for an event of that kind. -/
theorem decode_tagged (origin : Origin) (kind : Kind) {members : List (String × Json)}
    (untyped : "type" ∉ members.map (·.1)) :
    decode origin (.ofJson (tagged kind members)) = ofContent kind (.ofJson (.object members)) := by
  simp only [tagged, Outline.ofJson, decode]
  rw [sort_tagged kind untyped]
  rfl

theorem untyped_encode {σ τ : Type} {fields : Fields σ τ} (unnamed : "type" ∉ fields.names)
    (values : τ) : "type" ∉ (fields.encode values).map (·.1) :=
  fun member => unnamed (fields.names_encode_subset values member)

theorem codec_sound : codec.Sound := by
  intro origin event
  show decode origin (.ofJson (encode event)) = _
  cases event with
  | answered questionId value subAnswers =>
      rw [encode, decode_tagged origin _ (untyped_encode (by decide) _)]
      exact congrArg (Except.map _)
        (answeredRecord_sound .setAside (questionId, value, subAnswers))
  | cleared questionId =>
      rw [encode, decode_tagged origin _ (untyped_encode (by decide) _)]
      exact congrArg (Except.map _) (clearedRecord_sound .setAside questionId)
  | reset =>
      rw [encode, decode_tagged origin _ List.not_mem_nil]
      rfl

end Event

/-! ## Every kind of value -/

/-- **The wire round trip.**  Whatever is written for a document, an event, a state, a handoff
or an answer, or for any part of them, is taken back; and whatever JSON value is taken for one
has a canonical form that is taken for the same and written the same. -/
theorem wire_round_trips :
    Questionnaire.codec.RoundTrips ∧ Event.codec.RoundTrips ∧ Eligibility.codec.RoundTrips ∧
      Handoff.codec.RoundTrips ∧ Answer.codec.RoundTrips ∧ Submission.codec.RoundTrips ∧
      Metadata.codec.RoundTrips ∧ Scholarship.codec.RoundTrips ∧ Award.codec.RoundTrips ∧
      Tier.codec.RoundTrips ∧ Question.codec.RoundTrips ∧ QuestionType.codec.RoundTrips ∧
      QuestionOption.codec.RoundTrips ∧ Rule.codec.RoundTrips ∧ RuleAction.codec.RoundTrips ∧
      ConditionalDisplay.codec.RoundTrips ∧ FollowUp.codec.RoundTrips ∧
      InputField.codec.RoundTrips ∧ ProcessingInstructions.codec.RoundTrips ∧
      AnswerValue.codec.RoundTrips ∧ SubAnswers.codec.RoundTrips ∧ Elimination.codec.RoundTrips :=
  ⟨Questionnaire.codec_sound.roundTrips, Event.codec_sound.roundTrips,
    Eligibility.codec_sound.roundTrips, Handoff.codec_sound.roundTrips,
    Answer.codec_sound.roundTrips, Submission.codec_sound.roundTrips,
    Metadata.codec_sound.roundTrips, Scholarship.codec_sound.roundTrips,
    Award.codec_sound.roundTrips, Tier.codec_sound.roundTrips, Question.codec_sound.roundTrips,
    QuestionType.codec_sound.roundTrips, QuestionOption.codec_sound.roundTrips,
    Rule.codec_sound.roundTrips, RuleAction.codec_sound.roundTrips,
    ConditionalDisplay.codec_sound.roundTrips, FollowUp.codec_sound.roundTrips,
    InputField.codec_sound.roundTrips, ProcessingInstructions.codec_sound.roundTrips,
    AnswerValue.codec_sound.roundTrips, SubAnswers.codec_sound.roundTrips,
    Elimination.codec_sound.roundTrips⟩

namespace Sample

/-- A document with the short names of the registry, nulls, an award by no degree, members that
nobody asks for and an action that no rule knows. -/
def handwritten : Json := .object [
  ("generator", .bool true),
  ("questionTiers", .array [.object [
    ("tierOrder", .ofNat 1),
    ("tierId", .text "early"),
    ("questions", .array [.object [
      ("questionType", .text "text_area"),
      ("questionId", .text "motivation"),
      ("eliminationRules", .array [.object [
        ("ruleId", .text "R1"),
        ("condition", .text ""),
        ("action", .text "defer"),
        ("keptScholarships", .array [])]])]])]]),
  ("scholarshipRegistry", .array [.object [
    ("deadline", .text "May"),
    ("name", .text "First"),
    ("scholarshipId", .text "A"),
    ("numberOfAwards", .null),
    ("awardValue", .object [("masters", .null)])]])]

/-- The questionnaire that it is taken for. -/
def taken : Questionnaire where
  scholarships := [{
    scholarshipId := "A", scholarshipName := "First", applicationDeadline := "May"
    award := some (.byDegree none none) }]
  tiers := [{
    tierId := "early"
    tierOrder := 1
    questions := [{
      questionId := "motivation"
      questionType := .freeText
      eliminationRules := [
        { ruleId := "R1", condition := "", action := .unknown, keptScholarships := some [] }] }] }]

theorem decode_handwritten : decodeJson Questionnaire.codec.decode handwritten = .ok taken := by
  decide +kernel

end Sample

theorem sample_wire_round_trips :
    decodeJson Questionnaire.codec.decode Sample.handwritten = .ok Sample.taken ∧
      Questionnaire.codec.canonical Sample.handwritten =
        .ok (Questionnaire.codec.encode Sample.taken) ∧
      Questionnaire.codec.canonical (Questionnaire.codec.encode Sample.taken) =
        .ok (Questionnaire.codec.encode Sample.taken) := by
  obtain ⟨form, same, -, again⟩ :=
    wire_round_trips.1.canonical Sample.handwritten Sample.taken Sample.decode_handwritten
  have written : form = Questionnaire.codec.encode Sample.taken := by
    rw [Codec.canonical, Sample.decode_handwritten] at same
    exact (Except.ok.inj same).symm
  rw [written] at same again
  exact ⟨Sample.decode_handwritten, same, again⟩

end Screening
