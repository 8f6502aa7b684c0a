/-
# Screening.Proofs.Outcome -- eligibility reads the outcomes of rules, and nothing else

A document says much that has no part in who is eligible: display expressions, options,
the grouping into tiers, the ids of rules, preferred scholarships.  Nor do all answers
count.  What the tally reads is a sequence of strokes: of each rule the question that it
belongs to, what it does when it fires, and whether it does.  Two documents that agree in
this under two answer sheets have one tally, whatever else they say
(`tally_reads_outcomes_of_rules`).

* `Tally.act_congr`: an action reads the effect of a rule alone;
* `foldl_actOn_congr`: so does a whole sequence of rules, together with which of them fire;
* `Questionnaire.map_stroke_rulesInOrder`, `Questionnaire.map_fires_rulesInOrder`: both can
  be read off the questions that have rules.
-/
import Screening.Proofs.Attribution

namespace Screening

set_option autoImplicit false

/-! ## What is read of a rule -/

/-- What a rule does when it fires. -/
structure Effect where
  action : RuleAction
  eliminationMessage : String
  eliminatedScholarships : Option (List String)
  keptScholarships : Option (List String)
  deriving DecidableEq

def Rule.effect (rule : Rule) : Effect where
  action := rule.action
  eliminationMessage := rule.eliminationMessage
  eliminatedScholarships := rule.eliminatedScholarships
  keptScholarships := rule.keptScholarships

/-- An action reads the effect of a rule alone. -/
theorem Tally.act_congr {first second : Rule} (same : first.effect = second.effect)
    (questionId : String) (tally : Tally) :
    tally.act first questionId = tally.act second questionId := by
  simp only [Rule.effect, Effect.mk.injEq] at same
  obtain ⟨action, message, eliminated, kept⟩ := same
  rw [act, act, action, message, eliminated, kept]

namespace PlacedRule

/-- The question of a rule, and what the rule does when it fires. -/
def stroke (placed : PlacedRule) : String × Effect := (placed.questionId, placed.rule.effect)

theorem actOn_congr {answers answers' : AnswerSheet} {first second : PlacedRule}
    (stroke : first.stroke = second.stroke) (fires : first.fires answers = second.fires answers')
    (tally : Tally) : first.actOn answers tally = second.actOn answers' tally := by
  simp only [PlacedRule.stroke, Prod.mk.injEq] at stroke
  rw [actOn, actOn, fires, stroke.1, Tally.act_congr stroke.2]

/-- Of a sequence of rules the strokes are read, and which of the rules fire. -/
theorem foldl_actOn_congr {answers answers' : AnswerSheet} :
    ∀ {rules rules' : List PlacedRule}, rules.map stroke = rules'.map stroke →
      rules.map (fires answers) = rules'.map (fires answers') → ∀ tally : Tally,
        rules.foldl (actOn answers) tally = rules'.foldl (actOn answers') tally
  | [], [], _, _, _ => rfl
  | [], _ :: _, strokes, _, _ => by cases strokes
  | _ :: _, [], strokes, _, _ => by cases strokes
  | first :: rules, second :: rules', strokes, firings, tally => by
      rw [List.map_cons, List.map_cons, List.cons.injEq] at strokes firings
      rw [List.foldl_cons, List.foldl_cons, actOn_congr strokes.1 firings.1]
      exact foldl_actOn_congr strokes.2 firings.2 _

end PlacedRule

/-! ## What is read of a document -/

namespace Questionnaire

variable (document : Questionnaire)

/-- The questions that have rules, in the order of evaluation. -/
def bearing : List Question :=
  (document.questionsInOrder.map (·.2)).filter fun question => !question.eliminationRules.isEmpty

/-- These questions by id, with what their rules do. -/
def effects : List (String × List Effect) :=
  document.bearing.map fun question =>
    (question.questionId, question.eliminationRules.map (·.effect))

/-- These questions by id, with the conditions of their rules. -/
def conditions : List (String × List String) :=
  document.bearing.map fun question =>
    (question.questionId, question.eliminationRules.map (·.condition))

/-- Which of their rules fire under the answers.  A rule of a question that is not answered
does not. -/
def firings (answers : AnswerSheet) : List (List Bool) :=
  document.bearing.map fun question => question.eliminationRules.map fun rule =>
    PlacedRule.fires answers ⟨question.questionId, rule⟩

/-- Questions without rules have no part in the sequence of rules. -/
theorem rulesInOrder_eq_flatMap_bearing :
    document.rulesInOrder = document.bearing.flatMap fun question =>
      question.eliminationRules.map (PlacedRule.mk question.questionId) := by
  rw [rulesInOrder, bearing]
  induction document.questionsInOrder with
  | nil => rfl
  | cons asked questions ih =>
      rw [List.flatMap_cons, ih, List.map_cons, List.filter_cons]
      cases rules : asked.2.eliminationRules with
      | nil => simp [rules]
      | cons rule others => simp [rules]

theorem map_stroke_rulesInOrder :
    document.rulesInOrder.map PlacedRule.stroke =
      document.effects.flatMap fun (questionId, effects) => effects.map (questionId, ·) := by
  simp only [rulesInOrder_eq_flatMap_bearing, effects, List.map_flatMap, List.flatMap_map,
    List.map_map]
  rfl

theorem map_fires_rulesInOrder (answers : AnswerSheet) :
    document.rulesInOrder.map (PlacedRule.fires answers) = (document.firings answers).flatten := by
  simp only [rulesInOrder_eq_flatMap_bearing, firings, List.map_flatMap, List.map_map]
  rfl

/-- Which rules fire is a matter of the conditions and the answers. -/
theorem firings_eq_map_conditions (answers : AnswerSheet) :
    document.firings answers = document.conditions.map fun (questionId, texts) =>
      texts.map fun text => (answers.get? questionId).any fun answer =>
        (Condition.parse text).holds answer.value := by
  simp only [firings, conditions, List.map_map, Function.comp_def]
  rfl

/-- Of the answers the values are read, and those to questions that have rules. -/
theorem firings_congr {answers answers' : AnswerSheet}
    (same : ∀ question ∈ document.bearing,
      (answers.get? question.questionId).map (·.value) =
        (answers'.get? question.questionId).map (·.value)) :
    document.firings answers = document.firings answers' := by
  refine List.map_congr_left fun question member => List.map_congr_left fun rule _ => ?_
  have value (sheet : AnswerSheet) : PlacedRule.fires sheet ⟨question.questionId, rule⟩ =
      ((sheet.get? question.questionId).map (·.value)).any
        (Condition.parse rule.condition).holds := by
    rw [Option.any_map]
    rfl
  rw [value, value, same question member]

end Questionnaire

/-! ## What is read for a tally -/

section Tallies

variable {first second : Questionnaire} {catalog catalog' : Catalog}
  (accepted : Catalog.ofQuestionnaire first = .ok catalog)
  (accepted' : Catalog.ofQuestionnaire second = .ok catalog')
  (registry : first.scholarshipIds = second.scholarshipIds)
  (effects : first.effects = second.effects)

include accepted accepted' registry effects

theorem Tally.ofAnswers_eq_of_firings {answers answers' : AnswerSheet}
    (firings : first.firings answers = second.firings answers') :
    ofAnswers catalog answers = ofAnswers catalog' answers' := by
  have strokes : first.rulesInOrder.map PlacedRule.stroke =
      second.rulesInOrder.map PlacedRule.stroke := by
    rw [first.map_stroke_rulesInOrder, second.map_stroke_rulesInOrder, effects]
  have fires : first.rulesInOrder.map (PlacedRule.fires answers) =
      second.rulesInOrder.map (PlacedRule.fires answers') := by
    rw [first.map_fires_rulesInOrder, second.map_fires_rulesInOrder, firings]
  rw [ofAnswers_eq_foldl accepted, ofAnswers_eq_foldl accepted', registry]
  exact PlacedRule.foldl_actOn_congr strokes fires _

/-- **Eligibility reads the outcomes of rules, and nothing else.**  Two documents with the
same ids in their registries and, question by question, rules of the same effects have the
same tally under any two sheets under which the same rules fire.  In particular this is so
where the conditions are the same, too, and the sheets have the same values for the
questions with rules: display expressions and what they show, options, tiers, the ids of
rules, preferred scholarships, questions without rules, answers to these or to unknown
questions, and sub-answers have no influence. -/
theorem tally_reads_outcomes_of_rules :
    (∀ answers answers', first.firings answers = second.firings answers' →
      Tally.ofAnswers catalog answers = Tally.ofAnswers catalog' answers') ∧
    (first.conditions = second.conditions → ∀ answers answers' : AnswerSheet,
      (∀ question ∈ first.bearing,
        (answers.get? question.questionId).map (·.value) =
          (answers'.get? question.questionId).map (·.value)) →
      Tally.ofAnswers catalog answers = Tally.ofAnswers catalog' answers') := by
  refine ⟨fun _ _ => Tally.ofAnswers_eq_of_firings accepted accepted' registry effects, ?_⟩
  intro conditions answers answers' same
  refine Tally.ofAnswers_eq_of_firings accepted accepted' registry effects ?_
  rw [first.firings_congr same, first.firings_eq_map_conditions, conditions,
    second.firings_eq_map_conditions]

end Tallies

namespace Sample

/-- The same rules by their effects, under other conditions.  The questions are in one tier,
another one stands between them, and the first of them is not always shown. -/
def recast : Questionnaire where
  scholarships := document.scholarships
  tiers := [{
    tierId := "all"
    tierOrder := 7
    questions := [
      { questionId := "enrolled"
        questionType := .freeText
        conditionalDisplay := some ⟨"major.value == 'law'"⟩
        eliminationRules := [
          { ruleId := "E1", condition := "value == 'never'", action := .eliminate
            eliminationMessage := "Enrolment required"
            eliminatedScholarships := some ["B", "Z", "B"]
            preferredScholarships := some ["B"] },
          { ruleId := "E2", condition := "value != 'now'", action := .keepOnly
            eliminationMessage := "Open to students only"
            keptScholarships := some ["A", "C"] }] },
      { questionId := "major", questionType := .freeText },
      { questionId := "interests"
        questionType := .multipleChoice
        options := [{ optionId := "o1", value := "chess" }]
        eliminationRules := [
          { ruleId := "I1", condition := "selectedValues.includes('chess')", action := .keepOnly
            eliminationMessage := "Arts only"
            keptScholarships := some ["C"] }] }] }]

theorem inOrder_recast : Tier.inOrder recast.tiers = recast.tiers := List.mergeSort_singleton _

def recastCatalog : Catalog where
  metadata := {}
  processingInstructions := none
  scholarships := recast.scholarships
  tiers := (Tier.inOrder recast.tiers).map .ofTier

theorem recast_accepted : Catalog.ofQuestionnaire recast = .ok recastCatalog :=
  Catalog.ofQuestionnaire_of_inOrder inOrder_recast (by decide)

/-- Two answers to the questions with rules, one of them with sub-answers, and two to other
questions. -/
def annotated (enrolled interest : String) : AnswerSheet := .ofList [
  ("enrolled", { questionId := "enrolled", value := .single enrolled }),
  ("hobby", { questionId := "hobby", value := .single "chess" }),
  ("interests", {
    questionId := "interests", value := .multiple [interest]
    subAnswers := some (.ofList [("club", .single "none")]) }),
  ("major", { questionId := "major", value := .single "arts" })]

/-- Answers under which the rules of the other document fire; its first question is not
shown. -/
def recastAnswers : AnswerSheet := annotated "never" "chess"

theorem questionsInOrder_document : document.questionsInOrder =
    (early.questions.map ("early", ·)) ++ late.questions.map ("late", ·) := by
  rw [Questionnaire.questionsInOrder, inOrder_tiers]
  rfl

theorem questionsInOrder_recast : recast.questionsInOrder =
    recast.tiers.flatMap fun tier => tier.questions.map (tier.tierId, ·) := by
  rw [Questionnaire.questionsInOrder, inOrder_recast]

theorem effects_recast : document.effects = recast.effects := by
  simp only [Questionnaire.effects, Questionnaire.bearing, questionsInOrder_document,
    questionsInOrder_recast]
  decide +kernel

theorem firings_recast : document.firings answers = recast.firings recastAnswers := by
  simp only [Questionnaire.firings, Questionnaire.bearing, questionsInOrder_document,
    questionsInOrder_recast]
  decide +kernel

theorem values_annotated : ∀ question ∈ document.bearing,
    (answers.get? question.questionId).map (·.value) =
      ((annotated "no" "music").get? question.questionId).map (·.value) := by
  simp only [Questionnaire.bearing, questionsInOrder_document]
  decide

end Sample

theorem sample_tally_reads_outcomes :
    Catalog.ofQuestionnaire Sample.document = .ok Sample.catalog ∧
      Catalog.ofQuestionnaire Sample.recast = .ok Sample.recastCatalog ∧
      Sample.document.scholarshipIds = Sample.recast.scholarshipIds ∧
      Sample.document.effects = Sample.recast.effects ∧
      Sample.document.firings Sample.answers = Sample.recast.firings Sample.recastAnswers ∧
      Tally.ofAnswers Sample.catalog Sample.answers =
        Tally.ofAnswers Sample.recastCatalog Sample.recastAnswers ∧
      Tally.ofAnswers Sample.catalog Sample.answers =
        Tally.ofAnswers Sample.catalog (Sample.annotated "no" "music") :=
  ⟨Sample.accepted, Sample.recast_accepted, rfl, Sample.effects_recast, Sample.firings_recast,
    (tally_reads_outcomes_of_rules Sample.accepted Sample.recast_accepted rfl
      Sample.effects_recast).1 _ _ Sample.firings_recast,
    (tally_reads_outcomes_of_rules Sample.accepted Sample.accepted rfl rfl).2 rfl _ _
      Sample.values_annotated⟩

end Screening
