/-
# Screening.Proofs.Arrangement -- what the order of a document can change

A document is written in some order, and its tiers are asked in another.  Which tier is
written first matters only among tiers of one order: documents that agree there load alike,
down to the id that is refused (`ofQuestionnaire_eq_of_regrouped`).

Everything else about the arrangement, the orders of the tiers, where a question stands
and in which order its rules are written, decides to whom an elimination is credited and
where it stands in the log.  It does not decide who is eligible: that is a matter of which
question carries which rules (`Tally.ofAnswers_of_same_rules`).
-/
import Screening.Proofs.Attribution

namespace Screening

set_option autoImplicit false

/-! ## Tiers written in another order -/

namespace Tier

/-- The same tiers in another order; those of one order stand as they stood. -/
structure Regrouped (written rewritten : List Tier) : Prop where
  perm : rewritten.Perm written
  stable : ∀ order, rewritten.filter (fun tier => decide (tier.tierOrder = order)) =
    written.filter fun tier => decide (tier.tierOrder = order)

/-- The first tier in ascending order has the least order. -/
theorem tierOrder_le_of_mem {first tier : Tier} {others : List Tier}
    (ascending : (first :: others).Pairwise fun before after => before.tierOrder ≤ after.tierOrder)
    (member : tier ∈ first :: others) : first.tierOrder ≤ tier.tierOrder := by
  rcases List.mem_cons.1 member with rfl | later
  · exact UInt32.le_refl _
  · exact List.rel_of_pairwise_cons ascending later

/-- Tiers in ascending order are known from those of each order. -/
theorem eq_of_filter_tierOrder_eq : ∀ {left right : List Tier},
    (left.Pairwise fun before after => before.tierOrder ≤ after.tierOrder) →
    (right.Pairwise fun before after => before.tierOrder ≤ after.tierOrder) →
    (∀ order, left.filter (fun tier => decide (tier.tierOrder = order)) =
      right.filter fun tier => decide (tier.tierOrder = order)) → left = right
  | [], [], _, _, _ => rfl
  | [], tier :: _, _, _, same => by simpa using same tier.tierOrder
  | tier :: _, [], _, _, same => by simpa using same tier.tierOrder
  | first :: left, second :: right, ascending, ascending', same => by
      have first_in : first ∈ second :: right := by
        have : first ∈ (second :: right).filter fun tier =>
            decide (tier.tierOrder = first.tierOrder) := by
          simp [← same first.tierOrder]
        exact (List.mem_filter.1 this).1
      have second_in : second ∈ first :: left := by
        have : second ∈ (first :: left).filter fun tier =>
            decide (tier.tierOrder = second.tierOrder) := by
          simp [same second.tierOrder]
        exact (List.mem_filter.1 this).1
      have orders : second.tierOrder = first.tierOrder :=
        UInt32.le_antisymm (tierOrder_le_of_mem ascending' first_in)
          (tierOrder_le_of_mem ascending second_in)
      have heads := same first.tierOrder
      rw [List.filter_cons, List.filter_cons, if_pos (by simp), if_pos (by simp [orders]),
        List.cons.injEq] at heads
      obtain ⟨rfl, -⟩ := heads
      congr 1
      refine eq_of_filter_tierOrder_eq ascending.of_cons ascending'.of_cons fun order => ?_
      have both := same order
      rw [List.filter_cons, List.filter_cons] at both
      split at both
      · exact (List.cons.inj both).2
      · exact both

/-- Tiers that are rewritten so are asked in the order in which they were asked. -/
theorem inOrder_eq_of_regrouped {written rewritten : List Tier}
    (regrouped : Regrouped written rewritten) : inOrder rewritten = inOrder written := by
  have sorted := stablySorted_inOrder written
  have sorted' := stablySorted_inOrder rewritten
  refine eq_of_filter_tierOrder_eq sorted'.ascending sorted.ascending fun order => ?_
  rw [sorted'.stable, sorted.stable, regrouped.stable]

end Tier

/-- A document whose tiers are rewritten so loads as it did, or is refused for the same id. -/
theorem Catalog.ofQuestionnaire_eq_of_regrouped (document : Questionnaire) {tiers : List Tier}
    (regrouped : Tier.Regrouped document.tiers tiers) :
    ofQuestionnaire { document with tiers } = ofQuestionnaire document := by
  simp only [ofQuestionnaire, Questionnaire.declarations, Tier.inOrder_eq_of_regrouped regrouped]

/-! ## The same rules in another arrangement -/

/-- Whether a question with this id, wherever it stands, carries the rule. -/
def Questionnaire.Carries (document : Questionnaire) (questionId : String) (rule : Rule) : Prop :=
  ∃ tier ∈ document.tiers, ∃ question ∈ tier.questions,
    question.questionId = questionId ∧ rule ∈ question.eliminationRules

theorem Questionnaire.mem_rulesInOrder_iff {document : Questionnaire} {placed : PlacedRule} :
    placed ∈ document.rulesInOrder ↔ document.Carries placed.questionId placed.rule := by
  simp only [rulesInOrder, questionsInOrder, List.mem_flatMap, List.mem_map, Tier.mem_inOrder]
  constructor
  · rintro ⟨_, ⟨tier, inDocument, question, inTier, rfl⟩, rule, ofQuestion, rfl⟩
    exact ⟨tier, inDocument, question, inTier, rfl, ofQuestion⟩
  · rintro ⟨tier, inDocument, question, inTier, same, ofQuestion⟩
    exact ⟨(tier.tierId, question), ⟨tier, inDocument, question, inTier, rfl⟩, placed.rule,
      ofQuestion, by rw [same]⟩

/-- Whether anything claims a scholarship does not depend on the arrangement. -/
theorem PlacedRule.any_claims_congr {first second : Questionnaire}
    (rules : ∀ questionId rule, first.Carries questionId rule ↔ second.Carries questionId rule)
    (answers : AnswerSheet) (id : String) :
    first.rulesInOrder.any (·.claims answers id) = second.rulesInOrder.any (·.claims answers id) := by
  rw [Bool.eq_iff_iff]
  simp only [List.any_eq_true, Questionnaire.mem_rulesInOrder_iff, rules]

/-- Who is eligible, and who is logged, is a matter of which question carries which rules. -/
theorem Tally.ofAnswers_of_same_rules {first second : Questionnaire} {catalog catalog' : Catalog}
    (accepted : Catalog.ofQuestionnaire first = .ok catalog)
    (accepted' : Catalog.ofQuestionnaire second = .ok catalog')
    (registry : first.scholarshipIds = second.scholarshipIds)
    (rules : ∀ questionId rule, first.Carries questionId rule ↔ second.Carries questionId rule)
    (answers : AnswerSheet) :
    (ofAnswers catalog answers).eligible = (ofAnswers catalog' answers).eligible ∧
      ((ofAnswers catalog answers).eliminated.map (·.scholarshipId)).Perm
        ((ofAnswers catalog' answers).eliminated.map (·.scholarshipId)) := by
  have attributed := attributed_ofAnswers accepted answers
  have attributed' := attributed_ofAnswers accepted' answers
  constructor
  · rw [attributed.eligible, attributed'.eligible, registry]
    simp only [PlacedRule.any_claims_congr rules]
  · refine (List.perm_ext_iff_of_nodup attributed.once attributed'.once).2 fun id => ?_
    rw [attributed.logged, attributed'.logged, registry, PlacedRule.any_claims_congr rules]

/-- **What document order can and cannot change.**  The order in which tiers are written
changes nothing, except among tiers of one order.  And with the same registry, no
arrangement of the same rules, in tiers of whatever orders, of questions in their tiers, and
of rules in their questions, changes who is eligible or who is logged. -/
theorem arrangement_changes_attribution_only :
    (∀ (document : Questionnaire) (tiers : List Tier), Tier.Regrouped document.tiers tiers →
      Catalog.ofQuestionnaire { document with tiers } = Catalog.ofQuestionnaire document) ∧
    (∀ (first second : Questionnaire) (catalog catalog' : Catalog),
      Catalog.ofQuestionnaire first = .ok catalog → Catalog.ofQuestionnaire second = .ok catalog' →
      first.scholarshipIds = second.scholarshipIds →
      (∀ questionId rule, first.Carries questionId rule ↔ second.Carries questionId rule) →
      ∀ answers,
        (Tally.ofAnswers catalog answers).eligible = (Tally.ofAnswers catalog' answers).eligible ∧
          ((Tally.ofAnswers catalog answers).eliminated.map (·.scholarshipId)).Perm
            ((Tally.ofAnswers catalog' answers).eliminated.map (·.scholarshipId))) := by
  constructor
  · intro document tiers regrouped
    exact Catalog.ofQuestionnaire_eq_of_regrouped document regrouped
  · intro first second catalog catalog' accepted accepted' registry rules answers
    exact Tally.ofAnswers_of_same_rules accepted accepted' registry rules answers

namespace Sample

theorem regrouped_tiers : Tier.Regrouped document.tiers [early, late] where
  perm := List.Perm.swap late early []
  stable := by
    intro order
    by_cases first : early.tierOrder = order
    · subst first
      rfl
    · simp [document, List.filter_cons, first]

/-- The earlier tier is asked last here, and its rules are written the other way round. -/
def rearranged : Questionnaire where
  scholarships := document.scholarships
  tiers := [
    { early with
      tierOrder := 3
      questions := early.questions.map fun question =>
        { question with eliminationRules := question.eliminationRules.reverse } },
    late]

theorem inOrder_rearranged : Tier.inOrder rearranged.tiers = rearranged.tiers.reverse := by
  simp [Tier.inOrder, rearranged, List.mergeSort, early, late]

def rearrangedCatalog : Catalog where
  metadata := {}
  processingInstructions := none
  scholarships := rearranged.scholarships
  tiers := (Tier.inOrder rearranged.tiers).map .ofTier

theorem rearranged_accepted : Catalog.ofQuestionnaire rearranged = .ok rearrangedCatalog :=
  Catalog.ofQuestionnaire_of_inOrder inOrder_rearranged (by decide)

theorem carries_rearranged (questionId : String) (rule : Rule) :
    document.Carries questionId rule ↔ rearranged.Carries questionId rule := by
  simp [Questionnaire.Carries, document, rearranged, early, late]
  grind

/-- The two logs name the same scholarships, but not in one order, and one of them is
credited to another question. -/
theorem eliminated_rearranged :
    (Tally.ofAnswers catalog answers).eliminated =
        [⟨"B", "Enrolment required", "enrolled"⟩, ⟨"A", "Arts only", "interests"⟩] ∧
      (Tally.ofAnswers rearrangedCatalog answers).eliminated =
        [⟨"A", "Arts only", "interests"⟩, ⟨"B", "Arts only", "interests"⟩] := by
  simp only [Tally.ofAnswers, Catalog.questions, catalog, rearrangedCatalog, inOrder_tiers,
    inOrder_rearranged]
  decide +kernel

end Sample

theorem sample_arrangement_changes_attribution :
    Catalog.ofQuestionnaire { Sample.document with tiers := [Sample.early, Sample.late] } =
        Catalog.ofQuestionnaire Sample.document ∧
      Catalog.ofQuestionnaire Sample.document = .ok Sample.catalog ∧
      Catalog.ofQuestionnaire Sample.rearranged = .ok Sample.rearrangedCatalog ∧
      (Tally.ofAnswers Sample.catalog Sample.answers).eligible =
        (Tally.ofAnswers Sample.rearrangedCatalog Sample.answers).eligible ∧
      (Tally.ofAnswers Sample.catalog Sample.answers).eliminated ≠
        (Tally.ofAnswers Sample.rearrangedCatalog Sample.answers).eliminated := by
  obtain ⟨regrouped, rearranged⟩ := arrangement_changes_attribution_only
  refine ⟨regrouped _ _ Sample.regrouped_tiers, Sample.accepted, Sample.rearranged_accepted, ?_, ?_⟩
  · exact (rearranged _ _ _ _ Sample.accepted Sample.rearranged_accepted rfl
      Sample.carries_rearranged Sample.answers).1
  · rw [Sample.eliminated_rearranged.1, Sample.eliminated_rearranged.2]
    decide

end Screening
