/-
# Screening.Proofs.Attribution -- which rule an elimination is attributed to

The state after some answers is computed by loops: over the tiers, their questions,
the rules of each question and the ids that a rule goes through, with the tally handed
on from each to the next.  What comes out is a law that mentions none of them.  Write
all rules of the document in one list, in the order of evaluation.  A rule *claims* a
scholarship when its question is answered, its condition holds of the answer, and the
scholarship is a target of its action.  Then

* the eligible scholarships are those of the registry that no rule claims;
* the others are logged, each once, with the message and the question of the first
  rule that claims it;
* the log is ordered by that rule, and within one rule by its roll.

`Attributed` states this of the rules applied so far; `Attributed.actOn` is the step to
one rule more, and `attributed_ofAnswers` the law for all rules of a document.
-/
import Screening.Eligibility
import Screening.Proofs.Acceptance
import Screening.Proofs.Elimination

namespace Screening

set_option autoImplicit false

/-! ## The rules of a document, in order -/

/-- The tiers that were written, by ascending order and otherwise as they were written. -/
structure Tier.StablySorted (written ordered : List Tier) : Prop where
  perm : ordered.Perm written
  ascending : ordered.Pairwise fun first second => first.tierOrder ≤ second.tierOrder
  stable : ∀ order, ordered.filter (fun tier => decide (tier.tierOrder = order)) =
    written.filter fun tier => decide (tier.tierOrder = order)

/-- Whether a tier may stand before another. -/
def Tier.mayPrecede (first second : Tier) : Bool := first.tierOrder ≤ second.tierOrder

theorem Tier.mayPrecede_trans (first second third : Tier) (left : first.mayPrecede second)
    (right : second.mayPrecede third) : first.mayPrecede third := by
  simp only [mayPrecede, decide_eq_true_eq] at left right ⊢
  exact UInt32.le_trans left right

theorem Tier.mayPrecede_total (first second : Tier) :
    first.mayPrecede second || second.mayPrecede first := by
  simp only [mayPrecede, Bool.or_eq_true, decide_eq_true_eq]
  exact UInt32.le_total first.tierOrder second.tierOrder

theorem Tier.stablySorted_inOrder (tiers : List Tier) : StablySorted tiers (inOrder tiers) where
  perm := List.mergeSort_perm tiers mayPrecede
  ascending := by
    have sorted := List.pairwise_mergeSort mayPrecede_trans mayPrecede_total tiers
    refine sorted.imp ?_
    intro first second precedes
    exact of_decide_eq_true precedes
  stable := by
    intro order
    -- the tiers of one order are sorted as they were written, so sorting keeps them so
    have perm := (List.mergeSort_perm tiers mayPrecede).filter
      fun tier => decide (tier.tierOrder = order)
    have equalOrder : (tiers.filter fun tier => decide (tier.tierOrder = order)).Pairwise
        fun first second => first.mayPrecede second := by
      refine List.pairwise_of_forall_mem_list fun first left second right => ?_
      have first_order := (List.mem_filter.1 left).2
      have second_order := (List.mem_filter.1 right).2
      simp_all [mayPrecede]
    have sublist := (List.sublist_mergeSort mayPrecede_trans mayPrecede_total
      equalOrder List.filter_sublist).filter fun tier => decide (tier.tierOrder = order)
    rw [List.filter_filter] at sublist
    simp only [Bool.and_self] at sublist
    exact (sublist.eq_of_length perm.length_eq.symm).symm

/-- A rule with the question that it belongs to. -/
structure PlacedRule where
  questionId : String
  rule : Rule

/-- Every rule of the document, in the order of evaluation. -/
def Questionnaire.rulesInOrder (document : Questionnaire) : List PlacedRule :=
  document.questionsInOrder.flatMap fun (_, question) =>
    question.eliminationRules.map fun rule => ⟨question.questionId, rule⟩

namespace PlacedRule

/-- Whether the question is answered and the condition holds of the answer. -/
def fires (answers : AnswerSheet) (placed : PlacedRule) : Bool :=
  (answers.get? placed.questionId).any fun answer =>
    (Condition.parse placed.rule.condition).holds answer.value

/-- Whether the rule fires and has the scholarship among its targets. -/
def claims (answers : AnswerSheet) (placed : PlacedRule) (id : String) : Bool :=
  placed.fires answers && placed.rule.targets id

/-- What the rule makes of a tally under the answers. -/
def actOn (answers : AnswerSheet) (tally : Tally) (placed : PlacedRule) : Tally :=
  if placed.fires answers then tally.act placed.rule placed.questionId else tally

end PlacedRule

/-- The rules of one question, applied to the answer that is recorded for it. -/
theorem Tally.foldl_actOn_question (answers : AnswerSheet) (tierId : String) (question : Question)
    (tally : Tally) :
    (question.eliminationRules.map (PlacedRule.mk question.questionId)).foldl
        (PlacedRule.actOn answers) tally =
      match answers.get? question.questionId with
      | none => tally
      | some answer =>
          tally.apply (ReadQuestion.ofQuestion tierId question).rules question.questionId
            answer.value := by
  simp only [ReadQuestion.ofQuestion]
  generalize question.eliminationRules = rules
  induction rules generalizing tally with
  | nil => cases answers.get? question.questionId <;> rfl
  | cons rule rules ih =>
      rw [List.map_cons, List.foldl_cons, ih]
      cases answered : answers.get? question.questionId with
      | none => simp [PlacedRule.actOn, PlacedRule.fires, answered]
      | some answer =>
          simp only [PlacedRule.actOn, PlacedRule.fires, answered, Option.any_some]
          rfl

/-- The tally of an answer sheet, as one pass over all rules of the document. -/
theorem Tally.ofAnswers_eq_foldl {document : Questionnaire} {catalog : Catalog}
    (accepted : Catalog.ofQuestionnaire document = .ok catalog) (answers : AnswerSheet) :
    ofAnswers catalog answers =
      document.rulesInOrder.foldl (PlacedRule.actOn answers)
        (allEligible document.scholarshipIds) := by
  rw [ofAnswers, Catalog.questions_eq accepted, Catalog.scholarshipIds_eq accepted,
    List.foldl_filter, List.foldl_map, Questionnaire.rulesInOrder, List.foldl_flatMap]
  congr 1
  funext tally (tierId, question)
  rw [Tally.foldl_actOn_question answers tierId]
  by_cases bearing : (ReadQuestion.ofQuestion tierId question).hasRules
  · rw [if_pos bearing]
    rfl
  · have none' : (ReadQuestion.ofQuestion tierId question).rules = [] := by
      simpa [ReadQuestion.hasRules] using bearing
    rw [if_neg bearing, none']
    cases answers.get? question.questionId <;> rfl

/-! ## The law -/

/-- The position of the first rule that claims a scholarship. -/
def firstClaim (answers : AnswerSheet) (rules : List PlacedRule) (id : String) : Nat :=
  rules.findIdx (·.claims answers id)

/-- Whether a scholarship is logged before another: it is claimed by an earlier rule, or
by the same rule and comes first in its roll. -/
def LoggedBefore (answers : AnswerSheet) (registry : List String) (rules : List PlacedRule)
    (first second : String) : Prop :=
  firstClaim answers rules first < firstClaim answers rules second ∨
    (firstClaim answers rules first = firstClaim answers rules second ∧
      ∃ placed, rules[firstClaim answers rules first]? = some placed ∧
        (placed.rule.roll registry).idxOf first < (placed.rule.roll registry).idxOf second)

/-- The tally is what the rules leave of the registry under the answers. -/
structure Attributed (answers : AnswerSheet) (registry : List String) (rules : List PlacedRule)
    (tally : Tally) : Prop where
  /-- Eligible is who is claimed by no rule. -/
  eligible : tally.eligible = registry.filter fun id => !rules.any (·.claims answers id)
  /-- Logged is who is claimed by some rule, -/
  logged : ∀ id, id ∈ tally.eliminated.map (·.scholarshipId) ↔
    id ∈ registry ∧ rules.any (·.claims answers id)
  /-- and nobody twice. -/
  once : (tally.eliminated.map (·.scholarshipId)).Nodup
  /-- Each entry names the first rule that claims the scholarship. -/
  first : ∀ entry ∈ tally.eliminated, ∃ placed,
    rules.find? (·.claims answers entry.scholarshipId) = some placed ∧
      entry.reason = placed.rule.eliminationMessage ∧ entry.questionId = placed.questionId
  ordered : tally.eliminated.Pairwise fun before after =>
    LoggedBefore answers registry rules before.scholarshipId after.scholarshipId

/-- The roll of a rule over some of the registry keeps the order of its roll over all. -/
theorem Rule.exists_roll_filter (rule : Rule) (registry : List String) (p : String → Bool) :
    ∃ q, rule.roll (registry.filter p) = (rule.roll registry).filter q := by
  cases action : rule.action with
  | eliminate => exact ⟨fun _ => true, by simp [roll, action]⟩
  | keepOnly | eliminateAll | addPreference | unknown => exact ⟨p, by simp [roll, action]⟩

namespace PlacedRule

variable {answers : AnswerSheet} {registry : List String} {tally : Tally}

theorem eligible_actOn (placed : PlacedRule) (tally : Tally) :
    (placed.actOn answers tally).eligible =
      tally.eligible.filter fun id => !placed.claims answers id := by
  by_cases fires : placed.fires answers
  · simp only [actOn, claims, fires, if_true, Bool.true_and]
    exact Tally.eligible_act placed.rule placed.questionId tally
  · simp [actOn, claims, fires]

/-- What one rule adds to the log of a tally over a registry. -/
theorem exists_eliminated_actOn (answers : AnswerSheet) {p : String → Bool}
    (eligible : tally.eligible = registry.filter p) (placed : PlacedRule) :
    ∃ new : List String,
      (placed.actOn answers tally).eliminated =
        tally.eliminated ++ new.map
          (fun id => ⟨id, placed.rule.eliminationMessage, placed.questionId⟩) ∧
      new.Nodup ∧
      (∀ id, id ∈ new ↔ (id ∈ tally.eligible ∧ placed.claims answers id) ∧ ¬ tally.isLogged id) ∧
      new.Pairwise fun first second =>
        (placed.rule.roll registry).idxOf first < (placed.rule.roll registry).idxOf second := by
  by_cases fires : placed.fires answers
  · refine ⟨((placed.rule.targetsAmong tally.eligible).filter
      fun id => !tally.isLogged id).eraseDups, ?_, Occurrence.nodup_eraseDups _, ?_, ?_⟩
    · rw [actOn, if_pos fires, Tally.eliminated_act]
    · intro id
      simp [Rule.mem_targetsAmong, claims, fires]
    · obtain ⟨q, roll⟩ := placed.rule.exists_roll_filter registry p
      rw [Rule.targetsAmong, eligible, roll, Occurrence.eraseDups_filter,
        Occurrence.eraseDups_filter, Occurrence.eraseDups_filter]
      exact (((Occurrence.eraseDups_pairwise_idxOf _).filter _).filter _).filter _
  · exact ⟨[], by simp [actOn, fires], List.nodup_nil, by simp [claims, fires], List.Pairwise.nil⟩

end PlacedRule

theorem firstClaim_lt_length {answers : AnswerSheet} {rules : List PlacedRule} {id : String} :
    firstClaim answers rules id < rules.length ↔ rules.any (·.claims answers id) := by
  rw [firstClaim, List.findIdx_lt_length, List.any_eq_true]

/-- A rule that comes later does not change who claimed first. -/
theorem firstClaim_append {answers : AnswerSheet} {rules : List PlacedRule} {id : String}
    (claimed : rules.any (·.claims answers id)) (later : List PlacedRule) :
    firstClaim answers (rules ++ later) id = firstClaim answers rules id := by
  have := firstClaim_lt_length.2 claimed
  rw [firstClaim] at this ⊢
  rw [List.findIdx_append, if_pos this, firstClaim]

/-- A scholarship that nobody claimed so far is claimed by the rule that comes next. -/
theorem firstClaim_append_of_unclaimed {answers : AnswerSheet} {rules : List PlacedRule}
    {id : String} {placed : PlacedRule} (unclaimed : ¬ rules.any (·.claims answers id))
    (claims : placed.claims answers id) :
    firstClaim answers (rules ++ [placed]) id = rules.length := by
  have := mt firstClaim_lt_length.1 unclaimed
  rw [firstClaim] at this ⊢
  rw [List.findIdx_append, if_neg this]
  simp [claims]

theorem LoggedBefore.append {answers : AnswerSheet} {registry : List String}
    {rules : List PlacedRule} {first second : String}
    (before : LoggedBefore answers registry rules first second)
    (claimed : rules.any (·.claims answers second)) (later : List PlacedRule) :
    LoggedBefore answers registry (rules ++ later) first second := by
  have right := firstClaim_lt_length.2 claimed
  have left : firstClaim answers rules first < rules.length := by
    rcases before with earlier | ⟨same, -⟩
    · exact Nat.lt_trans earlier right
    · exact same ▸ right
  unfold LoggedBefore
  rw [firstClaim_append claimed, firstClaim_append (firstClaim_lt_length.1 left),
    List.getElem?_append_left left]
  exact before

/-- Who was claimed so far is logged before who is claimed by the rule that comes next. -/
theorem loggedBefore_of_claimed {answers : AnswerSheet} {registry : List String}
    {rules : List PlacedRule} {placed : PlacedRule} {first second : String}
    (claimed : rules.any (·.claims answers first))
    (unclaimed : ¬ rules.any (·.claims answers second)) (claims : placed.claims answers second) :
    LoggedBefore answers registry (rules ++ [placed]) first second := by
  left
  rw [firstClaim_append claimed, firstClaim_append_of_unclaimed unclaimed claims]
  exact firstClaim_lt_length.2 claimed

/-- Of two that the rule that comes next claims first, its roll decides. -/
theorem loggedBefore_of_roll {answers : AnswerSheet} {registry : List String}
    {rules : List PlacedRule} {placed : PlacedRule} {first second : String}
    (left : firstClaim answers (rules ++ [placed]) first = rules.length)
    (right : firstClaim answers (rules ++ [placed]) second = rules.length)
    (before : (placed.rule.roll registry).idxOf first < (placed.rule.roll registry).idxOf second) :
    LoggedBefore answers registry (rules ++ [placed]) first second := by
  refine Or.inr ⟨left.trans right.symm, placed, ?_, before⟩
  rw [left, List.getElem?_append_right (Nat.le_refl _), Nat.sub_self]
  rfl

namespace Attributed

variable {answers : AnswerSheet} {registry : List String} {rules : List PlacedRule} {tally : Tally}

/-- Before any rule everybody is eligible. -/
theorem start (answers : AnswerSheet) (registry : List String) :
    Attributed answers registry [] (.allEligible registry) where
  eligible := by simp [Tally.allEligible]
  logged := by simp [Tally.allEligible]
  once := by simp [Tally.allEligible]
  first := by simp [Tally.allEligible]
  ordered := by simp [Tally.allEligible]

theorem not_logged (attributed : Attributed answers registry rules tally) {id : String}
    (eligible : id ∈ tally.eligible) : ¬ tally.isLogged id := by
  rw [attributed.eligible, List.mem_filter] at eligible
  rw [Tally.isLogged_iff, attributed.logged]
  simp_all

/-- One rule more.  It claims what nobody claimed before, and these entries go to the end
of the log; everything else about the log stays as it was. -/
theorem actOn (attributed : Attributed answers registry rules tally) (placed : PlacedRule) :
    Attributed answers registry (rules ++ [placed]) (placed.actOn answers tally) := by
  obtain ⟨new, log, nodup, member, ordered⟩ :=
    PlacedRule.exists_eliminated_actOn answers attributed.eligible placed
  have fresh (id : String) : id ∈ new ↔
      (id ∈ registry ∧ ¬ rules.any (·.claims answers id)) ∧ placed.claims answers id := by
    rw [member, and_iff_left_of_imp fun both => attributed.not_logged both.1, attributed.eligible,
      List.mem_filter, Bool.not_eq_true', Bool.not_eq_true]
  have ids : (placed.actOn answers tally).eliminated.map (·.scholarshipId) =
      tally.eliminated.map (·.scholarshipId) ++ new := by
    rw [log, List.map_append, List.map_map]
    simp [Function.comp_def]
  refine ⟨?eligible, ?logged, ?once, ?first, ?ordered⟩
  case eligible =>
    rw [PlacedRule.eligible_actOn, attributed.eligible, List.filter_filter]
    refine List.filter_congr fun id _ => ?_
    simp [Bool.and_comm]
  case logged =>
    intro id
    rw [ids, List.mem_append, attributed.logged, fresh, List.any_append]
    by_cases claimed : rules.any (·.claims answers id) <;> simp [claimed]
  case once =>
    rw [ids, List.nodup_append']
    refine ⟨attributed.once, nodup, fun id old member => ?_⟩
    exact ((fresh id).1 member).1.2 ((attributed.logged id).1 old).2
  case first =>
    intro entry member
    rw [log, List.mem_append] at member
    rcases member with old | added
    · obtain ⟨claimant, found, same⟩ := attributed.first entry old
      exact ⟨claimant, by rw [List.find?_append, found]; rfl, same⟩
    · obtain ⟨id, member, rfl⟩ := List.mem_map.1 added
      obtain ⟨⟨-, unclaimed⟩, claims⟩ := (fresh id).1 member
      refine ⟨placed, ?_, rfl, rfl⟩
      have none' : rules.find? (·.claims answers id) = none := by simpa using unclaimed
      rw [List.find?_append, none']
      simp [claims]
  case ordered =>
    rw [log, List.pairwise_append]
    have claimed : ∀ entry ∈ tally.eliminated, rules.any (·.claims answers entry.scholarshipId) :=
      fun entry member => ((attributed.logged _).1 (List.mem_map_of_mem member)).2
    refine ⟨?_, ?_, ?_⟩
    · exact attributed.ordered.imp_of_mem fun _ right before =>
        before.append (claimed _ right) [placed]
    · have here : ∀ id ∈ new, firstClaim answers (rules ++ [placed]) id = rules.length := by
        intro id member
        obtain ⟨⟨-, unclaimed⟩, claims⟩ := (fresh id).1 member
        exact firstClaim_append_of_unclaimed unclaimed claims
      rw [List.pairwise_map]
      exact ordered.imp_of_mem fun left right before =>
        loggedBefore_of_roll (here _ left) (here _ right) before
    · intro entry old other added
      obtain ⟨id, member, rfl⟩ := List.mem_map.1 added
      obtain ⟨⟨-, unclaimed⟩, claims⟩ := (fresh id).1 member
      exact loggedBefore_of_claimed (claimed entry old) unclaimed claims

/-- All the rules that follow. -/
theorem foldl (attributed : Attributed answers registry rules tally) (later : List PlacedRule) :
    Attributed answers registry (rules ++ later) (later.foldl (PlacedRule.actOn answers) tally) := by
  induction later generalizing rules tally with
  | nil => simpa using attributed
  | cons placed later ih => simpa using ih (attributed.actOn placed)

theorem mem_eligible (attributed : Attributed answers registry rules tally) {id : String} :
    id ∈ tally.eligible ↔ id ∈ registry ∧ ¬ rules.any (·.claims answers id) := by
  rw [attributed.eligible, List.mem_filter, Bool.not_eq_true', Bool.not_eq_true]

/-- The entries of the log, whatever their order: those of the registry, by the first rule
that claims them. -/
theorem mem_eliminated (attributed : Attributed answers registry rules tally)
    {entry : Elimination} :
    entry ∈ tally.eliminated ↔
      entry.scholarshipId ∈ registry ∧ ∃ placed,
        rules.find? (·.claims answers entry.scholarshipId) = some placed ∧
          entry.reason = placed.rule.eliminationMessage ∧ entry.questionId = placed.questionId := by
  constructor
  · intro member
    exact ⟨((attributed.logged _).1 (List.mem_map_of_mem member)).1, attributed.first entry member⟩
  · rintro ⟨known, placed, found, reason, question⟩
    have claimed : rules.any (·.claims answers entry.scholarshipId) :=
      List.any_eq_true.2 ⟨placed, List.mem_of_find?_eq_some found, by
        simpa using List.find?_some found⟩
    obtain ⟨other, member, same⟩ := List.mem_map.1 ((attributed.logged _).2 ⟨known, claimed⟩)
    obtain ⟨claimant, first, reason', question'⟩ := attributed.first other member
    rw [same, found, Option.some.injEq] at first
    have equal : other = entry := by
      cases other
      cases entry
      simp_all
    exact equal ▸ member

end Attributed

/-- The tally of an answer sheet is what all rules of the document leave. -/
theorem attributed_ofAnswers {document : Questionnaire} {catalog : Catalog}
    (accepted : Catalog.ofQuestionnaire document = .ok catalog) (answers : AnswerSheet) :
    Attributed answers document.scholarshipIds document.rulesInOrder
      (.ofAnswers catalog answers) := by
  rw [Tally.ofAnswers_eq_foldl accepted]
  exact (Attributed.start answers document.scholarshipIds).foldl document.rulesInOrder

/-- **Exact attribution.**  Under any answers, the tally of a document that loads is what
its rules leave, taken by tier order and else as they are written. -/
theorem ofAnswers_attributes_to_first_claim {document : Questionnaire} {catalog : Catalog}
    (accepted : Catalog.ofQuestionnaire document = .ok catalog) (answers : AnswerSheet) :
    Tier.StablySorted document.tiers (Tier.inOrder document.tiers) ∧
      Attributed answers document.scholarshipIds document.rulesInOrder
        (.ofAnswers catalog answers) :=
  ⟨Tier.stablySorted_inOrder document.tiers, attributed_ofAnswers accepted answers⟩

theorem sample_attributes_to_first_claim :
    Catalog.ofQuestionnaire Sample.document = .ok Sample.catalog ∧
      Tier.StablySorted Sample.document.tiers (Tier.inOrder Sample.document.tiers) ∧
      Attributed Sample.answers Sample.document.scholarshipIds Sample.document.rulesInOrder
        (.ofAnswers Sample.catalog Sample.answers) :=
  ⟨Sample.accepted, ofAnswers_attributes_to_first_claim Sample.accepted Sample.answers⟩

end Screening
