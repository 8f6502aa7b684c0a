/-
# Screening.Proofs.Combination -- answers combine independently

The rules of a question act on what the questions before it left, so the steps of one
tally depend on all the answers given earlier.  Who is out in the end does not.  Take two
answer sheets that answer different questions.  Under both together a rule claims a
scholarship exactly if it does so under one of them, and so

* eligible is who is eligible under each (`eligible_ofAnswers_union`);
* a scholarship that one sheet logs keeps its entry, and of two entries on one
  scholarship the one by the question that is asked first stands
  (`mem_eliminated_union_iff`).

Answering one more question can only take scholarships away.
-/
import Screening.Proofs.Attribution

namespace Screening

set_option autoImplicit false

/-! ## Two sheets as one -/

namespace Keyed

variable {α : Type}

/-- The entries of both maps; under a key that both have, those of the left one. -/
def union (left right : Keyed α) : Keyed α :=
  left.entries.foldl (fun map entry => map.insert entry.1 entry.2) right

/-- No key is in both maps. -/
def Disjoint (left right : Keyed α) : Prop :=
  ∀ key, left.get? key = none ∨ right.get? key = none

@[simp] theorem get?_union (left right : Keyed α) (key : String) :
    (left.union right).get? key = (left.get? key).or (right.get? key) := by
  rw [union, get?_foldl_insert, find_reverse left.ascending]
  rfl

theorem Disjoint.symm {left right : Keyed α} (disjoint : left.Disjoint right) :
    right.Disjoint left :=
  fun key => (disjoint key).symm

theorem Disjoint.union_comm {left right : Keyed α} (disjoint : left.Disjoint right) :
    left.union right = right.union left := by
  ext1 key
  rw [get?_union, get?_union]
  rcases disjoint key with absent | absent <;> rw [absent] <;> simp

end Keyed

namespace PlacedRule

variable {left right : AnswerSheet} (disjoint : left.Disjoint right)

include disjoint

/-- A rule claims under both sheets what it claims under the one that answers its
question. -/
theorem claims_union (placed : PlacedRule) (id : String) :
    placed.claims (left.union right) id = (placed.claims left id || placed.claims right id) := by
  simp only [claims, fires, Keyed.get?_union]
  rcases disjoint placed.questionId with absent | absent <;> rw [absent] <;> simp

theorem any_claims_union (rules : List PlacedRule) (id : String) :
    rules.any (·.claims (left.union right) id) =
      (rules.any (·.claims left id) || rules.any (·.claims right id)) := by
  rw [Bool.eq_iff_iff]
  simp only [claims_union disjoint, Bool.or_eq_true, List.any_eq_true, and_or_left, exists_or]

/-- Rules that claim something under either sheet are of different questions. -/
theorem questionId_ne_of_claims {first second : PlacedRule} {id other : String}
    (claims : first.claims left id) (claims' : second.claims right other) :
    first.questionId ≠ second.questionId := by
  intro same
  simp only [PlacedRule.claims, fires, Bool.and_eq_true, Option.any_eq_true] at claims claims'
  obtain ⟨⟨_, answered, -⟩, -⟩ := claims
  obtain ⟨⟨_, answered', -⟩, -⟩ := claims'
  rw [← same] at answered'
  rcases disjoint first.questionId with absent | absent <;> simp_all

/-- A rule that is the first to claim under both sheets, and claims under the left one, is
the first to claim under it. -/
theorem find?_claims_left {rules : List PlacedRule} {placed : PlacedRule} {id : String}
    (found : rules.find? (·.claims (left.union right) id) = some placed)
    (claims : placed.claims left id) : rules.find? (·.claims left id) = some placed := by
  obtain ⟨-, before, after, split, unclaimed⟩ := List.find?_eq_some_iff_append.1 found
  refine List.find?_eq_some_iff_append.2 ⟨claims, before, after, split, fun rule member => ?_⟩
  have neither := unclaimed rule member
  rw [claims_union disjoint] at neither
  simp_all

end PlacedRule

/-! ## Which question comes first -/

/-- Whether a question is asked, and evaluated, before another. -/
def Catalog.AsksBefore (catalog : Catalog) (first second : String) : Prop :=
  (catalog.questions.map (·.questionId)).idxOf first <
    (catalog.questions.map (·.questionId)).idxOf second

variable {document : Questionnaire} {catalog : Catalog}

theorem Questionnaire.questionsInOrder_pairwise
    (accepted : Catalog.ofQuestionnaire document = .ok catalog) :
    document.questionsInOrder.Pairwise fun first second =>
      catalog.AsksBefore first.2.questionId second.2.questionId := by
  have ascending := Occurrence.pairwise_idxOf (Catalog.questionIds_nodup accepted)
  have ids : catalog.questions.map (·.questionId) =
      document.questionsInOrder.map (·.2.questionId) := by
    rw [Catalog.questions_eq accepted, List.map_map]
    rfl
  rw [ids, List.pairwise_map] at ascending
  unfold Catalog.AsksBefore
  rwa [ids]

/-- Of two rules the earlier one is of the same question, or of one that is asked before. -/
theorem Questionnaire.rulesInOrder_pairwise
    (accepted : Catalog.ofQuestionnaire document = .ok catalog) :
    document.rulesInOrder.Pairwise fun earlier later =>
      earlier.questionId = later.questionId ∨
        catalog.AsksBefore earlier.questionId later.questionId := by
  rw [rulesInOrder, List.pairwise_flatMap]
  constructor
  · rintro ⟨tierId, question⟩ -
    rw [List.pairwise_map]
    exact List.pairwise_of_forall fun _ _ => .inl rfl
  · refine (questionsInOrder_pairwise accepted).imp ?_
    intro first second before earlier earlier_in later later_in
    obtain ⟨_, -, rfl⟩ := List.mem_map.1 earlier_in
    obtain ⟨_, -, rfl⟩ := List.mem_map.1 later_in
    exact .inr before

/-! ## Who is left, and which entry stands -/

/-- The entry is in a log, and whatever the other log has on its scholarship is by a
question that is asked later. -/
structure Prevails (catalog : Catalog) (tally other : Tally) (entry : Elimination) : Prop where
  logged : entry ∈ tally.eliminated
  first : ∀ rival ∈ other.eliminated, rival.scholarshipId = entry.scholarshipId →
    catalog.AsksBefore entry.questionId rival.questionId

section Union

variable (accepted : Catalog.ofQuestionnaire document = .ok catalog)
  {left right : AnswerSheet} (disjoint : left.Disjoint right)

include accepted disjoint

theorem eligible_ofAnswers_union :
    (Tally.ofAnswers catalog (left.union right)).eligible =
      document.scholarshipIds.filter fun id =>
        (Tally.ofAnswers catalog left).eligible.contains id &&
          (Tally.ofAnswers catalog right).eligible.contains id := by
  rw [(attributed_ofAnswers accepted (left.union right)).eligible]
  refine List.filter_congr fun id known => ?_
  rw [PlacedRule.any_claims_union disjoint, Bool.eq_iff_iff]
  simp only [Bool.not_eq_true', Bool.or_eq_false_iff, Bool.and_eq_true, List.contains_iff_mem,
    (attributed_ofAnswers accepted left).mem_eligible,
    (attributed_ofAnswers accepted right).mem_eligible, known, true_and, Bool.not_eq_true]

theorem eligible_ofAnswers_union_sublist :
    (Tally.ofAnswers catalog (left.union right)).eligible.Sublist
      (Tally.ofAnswers catalog left).eligible := by
  rw [(attributed_ofAnswers accepted _).eligible, (attributed_ofAnswers accepted _).eligible]
  refine List.monotone_filter_right _ fun id unclaimed => ?_
  rw [PlacedRule.any_claims_union disjoint] at unclaimed
  simp_all

/-- A rule that is the first to claim under both sheets, and claims under the left one, is of
a question that is asked before that of any rule that claims under the right one. -/
theorem asksBefore_of_first_claim {placed other : PlacedRule} {id : String}
    (found : document.rulesInOrder.find? (·.claims (left.union right) id) = some placed)
    (claims : placed.claims left id) (member : other ∈ document.rulesInOrder)
    (claims' : other.claims right id) :
    catalog.AsksBefore placed.questionId other.questionId := by
  obtain ⟨-, before, after, rules, unclaimed⟩ := List.find?_eq_some_iff_append.1 found
  have ordered := Questionnaire.rulesInOrder_pairwise accepted
  rw [rules, List.pairwise_append, List.pairwise_cons] at ordered
  obtain ⟨-, ⟨follows, -⟩, -⟩ := ordered
  have apart := PlacedRule.questionId_ne_of_claims disjoint claims claims'
  rw [rules, List.mem_append, List.mem_cons] at member
  rcases member with earlier | rfl | later
  · have neither := unclaimed other earlier
    simp [PlacedRule.claims_union disjoint, claims'] at neither
  · exact absurd rfl apart
  · exact (follows other later).resolve_left apart

/-- Whom a rule claims first under both sheets, it claims first under the sheet that answers
its question, and before any rule that claims the scholarship under the other. -/
theorem prevails_of_claims {entry : Elimination} {placed : PlacedRule}
    (known : entry.scholarshipId ∈ document.scholarshipIds)
    (found : document.rulesInOrder.find? (·.claims (left.union right) entry.scholarshipId) =
      some placed)
    (reason : entry.reason = placed.rule.eliminationMessage)
    (question : entry.questionId = placed.questionId)
    (claims : placed.claims left entry.scholarshipId) :
    Prevails catalog (.ofAnswers catalog left) (.ofAnswers catalog right) entry := by
  refine ⟨?logged, ?first⟩
  case logged =>
    have foundLeft := PlacedRule.find?_claims_left disjoint found claims
    exact (attributed_ofAnswers accepted left).mem_eliminated.2
      ⟨known, placed, foundLeft, reason, question⟩
  case first =>
    intro rival member same
    obtain ⟨-, other, foundRight, -, asked⟩ :=
      (attributed_ofAnswers accepted right).mem_eliminated.1 member
    rw [same] at foundRight
    rw [question, asked]
    refine asksBefore_of_first_claim accepted disjoint found claims
      (List.mem_of_find?_eq_some foundRight) ?_
    simpa using List.find?_some foundRight

/-- Whatever is logged under both sheets prevails in the log of one of them. -/
theorem prevails_of_mem_union {entry : Elimination}
    (member : entry ∈ (Tally.ofAnswers catalog (left.union right)).eliminated) :
    Prevails catalog (.ofAnswers catalog left) (.ofAnswers catalog right) entry ∨
      Prevails catalog (.ofAnswers catalog right) (.ofAnswers catalog left) entry := by
  obtain ⟨known, placed, found, reason, question⟩ :=
    (attributed_ofAnswers accepted (left.union right)).mem_eliminated.1 member
  have claims : placed.claims (left.union right) entry.scholarshipId := by
    simpa using List.find?_some found
  rw [PlacedRule.claims_union disjoint, Bool.or_eq_true] at claims
  rcases claims with claims | claims
  · exact .inl (prevails_of_claims accepted disjoint known found reason question claims)
  · rw [disjoint.union_comm] at found
    exact .inr (prevails_of_claims accepted disjoint.symm known found reason question claims)

/-- Under both sheets those are logged whom one of them logs. -/
theorem mem_loggedIds_union_iff {id : String} :
    id ∈ (Tally.ofAnswers catalog (left.union right)).eliminated.map (·.scholarshipId) ↔
      id ∈ (Tally.ofAnswers catalog left).eliminated.map (·.scholarshipId) ∨
        id ∈ (Tally.ofAnswers catalog right).eliminated.map (·.scholarshipId) := by
  simp only [(attributed_ofAnswers accepted _).logged, PlacedRule.any_claims_union disjoint,
    Bool.or_eq_true, and_or_left]

/-- An entry of one log that prevails over the other is the one that stands. -/
theorem Prevails.mem_union {entry : Elimination}
    (prevails : Prevails catalog (.ofAnswers catalog left) (.ofAnswers catalog right) entry) :
    entry ∈ (Tally.ofAnswers catalog (left.union right)).eliminated := by
  have logged := (mem_loggedIds_union_iff accepted disjoint).2
    (.inl (List.mem_map_of_mem prevails.logged))
  obtain ⟨stands, member, same⟩ := List.mem_map.1 logged
  rcases prevails_of_mem_union accepted disjoint member with ours | theirs
  · have equal := List.inj_on_of_nodup_map (attributed_ofAnswers accepted left).once
      ours.logged prevails.logged same
    exact equal ▸ member
  · have before := prevails.first stands theirs.logged same
    have after := theirs.first entry prevails.logged same.symm
    exact absurd before (Nat.lt_asymm after)

theorem mem_eliminated_union_iff {entry : Elimination} :
    entry ∈ (Tally.ofAnswers catalog (left.union right)).eliminated ↔
      Prevails catalog (.ofAnswers catalog left) (.ofAnswers catalog right) entry ∨
        Prevails catalog (.ofAnswers catalog right) (.ofAnswers catalog left) entry := by
  refine ⟨prevails_of_mem_union accepted disjoint, ?_⟩
  rintro (ours | theirs)
  · exact ours.mem_union accepted disjoint
  · rw [disjoint.union_comm]
    exact theirs.mem_union accepted disjoint.symm

end Union

/-- **Answers combine independently.**  Under two sheets that answer different questions,
eligible is, in the order of the registry, who is eligible under each; so further answers
bring nobody back.  Logged is whom one of them logs, with the entry it has there, and where
both have one, with the entry by the question that is asked first. -/
theorem answers_combine_independently
    (accepted : Catalog.ofQuestionnaire document = .ok catalog) {left right : AnswerSheet}
    (disjoint : left.Disjoint right) :
    (Tally.ofAnswers catalog (left.union right)).eligible =
        (document.scholarshipIds.filter fun id =>
          (Tally.ofAnswers catalog left).eligible.contains id &&
            (Tally.ofAnswers catalog right).eligible.contains id) ∧
      (Tally.ofAnswers catalog (left.union right)).eligible.Sublist
        (Tally.ofAnswers catalog left).eligible ∧
      (∀ id, id ∈ (Tally.ofAnswers catalog (left.union right)).eliminated.map (·.scholarshipId) ↔
        id ∈ (Tally.ofAnswers catalog left).eliminated.map (·.scholarshipId) ∨
          id ∈ (Tally.ofAnswers catalog right).eliminated.map (·.scholarshipId)) ∧
      ∀ entry, entry ∈ (Tally.ofAnswers catalog (left.union right)).eliminated ↔
        Prevails catalog (.ofAnswers catalog left) (.ofAnswers catalog right) entry ∨
          Prevails catalog (.ofAnswers catalog right) (.ofAnswers catalog left) entry :=
  ⟨eligible_ofAnswers_union accepted disjoint, eligible_ofAnswers_union_sublist accepted disjoint,
    fun _ => mem_loggedIds_union_iff accepted disjoint,
    fun _ => mem_eliminated_union_iff accepted disjoint⟩

namespace Sample

def enrolment : AnswerSheet :=
  .ofList [("enrolled", { questionId := "enrolled", value := .single "no" })]

def interests : AnswerSheet :=
  .ofList [("interests", { questionId := "interests", value := .multiple ["music"] })]

theorem enrolment_disjoint_interests : enrolment.Disjoint interests := by
  intro id
  by_cases here : "enrolled" = id
  · subst here
    exact .inr rfl
  · exact .inl (by simp [enrolment, Keyed.get?_ofList, Keyed.find, here])

theorem eliminated_enrolment : (Tally.ofAnswers Sample.catalog enrolment).eliminated =
    [⟨"B", "Enrolment required", "enrolled"⟩] := by
  simp only [Tally.ofAnswers, Catalog.questions, Sample.catalog, inOrder_tiers]
  decide +kernel

theorem eliminated_interests : (Tally.ofAnswers Sample.catalog interests).eliminated =
    [⟨"A", "Arts only", "interests"⟩, ⟨"B", "Arts only", "interests"⟩] := by
  simp only [Tally.ofAnswers, Catalog.questions, Sample.catalog, inOrder_tiers]
  decide +kernel

theorem asksBefore_interests : Sample.catalog.AsksBefore "enrolled" "interests" := by
  simp only [Catalog.AsksBefore, Catalog.questions, Sample.catalog, inOrder_tiers]
  decide

end Sample

/-- Both answers put one scholarship out.  The question that is asked first has the entry,
though its tier is written last. -/
theorem sample_answers_combine_independently :
    Catalog.ofQuestionnaire Sample.document = .ok Sample.catalog ∧
      Sample.enrolment.Disjoint Sample.interests ∧
      ⟨"B", "Arts only", "interests"⟩ ∈
        (Tally.ofAnswers Sample.catalog Sample.interests).eliminated ∧
      ⟨"B", "Enrolment required", "enrolled"⟩ ∈
        (Tally.ofAnswers Sample.catalog (Sample.enrolment.union Sample.interests)).eliminated := by
  obtain ⟨-, -, -, stands⟩ :=
    answers_combine_independently Sample.accepted Sample.enrolment_disjoint_interests
  refine ⟨Sample.accepted, Sample.enrolment_disjoint_interests, ?_, (stands _).2 (.inl ⟨?_, ?_⟩)⟩
  · simp [Sample.eliminated_interests]
  · simp [Sample.eliminated_enrolment]
  · intro rival member _
    have question : rival.questionId = "interests" := by
      simp only [Sample.eliminated_interests, List.mem_cons, List.not_mem_nil, or_false] at member
      rcases member with rfl | rfl <;> rfl
    rw [question]
    exact Sample.asksBefore_interests

end Screening
