/-
# Screening.Proofs.DanglingReferences -- mentions of scholarships outside the registry

A rule may mention a scholarship that the registry does not have.  Loading notes every such
mention and does not refuse the document, as the mention is inert: an applicant is eligible for
scholarships of the registry only, so a rule has no target outside it, and whoever is in the
registry is a target of the rule with the mentions exactly if it is one without them.  What must
not happen is that a list goes with its last mention.  A rule that keeps nobody drops everybody,
and a rule without a list of whom to keep does nothing, so a list that was there stays there
(`Rule.restrictTo`).

* `Rule.targetsAmong_restrictTo`: what a rule eliminates of eligible ids from the registry;
* `PlacedRule.actOn_restrictTo`: the step of one rule, over a tally within the registry;
* `PlacedRule.foldl_actOn_restrictTo`: the run of all rules, none of which leads out of it;
* `dangling_references_inert`: what is noted, and that nothing changes without it.
-/
import Screening.Proofs.Layout

namespace Screening

set_option autoImplicit false

/-! ## Taking mentions out of a document -/

namespace Rule

/-- The lists of the rule, one after the other; a list that is missing mentions nobody. -/
def lists (rule : Rule) : List (Option (List String)) :=
  [rule.eliminatedScholarships, rule.keptScholarships, rule.preferredScholarships]

/-- The rule without its mentions of scholarships outside the registry.  A list that is there
stays there, also if nothing is left of it. -/
def restrictTo (registry : List String) (rule : Rule) : Rule :=
  { rule with
    eliminatedScholarships := rule.eliminatedScholarships.map fun list => list.filter (· ∈ registry)
    keptScholarships := rule.keptScholarships.map fun list => list.filter (· ∈ registry)
    preferredScholarships := rule.preferredScholarships.map fun list => list.filter (· ∈ registry) }

theorem references_eq (rule : Rule) : rule.references = rule.lists.flatMap (·.getD []) := by
  simp [references, lists]

theorem getD_map_filter (list : Option (List String)) (p : String → Bool) :
    (list.map (·.filter p)).getD [] = (list.getD []).filter p := by
  cases list <;> rfl

theorem references_restrictTo (registry : List String) (rule : Rule) :
    (rule.restrictTo registry).references = rule.references.filter (· ∈ registry) := by
  simp only [references, restrictTo, getD_map_filter, List.filter_append]

variable {registry : List String}

/-- Of the registry, the same scholarships are targets. -/
theorem targets_restrictTo (rule : Rule) {id : String} (registered : id ∈ registry) :
    (rule.restrictTo registry).targets id = rule.targets id := by
  have kept (list : List String) : (list.filter (· ∈ registry)).contains id =
      list.contains id := by
    rw [Bool.eq_iff_iff]
    simp [registered]
  cases action : rule.action with
  | eliminateAll | addPreference | unknown => simp [targets, restrictTo, action]
  | eliminate => simp only [targets, restrictTo, action, getD_map_filter, kept]
  | keepOnly => simp only [targets, restrictTo, action, Option.any_map, kept]

/-- Of eligible ids from the registry, the same ones are eliminated, in the same order. -/
theorem targetsAmong_restrictTo (rule : Rule) {eligible : List String}
    (within : eligible ⊆ registry) :
    (rule.restrictTo registry).targetsAmong eligible = rule.targetsAmong eligible := by
  have same (id : String) : (eligible.contains id && (rule.restrictTo registry).targets id) =
      (eligible.contains id && rule.targets id) := by
    by_cases member : id ∈ eligible
    · rw [targets_restrictTo rule (within member)]
    · simp [member]
  simp only [targetsAmong, same]
  cases action : rule.action with
  | keepOnly | eliminateAll | addPreference | unknown => simp [roll, restrictTo, action]
  | eliminate =>
      -- the ids that the roll has lost are not eligible
      simp only [roll, restrictTo, action, getD_map_filter, List.filter_filter]
      refine List.filter_congr fun id _ => ?_
      by_cases member : id ∈ eligible
      · simp [member, within member]
      · simp [member]

end Rule

/-- What a rule makes of a tally within the registry. -/
theorem Tally.act_restrictTo {registry : List String} {tally : Tally}
    (within : tally.eligible ⊆ registry) (rule : Rule) (questionId : String) :
    tally.act (rule.restrictTo registry) questionId = tally.act rule questionId := by
  rw [act_eq_foldl, act_eq_foldl, rule.targetsAmong_restrictTo within]
  rfl

def Question.restrictTo (registry : List String) (question : Question) : Question :=
  { question with eliminationRules := question.eliminationRules.map (·.restrictTo registry) }

def Tier.restrictTo (registry : List String) (tier : Tier) : Tier :=
  { tier with questions := tier.questions.map (·.restrictTo registry) }

def PlacedRule.restrictTo (registry : List String) (placed : PlacedRule) : PlacedRule :=
  { placed with rule := placed.rule.restrictTo registry }

namespace Questionnaire

variable (document : Questionnaire)

/-- The document without its mentions of scholarships outside its registry. -/
def withoutDangling : Questionnaire :=
  { document with tiers := document.tiers.map (·.restrictTo document.scholarshipIds) }

/-- Every mention of a scholarship, in the order of evaluation: over the rules in order, each with
the ids of its lists. -/
def mentions : List (PlacedRule × String) :=
  document.rulesInOrder.flatMap fun placed =>
    (placed.rule.lists.flatMap (·.getD [])).map fun id => (placed, id)

theorem inOrder_withoutDangling :
    Tier.inOrder document.withoutDangling.tiers =
      (Tier.inOrder document.tiers).map (·.restrictTo document.scholarshipIds) :=
  (List.map_mergeSort (f := Tier.restrictTo document.scholarshipIds) fun _ _ _ _ => rfl).symm

theorem declarations_withoutDangling :
    document.withoutDangling.declarations = document.declarations := by
  rw [declarations, inOrder_withoutDangling, List.flatMap_map, declarations]
  simp only [Tier.restrictTo, List.map_map]
  rfl

theorem questionsInOrder_withoutDangling :
    document.withoutDangling.questionsInOrder =
      document.questionsInOrder.map fun (tierId, question) =>
        (tierId, question.restrictTo document.scholarshipIds) := by
  rw [questionsInOrder, inOrder_withoutDangling, questionsInOrder, List.flatMap_map,
    List.map_flatMap]
  refine List.flatMap_congr fun tier _ => ?_
  rw [Tier.restrictTo, List.map_map, List.map_map]
  rfl

theorem rulesInOrder_withoutDangling :
    document.withoutDangling.rulesInOrder =
      document.rulesInOrder.map (·.restrictTo document.scholarshipIds) := by
  rw [rulesInOrder, questionsInOrder_withoutDangling, rulesInOrder, List.flatMap_map,
    List.map_flatMap]
  refine List.flatMap_congr ?_
  rintro ⟨tierId, question⟩ -
  simp only [Question.restrictTo, List.map_map]
  rfl

/-- What is left are the mentions of scholarships of the registry. -/
theorem mentions_withoutDangling :
    document.withoutDangling.mentions =
      (document.mentions.filter fun mention => mention.2 ∈ document.scholarshipIds).map
        fun (placed, id) => (placed.restrictTo document.scholarshipIds, id) := by
  rw [mentions, rulesInOrder_withoutDangling, mentions, List.flatMap_map, List.filter_flatMap,
    List.map_flatMap]
  refine List.flatMap_congr fun placed _ => ?_
  rw [List.filter_map, List.map_map, PlacedRule.restrictTo, ← Rule.references_eq,
    ← Rule.references_eq, Rule.references_restrictTo]
  rfl

end Questionnaire

/-! ## The state without them -/

namespace PlacedRule

variable {answers : AnswerSheet} {registry : List String} {tally : Tally}

/-- What a rule makes of a tally within the registry, under the answers. -/
theorem actOn_restrictTo (within : tally.eligible ⊆ registry) (placed : PlacedRule) :
    (placed.restrictTo registry).actOn answers tally = placed.actOn answers tally := by
  show (if placed.fires answers then
      tally.act (placed.rule.restrictTo registry) placed.questionId else tally) = _
  rw [Tally.act_restrictTo within]
  rfl

/-- What rules make of it one after the other; no rule leads out of the registry. -/
theorem foldl_actOn_restrictTo (within : tally.eligible ⊆ registry) (rules : List PlacedRule) :
    (rules.map (·.restrictTo registry)).foldl (actOn answers) tally =
      rules.foldl (actOn answers) tally := by
  induction rules generalizing tally with
  | nil => rfl
  | cons placed rules ih =>
      have within' : (placed.actOn answers tally).eligible ⊆ registry := by
        rw [eligible_actOn]
        exact List.Subset.trans (List.filter_subset_self _) within
      rw [List.map_cons, List.foldl_cons, List.foldl_cons, actOn_restrictTo within, ih within']

end PlacedRule

/-- Two catalogs of a document, with and without its dangling mentions, give the same states. -/
theorem Eligibility.ofAnswers_withoutDangling {document : Questionnaire} {catalog cleared : Catalog}
    (accepted : Catalog.ofQuestionnaire document = .ok catalog)
    (accepted' : Catalog.ofQuestionnaire document.withoutDangling = .ok cleared)
    (answers : AnswerSheet) : ofAnswers cleared answers = ofAnswers catalog answers := by
  have tallies : Tally.ofAnswers cleared answers = Tally.ofAnswers catalog answers := by
    rw [Tally.ofAnswers_eq_foldl accepted', Tally.ofAnswers_eq_foldl accepted,
      document.rulesInOrder_withoutDangling]
    exact PlacedRule.foldl_actOn_restrictTo (List.Subset.refl _) document.rulesInOrder
  rw [ofAnswers, ofAnswers, tallies]

/-- The dangling references that are noted are the mentions of scholarships that the registry does
not have. -/
theorem Layout.Built.dangling_eq_mentions {document : Questionnaire} {layout : Layout}
    (built : Built document layout) :
    layout.dangling.toList =
      (document.mentions.filter fun mention => mention.2 ∉ document.scholarshipIds).map
        fun (placed, id) => ⟨placed.rule.ruleId, placed.questionId, id⟩ := by
  obtain ⟨registry, knows, dangling⟩ := built.dangling
  have known (id : String) : (!registry.contains id) = decide (id ∉ document.scholarshipIds) := by
    rw [Bool.eq_iff_iff, Bool.not_eq_true', decide_eq_true_iff, ← knows, Bool.not_eq_true]
  rw [dangling, Questionnaire.mentions, Questionnaire.rulesInOrder, List.flatMap_assoc,
    List.filter_flatMap, List.map_flatMap]
  refine List.flatMap_congr ?_
  rintro ⟨tierId, question⟩ -
  rw [List.flatMap_map, List.filter_flatMap, List.map_flatMap]
  refine List.flatMap_congr fun rule _ => ?_
  rw [List.filter_map, List.map_map, ← Rule.references_eq]
  simp only [known]
  rfl

/-- **Dangling references are noted, and inert.**  Of every document that loads, one is noted for
each mention of a scholarship that the registry does not have, in the order of evaluation of the
questions, then of the rules, then of the lists of the rule, with repeats.  The document that is
left when these mentions are taken out of its lists has the others and loads without any dangling
reference, and under all answers its state is the same. -/
theorem dangling_references_inert {document : Questionnaire} {layout : Layout}
    (loaded : Layout.ofQuestionnaire document = .ok layout) :
    Tier.StablySorted document.tiers (Tier.inOrder document.tiers) ∧
      layout.dangling.toList =
        (document.mentions.filter fun mention => mention.2 ∉ document.scholarshipIds).map
          (fun (placed, id) => ⟨placed.rule.ruleId, placed.questionId, id⟩) ∧
      document.withoutDangling.mentions =
        (document.mentions.filter fun mention => mention.2 ∈ document.scholarshipIds).map
          (fun (placed, id) => (placed.restrictTo document.scholarshipIds, id)) ∧
      ∃ cleared, Layout.ofQuestionnaire document.withoutDangling = .ok cleared ∧
        cleared.dangling = #[] ∧
        ∀ answers, Eligibility.ofAnswers cleared.catalog answers =
          Eligibility.ofAnswers layout.catalog answers := by
  obtain ⟨distinct, built⟩ := Layout.built_of_ok loaded
  obtain ⟨cleared, loaded', built'⟩ : ∃ cleared,
      Layout.ofQuestionnaire document.withoutDangling = .ok cleared ∧
        Layout.Built document.withoutDangling cleared :=
    Layout.exists_built (by rwa [document.declarations_withoutDangling])
  refine ⟨Tier.stablySorted_inOrder document.tiers, built.dangling_eq_mentions,
    document.mentions_withoutDangling, cleared, loaded', ?none, ?same⟩
  case none =>
    rw [← Array.toList_eq_nil_iff, built'.dangling_eq_mentions, List.map_eq_nil_iff,
      List.filter_eq_nil_iff]
    intro mention left
    rw [document.mentions_withoutDangling] at left
    obtain ⟨mention, kept, rfl⟩ := List.mem_map.1 left
    have registered : mention.2 ∈ document.scholarshipIds :=
      of_decide_eq_true (List.mem_filter.1 kept).2
    rw [decide_eq_true_iff, not_not]
    exact registered
  case same =>
    exact Eligibility.ofAnswers_withoutDangling (built.catalog_eq distinct)
      (built'.catalog_eq (by rwa [document.declarations_withoutDangling]))

namespace Sample

/-- A rule all of whose lists mention scholarships that the registry does not have. -/
def strayRule : Rule where
  ruleId := "R1"
  condition := "value == 'no'"
  action := .eliminate
  eliminatedScholarships := some ["Z", "B", "Z"]
  keptScholarships := some ["Y"]
  preferredScholarships := some ["A", "Z"]

/-- A rule that keeps only a scholarship that the registry does not have. -/
def strictRule : Rule where
  ruleId := "R2"
  condition := "!selectedValues.includes('arts')"
  action := .keepOnly
  keptScholarships := some ["Y"]

def careless : Questionnaire where
  scholarships := document.scholarships
  tiers := [
    { tierId := "late", tierOrder := 2, questions := [
        { questionId := "interests", questionType := .multipleChoice
          eliminationRules := [strictRule] }] },
    { tierId := "early", tierOrder := 1, questions := [
        { questionId := "enrolled", questionType := .singleChoice
          eliminationRules := [strayRule] }] }]

theorem inOrder_careless : Tier.inOrder careless.tiers = careless.tiers.reverse := by
  simp [Tier.inOrder, careless, List.mergeSort]

theorem rulesInOrder_careless :
    careless.rulesInOrder = [⟨"enrolled", strayRule⟩, ⟨"interests", strictRule⟩] := by
  rw [Questionnaire.rulesInOrder, Questionnaire.questionsInOrder, inOrder_careless]
  rfl

theorem loads_careless :
    ∃ layout, Layout.ofQuestionnaire careless = .ok layout ∧ Layout.Built careless layout := by
  refine Layout.exists_built ?_
  rw [Questionnaire.declarations, inOrder_careless]
  decide

end Sample

/-- The rule that keeps only a scholarship outside the registry drops everybody, with its mention
and without. -/
theorem sample_dangling_references_inert :
    ∃ layout cleared,
      Layout.ofQuestionnaire Sample.careless = .ok layout ∧
      layout.dangling.toList = [⟨"R1", "enrolled", "Z"⟩, ⟨"R1", "enrolled", "Z"⟩,
        ⟨"R1", "enrolled", "Y"⟩, ⟨"R1", "enrolled", "Z"⟩, ⟨"R2", "interests", "Y"⟩] ∧
      Layout.ofQuestionnaire Sample.careless.withoutDangling = .ok cleared ∧
      Sample.careless.withoutDangling.rulesInOrder.map (·.rule.keptScholarships) =
        [some [], some []] ∧
      Eligibility.ofAnswers cleared.catalog Sample.answers =
        Eligibility.ofAnswers layout.catalog Sample.answers ∧
      (Eligibility.ofAnswers layout.catalog Sample.answers).eligible = [] := by
  obtain ⟨layout, loaded, built⟩ := Sample.loads_careless
  obtain ⟨-, dangling, -, cleared, loaded', -, same⟩ := dangling_references_inert loaded
  refine ⟨layout, cleared, loaded, ?noted, loaded', ?emptied, same Sample.answers, ?nobody⟩
  case noted =>
    rw [dangling, Questionnaire.mentions, Sample.rulesInOrder_careless]
    decide
  case emptied =>
    rw [Questionnaire.rulesInOrder_withoutDangling, Sample.rulesInOrder_careless]
    decide
  case nobody =>
    have accepted := built.catalog_eq (Layout.built_of_ok loaded).1
    rw [Eligibility.ofAnswers, Tally.ofAnswers_eq_foldl accepted, Sample.rulesInOrder_careless]
    decide +kernel

end Screening
