/-
# Screening.Catalog -- a questionnaire made ready

A catalog is a questionnaire whose ids have been checked, whose tiers stand in the
order in which they are asked, and whose rule texts and display expressions have
been read.  Loading looks for the first id that was declared before, in this order:
the scholarships, then tier by tier its own id and those of its questions.

* `mem_inOrder`: putting tiers in order keeps them all;
* `firstRepeat?_eq_none_iff`: nothing is refused exactly when no declaration repeats.
-/
import Screening.Questionnaire
import Screening.Visibility

namespace Screening

set_option autoImplicit false

/-- A question whose rules and display expression have been read. -/
structure ReadQuestion where
  tierId : String
  question : Question
  rules : List ReadRule
  visibility : Visibility

namespace ReadQuestion

def ofQuestion (tierId : String) (question : Question) : ReadQuestion where
  tierId
  question
  rules := question.eliminationRules.map .ofRule
  visibility := .parse question.showIf

def questionId (asked : ReadQuestion) : String := asked.question.questionId

def hasRules (asked : ReadQuestion) : Bool := !asked.rules.isEmpty

end ReadQuestion

/-- A tier whose questions have been read. -/
structure ReadTier where
  tierId : String
  tierOrder : UInt32
  tierName : String
  tierDescription : String
  estimatedEliminationRate : String
  questions : List ReadQuestion

def ReadTier.ofTier (tier : Tier) : ReadTier where
  tierId := tier.tierId
  tierOrder := tier.tierOrder
  tierName := tier.tierName
  tierDescription := tier.tierDescription
  estimatedEliminationRate := tier.estimatedEliminationRate
  questions := tier.questions.map (.ofQuestion tier.tierId)

structure Catalog where
  metadata : Metadata
  processingInstructions : Option ProcessingInstructions
  scholarships : List Scholarship
  tiers : List ReadTier

/-- An id that a document declares. -/
inductive Declaration where
  | scholarship (id : String)
  | tier (id : String)
  | question (id : String)
  deriving DecidableEq, Repr

/-- A rule's mention of a scholarship that the registry does not have. -/
structure DanglingReference where
  ruleId : String
  questionId : String
  scholarshipId : String
  deriving DecidableEq, Repr

/-- The first element that stands earlier in the list, too. -/
def firstRepeat? {α : Type} [DecidableEq α] (before : List α) : List α → Option α
  | [] => none
  | a :: rest => if a ∈ before then some a else firstRepeat? (before ++ [a]) rest

theorem firstRepeat?_eq_none_iff {α : Type} [DecidableEq α] {before list : List α} :
    firstRepeat? before list = none ↔ list.Nodup ∧ ∀ a ∈ list, a ∉ before := by
  fun_induction firstRepeat? before list with
  | case1 => simp
  | case2 before a rest known => simp [known]
  | case3 before a rest new ih =>
      rw [ih]
      simp only [List.nodup_cons, List.mem_append, not_or, List.mem_cons,
        forall_eq_or_imp]
      grind

namespace Tier

/-- Tiers are asked by ascending order, and those of the same order as they are written. -/
def inOrder (tiers : List Tier) : List Tier :=
  tiers.mergeSort fun first second => first.tierOrder ≤ second.tierOrder

theorem mem_inOrder {tiers : List Tier} {tier : Tier} : tier ∈ inOrder tiers ↔ tier ∈ tiers :=
  List.mem_mergeSort

end Tier

namespace Questionnaire

/-- Every id that is declared, in the order in which loading looks at it. -/
def declarations (document : Questionnaire) : List Declaration :=
  document.scholarships.map (.scholarship ·.scholarshipId) ++
    (Tier.inOrder document.tiers).flatMap fun tier =>
      .tier tier.tierId :: tier.questions.map (.question ·.questionId)

end Questionnaire

namespace Catalog

/-- The catalog of a questionnaire, or the first id that it declares again. -/
def ofQuestionnaire (document : Questionnaire) : Except Declaration Catalog :=
  match firstRepeat? [] document.declarations with
  | some repeated => .error repeated
  | none =>
      .ok {
        metadata := document.metadata
        processingInstructions := document.processingInstructions
        scholarships := document.scholarships
        tiers := (Tier.inOrder document.tiers).map .ofTier }

/-- Every question, in the order in which they are asked and evaluated. -/
def questions (catalog : Catalog) : List ReadQuestion := catalog.tiers.flatMap (·.questions)

def scholarshipIds (catalog : Catalog) : List String := catalog.scholarships.map (·.scholarshipId)

def tier? (catalog : Catalog) (id : String) : Option ReadTier :=
  catalog.tiers.find? fun tier => tier.tierId = id

def question? (catalog : Catalog) (id : String) : Option ReadQuestion :=
  catalog.questions.find? fun asked => asked.questionId = id

def scholarship? (catalog : Catalog) (id : String) : Option Scholarship :=
  catalog.scholarships.find? fun entry => entry.scholarshipId = id

/-- Every mention of an unknown scholarship, in the order of evaluation. -/
def danglingReferences (catalog : Catalog) : List DanglingReference :=
  catalog.questions.flatMap fun asked =>
    asked.question.eliminationRules.flatMap fun rule =>
      (rule.references.filter fun id => !catalog.scholarshipIds.contains id).map fun id =>
        ⟨rule.ruleId, asked.questionId, id⟩

end Catalog

end Screening
