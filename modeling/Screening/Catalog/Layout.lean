/-
# Screening.Catalog.Layout -- one pass over a document

Loading goes through a document once.  It lays the questions of all tiers into one sequence, in
the order in which they are asked, and notes for each tier the stretch of the sequence that its
questions take and for each question id the place of the question.  The first id that it has met
before ends it.  On the way it notes the scholarships that a rule mentions and the registry does
not have.

The rest of the program sees a layout as a catalog, in which each tier has its questions with it.

* `declare`: an id is kept unless it was declared before;
* `Layout.ofQuestionnaire`: the layout of a document, or the first id that is declared again;
* `Layout.tierQuestions?`, `Layout.question?`: what stands in a stretch, and at a place;
* `Layout.catalog`: the catalog that a layout shows.
-/
import Screening.Catalog

namespace Screening

set_option autoImplicit false

/-- A tier of a layout: what it says of itself, and where its questions stand. -/
structure LaidTier where
  tierId : String
  tierOrder : UInt32
  tierName : String
  tierDescription : String
  estimatedEliminationRate : String
  /-- The place of the first question, -/
  start : Nat
  /-- and the place after the last one. -/
  stop : Nat
  deriving DecidableEq, Repr

/-- A tier whose questions stand from a place on. -/
def LaidTier.ofTier (start : Nat) (tier : Tier) (stop : Nat) : LaidTier where
  tierId := tier.tierId
  tierOrder := tier.tierOrder
  tierName := tier.tierName
  tierDescription := tier.tierDescription
  estimatedEliminationRate := tier.estimatedEliminationRate
  start
  stop

structure Layout where
  metadata : Metadata
  processingInstructions : Option ProcessingInstructions
  scholarships : List Scholarship
  tiers : Array LaidTier
  questions : Array ReadQuestion
  /-- Where the question with an id stands. -/
  places : Keyed Nat
  dangling : Array DanglingReference

/-- Keeps what belongs to an id, unless the id was declared before. -/
def declare {α : Type} (kind : String → Declaration) (known : Keyed α) (id : String) (value : α) :
    Except Declaration (Keyed α) :=
  if known.contains id then .error (kind id) else .ok (known.insert id value)

/-- The mentions of scholarships outside the registry by the rules of a question. -/
def Question.danglingReferences (registry : Keyed Unit) (question : Question) :
    List DanglingReference :=
  question.eliminationRules.flatMap fun rule =>
    (rule.references.filter fun id => !registry.contains id).map fun id =>
      ⟨rule.ruleId, question.questionId, id⟩

namespace Layout

/-! ## Loading -/

/-- A layout as far as the tiers were gone through. -/
structure Draft where
  tierIds : Keyed Unit := .empty
  tiers : Array LaidTier := #[]
  questions : Array ReadQuestion := #[]
  places : Keyed Nat := .empty
  dangling : Array DanglingReference := #[]

namespace Draft

/-- Lays a question after those that are there. -/
def addQuestion (registry : Keyed Unit) (tierId : String) (draft : Draft) (question : Question) :
    Except Declaration Draft := do
  let places ← declare .question draft.places question.questionId draft.questions.size
  return {
    draft with
    places
    dangling := draft.dangling ++ question.danglingReferences registry
    questions := draft.questions.push (.ofQuestion tierId question) }

/-- Lays the questions of a tier, and notes the stretch that they take. -/
def addTier (registry : Keyed Unit) (draft : Draft) (tier : Tier) : Except Declaration Draft := do
  let tierIds ← declare .tier draft.tierIds tier.tierId ()
  let filled ← tier.questions.foldlM (addQuestion registry tier.tierId) { draft with tierIds }
  return {
    filled with
    tiers := filled.tiers.push (.ofTier draft.questions.size tier filled.questions.size) }

end Draft

/-- The ids of the registry. -/
def registry (scholarships : List Scholarship) : Except Declaration (Keyed Unit) :=
  scholarships.foldlM (fun known entry => declare .scholarship known entry.scholarshipId ()) .empty

/-- The layout of a questionnaire, or the first id that it declares again. -/
def ofQuestionnaire (document : Questionnaire) : Except Declaration Layout := do
  let registry ← registry document.scholarships
  let draft ← (Tier.inOrder document.tiers).foldlM (Draft.addTier registry) {}
  return {
    metadata := document.metadata
    processingInstructions := document.processingInstructions
    scholarships := document.scholarships
    tiers := draft.tiers
    questions := draft.questions
    places := draft.places
    dangling := draft.dangling }

/-! ## What stands where -/

/-- The questions in the stretch of a tier; there are none to give if it reaches beyond the
sequence or ends before it starts. -/
def tierQuestions? (layout : Layout) (tier : LaidTier) : Option (List ReadQuestion) :=
  if tier.start ≤ tier.stop ∧ tier.stop ≤ layout.questions.size then
    some (layout.questions.extract tier.start tier.stop).toList
  else none

def tier? (layout : Layout) (id : String) : Option LaidTier :=
  layout.tiers.toList.find? fun tier => tier.tierId = id

/-- The question at the place that is noted for an id. -/
def question? (layout : Layout) (id : String) : Option ReadQuestion :=
  (layout.places.get? id).bind fun place => layout.questions[place]?

/-- The tier with the questions of its stretch. -/
def readTier (layout : Layout) (tier : LaidTier) : ReadTier where
  tierId := tier.tierId
  tierOrder := tier.tierOrder
  tierName := tier.tierName
  tierDescription := tier.tierDescription
  estimatedEliminationRate := tier.estimatedEliminationRate
  questions := (layout.tierQuestions? tier).getD []

/-- The catalog that a layout shows. -/
def catalog (layout : Layout) : Catalog where
  metadata := layout.metadata
  processingInstructions := layout.processingInstructions
  scholarships := layout.scholarships
  tiers := layout.tiers.toList.map layout.readTier

end Layout

end Screening
