/-
# Screening.Proofs.Acceptance -- what a document that loads is known to be

Loading refuses a document that declares an id twice.  So of a catalog that was loaded
it is known that the scholarships, the tiers and the questions are told apart by their
ids, and that everything in it stands in the document.

* `Catalog.ofQuestionnaire_eq_ok_iff`: which documents load, and what they become;
* `Catalog.ofQuestionnaire_of_inOrder`: the same where it is known how the tiers are ordered;
* `Catalog.scholarshipIds_nodup`, `Catalog.questionIds_nodup`: no id is declared twice;
* `Catalog.question?_eq_some_iff`: looking an id up finds the one question that has it.
-/
import Mathlib.Data.List.Nodup
import Screening.Catalog

namespace Screening

set_option autoImplicit false

/-- Among records with distinct keys, looking a key up finds the one record that has it. -/
theorem find?_key_eq_some_iff {α : Type} {records : List α} {key : α → String}
    (distinct : (records.map key).Nodup) {id : String} {record : α} :
    records.find? (fun other => key other = id) = some record ↔
      record ∈ records ∧ key record = id := by
  constructor
  · intro found
    exact ⟨List.mem_of_find?_eq_some found, by simpa using List.find?_some found⟩
  · rintro ⟨member, rfl⟩
    obtain ⟨found, lookup⟩ : ∃ found,
        records.find? (fun other => key other = key record) = some found :=
      Option.isSome_iff_exists.1 (List.find?_isSome.2 ⟨record, member, by simp⟩)
    have same : key found = key record := by simpa using List.find?_some lookup
    rw [lookup, List.inj_on_of_nodup_map distinct (List.mem_of_find?_eq_some lookup) member same]

namespace Declaration

def scholarshipId? : Declaration → Option String
  | .scholarship id => some id
  | _ => none

def questionId? : Declaration → Option String
  | .question id => some id
  | _ => none

/-- Two declarations of one kind are told apart by their ids. -/
theorem scholarshipId?_injective {first second : Declaration} {id : String}
    (left : id ∈ first.scholarshipId?) (right : id ∈ second.scholarshipId?) : first = second := by
  cases first <;> cases second <;> simp_all [scholarshipId?]

theorem questionId?_injective {first second : Declaration} {id : String}
    (left : id ∈ first.questionId?) (right : id ∈ second.questionId?) : first = second := by
  cases first <;> cases second <;> simp_all [questionId?]

end Declaration

namespace Questionnaire

variable (document : Questionnaire)

def scholarshipIds : List String := document.scholarships.map (·.scholarshipId)

/-- Every question with the id of its tier, in the order of evaluation. -/
def questionsInOrder : List (String × Question) :=
  (Tier.inOrder document.tiers).flatMap fun tier => tier.questions.map fun question =>
    (tier.tierId, question)

theorem filterMap_scholarshipId?_declarations :
    document.declarations.filterMap Declaration.scholarshipId? = document.scholarshipIds := by
  have registry : (document.scholarships.map (Declaration.scholarship ·.scholarshipId)).filterMap
      Declaration.scholarshipId? = document.scholarshipIds := by
    rw [List.filterMap_map, scholarshipIds, ← List.filterMap_eq_map]
    rfl
  have others : ((Tier.inOrder document.tiers).flatMap fun tier =>
      Declaration.tier tier.tierId :: tier.questions.map (.question ·.questionId)).filterMap
        Declaration.scholarshipId? = [] := by
    rw [List.filterMap_eq_nil_iff]
    intro declaration member
    obtain ⟨tier, -, member⟩ := List.mem_flatMap.1 member
    rcases List.mem_cons.1 member with rfl | member
    · rfl
    · obtain ⟨question, -, rfl⟩ := List.mem_map.1 member
      rfl
  rw [declarations, List.filterMap_append, registry, others, List.append_nil]

theorem filterMap_questionId?_declarations :
    document.declarations.filterMap Declaration.questionId? =
      document.questionsInOrder.map (·.2.questionId) := by
  have registry : (document.scholarships.map (Declaration.scholarship ·.scholarshipId)).filterMap
      Declaration.questionId? = [] := by
    rw [List.filterMap_eq_nil_iff]
    intro declaration member
    obtain ⟨entry, -, rfl⟩ := List.mem_map.1 member
    rfl
  have tier (tier : Tier) : (Declaration.tier tier.tierId ::
      tier.questions.map (Declaration.question ·.questionId)).filterMap
        Declaration.questionId? = tier.questions.map (·.questionId) := by
    rw [List.filterMap_cons_none rfl, List.filterMap_map, ← List.filterMap_eq_map]
    rfl
  rw [declarations, List.filterMap_append, registry, List.nil_append, List.filterMap_flatMap,
    questionsInOrder, List.map_flatMap]
  refine List.flatMap_congr fun each _ => ?_
  rw [tier, List.map_map]
  rfl

end Questionnaire

namespace Catalog

variable {document : Questionnaire} {catalog : Catalog}

/-- A document loads exactly if it declares no id twice, and then it is put in order and
read. -/
theorem ofQuestionnaire_eq_ok_iff :
    ofQuestionnaire document = .ok catalog ↔
      document.declarations.Nodup ∧
      catalog = {
        metadata := document.metadata
        processingInstructions := document.processingInstructions
        scholarships := document.scholarships
        tiers := (Tier.inOrder document.tiers).map .ofTier } := by
  have unrepeated : firstRepeat? [] document.declarations = none ↔ document.declarations.Nodup := by
    simp [firstRepeat?_eq_none_iff]
  rw [ofQuestionnaire, ← unrepeated]
  cases firstRepeat? [] document.declarations with
  | some repeated => simp
  | none => simp [eq_comm]

/-- A document whose tiers are put in this order loads if it then declares no id twice. -/
theorem ofQuestionnaire_of_inOrder {tiers : List Tier}
    (ordered : Tier.inOrder document.tiers = tiers)
    (distinct : (document.scholarshipIds.map Declaration.scholarship ++
      tiers.flatMap fun tier =>
        Declaration.tier tier.tierId :: tier.questions.map (.question ·.questionId)).Nodup) :
    ofQuestionnaire document = .ok {
      metadata := document.metadata
      processingInstructions := document.processingInstructions
      scholarships := document.scholarships
      tiers := (Tier.inOrder document.tiers).map .ofTier } := by
  subst ordered
  rw [Questionnaire.scholarshipIds, List.map_map] at distinct
  exact ofQuestionnaire_eq_ok_iff.2 ⟨distinct, rfl⟩

section Accepted

variable (accepted : ofQuestionnaire document = .ok catalog)

include accepted

theorem scholarshipIds_eq : catalog.scholarshipIds = document.scholarshipIds := by
  obtain ⟨-, rfl⟩ := ofQuestionnaire_eq_ok_iff.1 accepted
  rfl

/-- The questions of the catalog are those of the document, read one by one. -/
theorem questions_eq :
    catalog.questions = document.questionsInOrder.map fun (tierId, question) =>
      ReadQuestion.ofQuestion tierId question := by
  obtain ⟨-, rfl⟩ := ofQuestionnaire_eq_ok_iff.1 accepted
  simp only [questions, Questionnaire.questionsInOrder, List.flatMap_map, List.map_flatMap,
    List.map_map]
  rfl

theorem scholarshipIds_nodup : catalog.scholarshipIds.Nodup := by
  have := (ofQuestionnaire_eq_ok_iff.1 accepted).1.filterMap
    fun _ _ _ => Declaration.scholarshipId?_injective
  rwa [document.filterMap_scholarshipId?_declarations, ← scholarshipIds_eq accepted] at this

theorem questionIds_nodup : (catalog.questions.map (·.questionId)).Nodup := by
  have := (ofQuestionnaire_eq_ok_iff.1 accepted).1.filterMap
    fun _ _ _ => Declaration.questionId?_injective
  rw [document.filterMap_questionId?_declarations] at this
  rwa [questions_eq accepted, List.map_map]

/-- Looking an id up finds the one question that has it. -/
theorem question?_eq_some_iff {id : String} {asked : ReadQuestion} :
    catalog.question? id = some asked ↔ asked ∈ catalog.questions ∧ asked.questionId = id :=
  find?_key_eq_some_iff (questionIds_nodup accepted)

end Accepted

end Catalog

/-! ## A document that loads -/

namespace Sample

/-- A tier whose question has two rules; their lists name an id twice, and one that the
registry does not have. -/
def early : Tier where
  tierId := "early"
  tierOrder := 1
  questions := [{
    questionId := "enrolled"
    questionType := .singleChoice
    eliminationRules := [
      { ruleId := "R1", condition := "value == 'no'", action := .eliminate
        eliminationMessage := "Enrolment required"
        eliminatedScholarships := some ["B", "Z", "B"] },
      { ruleId := "R2", condition := "value != 'yes'", action := .keepOnly
        eliminationMessage := "Open to students only"
        keptScholarships := some ["A", "C"] }] }]

def late : Tier where
  tierId := "late"
  tierOrder := 2
  questions := [{
    questionId := "interests"
    questionType := .multipleChoice
    eliminationRules := [
      { ruleId := "R3", condition := "!selectedValues.includes('arts')", action := .keepOnly
        eliminationMessage := "Arts only"
        keptScholarships := some ["C"] }] }]

/-- The later tier is written first. -/
def document : Questionnaire where
  scholarships := [
    { scholarshipId := "A", scholarshipName := "First" },
    { scholarshipId := "B", scholarshipName := "Second" },
    { scholarshipId := "C", scholarshipName := "Third" }]
  tiers := [late, early]

def catalog : Catalog where
  metadata := {}
  processingInstructions := none
  scholarships := document.scholarships
  tiers := (Tier.inOrder document.tiers).map .ofTier

theorem inOrder_tiers : Tier.inOrder document.tiers = [early, late] := by
  simp [Tier.inOrder, document, List.mergeSort, early, late]

theorem accepted : Catalog.ofQuestionnaire document = .ok catalog :=
  Catalog.ofQuestionnaire_of_inOrder inOrder_tiers (by decide)

/-- Both questions answered, so that every rule fires. -/
def answers : AnswerSheet := .ofList [
  ("enrolled", { questionId := "enrolled", value := .single "no" }),
  ("interests", { questionId := "interests", value := .multiple ["music"] })]

end Sample

end Screening
