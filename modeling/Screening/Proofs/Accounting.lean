/-
# Screening.Proofs.Accounting -- every scholarship is accounted for

In a state that events have led to, each scholarship of the registry is either still
eligible or logged, never both and never twice, and nothing else occurs.  Each entry of
the log can be justified from the state itself: its question is answered there, and one
of the question's rules fires on the answer, has the scholarship among its targets, and gives
the entry's reason.

`Accounted` says this of a state.  An event keeps the answers under their own questions
and computes the rest anew, so it is enough that every sheet in order leads to such a
state (`accounted_ofAnswers`).
-/
import Mathlib.Data.List.Perm.Basic
import Screening.Proofs.Attribution
import Screening.Proofs.History

namespace Screening

set_option autoImplicit false

/-- The state accounts for the registry of the catalog. -/
structure Accounted (catalog : Catalog) (state : Eligibility) : Prop where
  eligible_sublist : state.eligible.Sublist catalog.scholarshipIds
  eligible_nodup : state.eligible.Nodup
  logged_nodup : (state.eliminated.map (·.scholarshipId)).Nodup
  partition : (state.eligible ++ state.eliminated.map (·.scholarshipId)).Perm
    catalog.scholarshipIds
  preferred : state.preferred = .empty
  filed : Filed state.answers
  justified : ∀ entry ∈ state.eliminated, ∃ asked answer rule,
    catalog.question? entry.questionId = some asked ∧
      state.answers.get? entry.questionId = some answer ∧
      rule ∈ asked.rules ∧ rule.fires answer.value ∧ rule.rule.targets entry.scholarshipId ∧
      entry.reason = rule.rule.eliminationMessage

variable {document : Questionnaire} {catalog : Catalog}

/-- A rule of the document that claims a scholarship is a rule of a question of the
catalog and fires on the answer to it. -/
theorem PlacedRule.exists_fires_of_claims
    (accepted : Catalog.ofQuestionnaire document = .ok catalog) {placed : PlacedRule}
    (member : placed ∈ document.rulesInOrder) {sheet : AnswerSheet} {id : String}
    (claims : placed.claims sheet id) :
    ∃ asked answer rule, catalog.question? placed.questionId = some asked ∧
      sheet.get? placed.questionId = some answer ∧
      rule ∈ asked.rules ∧ rule.fires answer.value ∧ rule.rule.targets id ∧
      rule.rule = placed.rule := by
  obtain ⟨⟨tierId, question⟩, inDocument, placedThere⟩ := List.mem_flatMap.1 member
  obtain ⟨rule, written, rfl⟩ := List.mem_map.1 placedThere
  have inCatalog : ReadQuestion.ofQuestion tierId question ∈ catalog.questions := by
    rw [Catalog.questions_eq accepted]
    exact List.mem_map.2 ⟨(tierId, question), inDocument, rfl⟩
  obtain ⟨fires, targets⟩ := Bool.and_eq_true_iff.1 claims
  obtain ⟨answer, answered, holds⟩ := (Option.any_eq_true _ _).1 fires
  refine ⟨_, answer, .ofRule rule, (Catalog.question?_eq_some_iff accepted).2 ⟨inCatalog, rfl⟩,
    answered, List.mem_map_of_mem written, holds, targets, rfl⟩

/-- Any sheet in order leads to a state that accounts for the registry. -/
theorem accounted_ofAnswers (accepted : Catalog.ofQuestionnaire document = .ok catalog)
    {sheet : AnswerSheet} (filed : Filed sheet) :
    Accounted catalog (.ofAnswers catalog sheet) := by
  have attributed := attributed_ofAnswers accepted sheet
  have registry := Catalog.scholarshipIds_nodup accepted
  rw [← Catalog.scholarshipIds_eq accepted] at attributed
  have logged : ((Tally.ofAnswers catalog sheet).eliminated.map (·.scholarshipId)).Perm
      (catalog.scholarshipIds.filter fun id =>
        document.rulesInOrder.any (·.claims sheet id)) := by
    refine (List.perm_ext_iff_of_nodup attributed.once (registry.filter _)).2 fun id => ?_
    rw [attributed.logged, List.mem_filter]
  refine ⟨?_, ?_, attributed.once, ?_, rfl, filed, ?_⟩
  · show (Tally.ofAnswers catalog sheet).eligible.Sublist _
    rw [attributed.eligible]
    exact List.filter_sublist
  · show (Tally.ofAnswers catalog sheet).eligible.Nodup
    rw [attributed.eligible]
    exact registry.filter _
  · show ((Tally.ofAnswers catalog sheet).eligible ++ _).Perm _
    rw [attributed.eligible]
    exact (List.perm_append_comm.trans (logged.append_right _)).trans
      (List.filter_append_perm _ _)
  · intro entry member
    obtain ⟨placed, found, reason, question⟩ := attributed.first entry member
    have claims : placed.claims sheet entry.scholarshipId := by
      simpa using List.find?_some found
    obtain ⟨asked, answer, rule, inCatalog, answered, ofQuestion, fires, targets, same⟩ :=
      PlacedRule.exists_fires_of_claims accepted (List.mem_of_find?_eq_some found) claims
    exact ⟨asked, answer, rule, question ▸ inCatalog, question ▸ answered, ofQuestion, fires,
      targets, same ▸ reason⟩

/-- An event keeps the account. -/
theorem Accounted.reduce (accepted : Catalog.ofQuestionnaire document = .ok catalog)
    {state : Eligibility} (accounted : Accounted catalog state) (event : Event) :
    Accounted catalog (state.reduce catalog event) :=
  accounted_ofAnswers accepted (accounted.filed.applyTo event)

theorem Accounted.foldl_reduce (accepted : Catalog.ofQuestionnaire document = .ok catalog)
    {state : Eligibility} (accounted : Accounted catalog state) (events : List Event) :
    Accounted catalog (events.foldl (Eligibility.reduce catalog) state) := by
  induction events generalizing state with
  | nil => exact accounted
  | cons event events ih => exact ih (accounted.reduce accepted event)

/-- **Every run accounts for the registry.**  Whatever events happen in whatever order,
also on questions that the catalog does not have. -/
theorem accounted_of_events (accepted : Catalog.ofQuestionnaire document = .ok catalog)
    (events : List Event) :
    Accounted catalog (events.foldl (Eligibility.reduce catalog) (.initial catalog)) :=
  (accounted_ofAnswers accepted filed_empty).foldl_reduce accepted events

theorem sample_accounted_of_events :
    Catalog.ofQuestionnaire Sample.document = .ok Sample.catalog ∧
      Accounted Sample.catalog
        (Sample.winding.foldl (Eligibility.reduce Sample.catalog) (.initial Sample.catalog)) :=
  ⟨Sample.accepted, accounted_of_events Sample.accepted Sample.winding⟩

end Screening
