/-
# Screening.Proofs.Narrowing -- the rules of a question, applied to any tally

A tally that comes out of a screening is tidy: nobody is listed twice, and nobody who is
logged is eligible.  The rules of a question do not count on that.  Whatever tally they are
applied to, and by whatever loop each of them goes through it,

* the eligible scholarships lose exactly those that some rule removes, all their mentions at
  once, and the rest keeps its order and its repeats;
* the log goes on with one entry for each scholarship that was lost and not logged before,
  with the message of the first rule that removes it.

`Narrows` states this.  One rule narrows a tally (`Narrows.one`), narrowing first by some
rules and then by others is narrowing by all of them (`Narrows.append`), and so do the rules
of a question (`narrows_apply`).  What they have removed stays removed: each of them is
without effect on what is left (`Narrows.eq_self`), which makes a second application idle,
also under the name of another question (`rules_narrow_any_tally`).
-/
import Mathlib.Data.List.Nodup
import Screening.Proofs.Elimination

namespace Screening

set_option autoImplicit false

/-- Whether the rule fires on the answer and has the scholarship among its targets. -/
def ReadRule.removes (value : AnswerValue) (rule : ReadRule) (id : String) : Bool :=
  rule.fires value && rule.rule.targets id

/-- What is appended to the log where rules narrow a tally. -/
structure Accounts (rules : List ReadRule) (questionId : String) (value : AnswerValue)
    (before after : Tally) (added : List Elimination) : Prop where
  once : (added.map (·.scholarshipId)).Nodup
  /-- Who is no longer eligible gets an entry, unless there is one. -/
  removed : ∀ id, id ∈ added.map (·.scholarshipId) ↔
    (id ∈ before.eligible ∧ id ∉ after.eligible) ∧ ¬ before.isLogged id
  question : ∀ entry ∈ added, entry.questionId = questionId
  /-- Each entry has the message of the first rule that removes the scholarship. -/
  first : ∀ entry ∈ added, ∃ rule,
    rules.find? (·.removes value entry.scholarshipId) = some rule ∧
      entry.reason = rule.rule.eliminationMessage

/-- What rules make of a tally under an answer. -/
structure Narrows (rules : List ReadRule) (questionId : String) (value : AnswerValue)
    (before after : Tally) : Prop where
  eligible : after.eligible = before.eligible.filter fun id => !rules.any (·.removes value id)
  log : ∃ added, after.eliminated = before.eliminated ++ added ∧
    Accounts rules questionId value before after added

namespace Tally

theorem isLogged_of_append {before after : Tally} {added : List Elimination}
    (log : after.eliminated = before.eliminated ++ added) (id : String) :
    after.isLogged id ↔ before.isLogged id ∨ id ∈ added.map (·.scholarshipId) := by
  rw [isLogged_iff, isLogged_iff, log, List.map_append, List.mem_append]

end Tally

namespace Narrows

variable {rules front back : List ReadRule} {questionId : String} {value : AnswerValue}
  {before between after : Tally}

theorem mem_eligible (narrows : Narrows rules questionId value before after) {id : String} :
    id ∈ after.eligible ↔ id ∈ before.eligible ∧ ¬ rules.any (·.removes value id) := by
  rw [narrows.eligible, List.mem_filter, Bool.not_eq_true', Bool.not_eq_true]

/-- No rules leave a tally as it is. -/
theorem nil (tally : Tally) : Narrows [] questionId value tally tally where
  eligible := by simp
  log := ⟨[], by simp, by simp, by simp, by simp, by simp⟩

/-- One rule, whatever its action. -/
theorem one (rule : ReadRule) (questionId : String) (value : AnswerValue) (tally : Tally) :
    Narrows [rule] questionId value tally
      (if rule.fires value then tally.act rule.rule questionId else tally) := by
  by_cases fires : rule.fires value
  · have removes : ∀ id, rule.removes value id = rule.rule.targets id := by
      intro id
      rw [ReadRule.removes, fires, Bool.true_and]
    have eligible := Tally.eligible_act rule.rule questionId tally
    have log := Tally.eliminated_act rule.rule questionId tally
    rw [if_pos fires]
    refine ⟨?eligible, _, log, ?once, ?removed, ?question, ?first⟩
    case eligible => simpa [removes] using eligible
    case once =>
      rw [List.map_map]
      simpa [Function.comp_def] using Occurrence.nodup_eraseDups _
    case removed =>
      intro id
      simp only [List.map_map, Function.comp_def, List.map_id', List.mem_eraseDups,
        List.mem_filter, Rule.mem_targetsAmong, eligible, Bool.not_eq_true', Bool.not_eq_true]
      cases rule.rule.targets id <;> simp
    case question =>
      intro entry member
      obtain ⟨id, -, rfl⟩ := List.mem_map.1 member
      rfl
    case first =>
      intro entry member
      obtain ⟨id, among, rfl⟩ := List.mem_map.1 member
      have target : rule.rule.targets id := by
        have := (List.mem_filter.1 (List.mem_eraseDups.1 among)).1
        exact (Rule.mem_targetsAmong.1 this).2
      exact ⟨rule, by simp [removes, target], rfl⟩
  · have removes : ∀ id, rule.removes value id = false := by
      intro id
      simp [ReadRule.removes, fires]
    rw [if_neg fires]
    exact ⟨by simp [removes], [], by simp, by simp, by simp, by simp, by simp⟩

/-- Narrowing by some rules and then by others is narrowing by all of them.  What the later
rules log was eligible when they came, so none of the earlier ones removes it. -/
theorem append (first : Narrows front questionId value before between)
    (second : Narrows back questionId value between after) :
    Narrows (front ++ back) questionId value before after := by
  obtain ⟨added, log, account⟩ := first.log
  obtain ⟨added', log', account'⟩ := second.log
  have logged := Tally.isLogged_of_append log
  have late : ∀ id ∈ added'.map (·.scholarshipId),
      id ∉ added.map (·.scholarshipId) ∧ front.find? (·.removes value id) = none := by
    intro id member
    obtain ⟨⟨eligible, -⟩, unlogged⟩ := (account'.removed id).1 member
    refine ⟨fun earlier => unlogged ((logged id).2 (Or.inr earlier)), ?_⟩
    simpa using (first.mem_eligible.1 eligible).2
  refine ⟨?eligible, added ++ added', ?log, ?once, ?removed, ?question, ?first⟩
  case eligible =>
    rw [second.eligible, first.eligible, List.filter_filter]
    refine List.filter_congr fun id _ => ?_
    simp [Bool.and_comm]
  case log => rw [log', log, List.append_assoc]
  case once =>
    rw [List.map_append, List.nodup_append']
    exact ⟨account.once, account'.once, fun id earlier later => (late id later).1 earlier⟩
  case removed =>
    intro id
    rw [List.map_append, List.mem_append, account'.removed, logged, account.removed,
      second.mem_eligible, first.mem_eligible]
    tauto
  case question =>
    intro entry member
    rcases List.mem_append.1 member with earlier | later
    · exact account.question entry earlier
    · exact account'.question entry later
  case first =>
    intro entry member
    rcases List.mem_append.1 member with earlier | later
    · obtain ⟨rule, found, reason⟩ := account.first entry earlier
      exact ⟨rule, by rw [List.find?_append, found]; rfl, reason⟩
    · obtain ⟨rule, found, reason⟩ := account'.first entry later
      have spared := (late _ (List.mem_map_of_mem later)).2
      exact ⟨rule, by rw [List.find?_append, spared, found]; rfl, reason⟩

/-- Rules that remove nobody who is eligible leave a tally as it is. -/
theorem eq_self (narrows : Narrows rules questionId value before after)
    (idle : ∀ id ∈ before.eligible, ¬ rules.any (·.removes value id)) : after = before := by
  have eligible : after.eligible = before.eligible := by
    rw [narrows.eligible, List.filter_eq_self]
    intro id member
    simpa using idle id member
  obtain ⟨added, log, account⟩ := narrows.log
  have nothing : added = [] := by
    rw [List.eq_nil_iff_forall_not_mem]
    intro entry member
    obtain ⟨⟨stood, gone⟩, -⟩ := (account.removed _).1 (List.mem_map_of_mem member)
    exact gone (eligible ▸ stood)
  apply Tally.ext
  · exact eligible
  · rw [log, nothing, List.append_nil]

end Narrows

/-- The rules of a question narrow a tally, one after the other. -/
theorem narrows_apply (rules : List ReadRule) (questionId : String) (value : AnswerValue)
    (tally : Tally) : Narrows rules questionId value tally (.apply rules questionId value tally) := by
  induction rules generalizing tally with
  | nil => exact Narrows.nil tally
  | cons rule rules ih =>
      rw [Tally.apply]
      exact (Narrows.one rule questionId value tally).append (ih _)

/-- **Rules narrow any tally.**  Applied to a tally of any kind, the rules of a question remove
their targets and log those that were not logged.  Applied to what is left, in whatever choice
and order and for whatever question, they do nothing more under the same answer. -/
theorem rules_narrow_any_tally (rules : List ReadRule) (questionId : String) (value : AnswerValue)
    (tally : Tally) :
    Narrows rules questionId value tally (.apply rules questionId value tally) ∧
      ∀ again ⊆ rules, ∀ other,
        Tally.apply again other value (.apply rules questionId value tally) =
          .apply rules questionId value tally := by
  have narrows := narrows_apply rules questionId value tally
  refine ⟨narrows, fun again chosen other => ?_⟩
  apply (narrows_apply again other value _).eq_self
  intro id left removed
  obtain ⟨rule, member, removes⟩ := List.any_eq_true.1 removed
  exact (narrows.mem_eligible.1 left).2 (List.any_eq_true.2 ⟨rule, chosen member, removes⟩)

namespace Sample

/-- A tally out of order: an id stands twice, and another is eligible and logged. -/
def untidy : Tally where
  eligible := ["A", "B", "A", "C"]
  eliminated := [⟨"B", "Closed", "earlier"⟩]

/-- The first rule names an id twice, and one that is not eligible. -/
def removals : List ReadRule := [
  { rule := {
      ruleId := "R1", condition := "value == \x27no\x27", action := .eliminate
      eliminationMessage := "Enrolment required"
      eliminatedScholarships := some ["A", "Z", "A"] }
    condition := .equals "no" },
  { rule := {
      ruleId := "R2", condition := "value != \x27yes\x27", action := .eliminateAll
      eliminationMessage := "Open to students only" }
    condition := .notEquals "yes" }]

end Sample

/-- Both copies of an id go at once, and the id that was logged keeps its entry; the rules in
reverse order, for another question, change nothing. -/
theorem sample_rules_narrow :
    Tally.apply Sample.removals "enrolled" (.single "no") Sample.untidy =
        ⟨[], [⟨"B", "Closed", "earlier"⟩, ⟨"A", "Enrolment required", "enrolled"⟩,
          ⟨"C", "Open to students only", "enrolled"⟩]⟩ ∧
      Narrows Sample.removals "enrolled" (.single "no") Sample.untidy
        (.apply Sample.removals "enrolled" (.single "no") Sample.untidy) ∧
      Sample.removals.reverse ⊆ Sample.removals ∧
      Tally.apply Sample.removals.reverse "interests" (.single "no")
          (.apply Sample.removals "enrolled" (.single "no") Sample.untidy) =
        .apply Sample.removals "enrolled" (.single "no") Sample.untidy := by
  have chosen : Sample.removals.reverse ⊆ Sample.removals := fun _ => List.mem_reverse.1
  obtain ⟨narrows, idle⟩ :=
    rules_narrow_any_tally Sample.removals "enrolled" (.single "no") Sample.untidy
  exact ⟨by decide, narrows, chosen, idle _ chosen "interests"⟩

end Screening
