/-
# Screening.Proofs.Satisfiability -- a recognized condition is met by some answer

Whether a condition was recognized is read off its form, without looking at any answer.
Whether it can hold is a question about all answers.  The two come to the same: every form of
the language has an answer that meets it.  An equality is met by the text that it names, an
inequality by any list, a test of the selections by the list of its item or, negated, by the
empty list.  A disjunction is met by what meets one of its parts, however deep it stands, and
by nothing if no part was recognized or there is none.

So a rule whose condition was not recognized does nothing, wherever it stands among other
rules, and leaves no trace; and there is no other rule of which this is true.

* `Condition.by_parts`: induction over a condition, through the parts of its disjunctions;
* `Condition.isRecognized_iff_exists_holds`: the form against the meaning;
* `Tally.trace_filter_isRecognized`: unrecognized rules can be left out;
* `recognized_rules_are_those_that_fire`: both, and that every other rule fires.
-/
import Screening.Tally

namespace Screening

set_option autoImplicit false

namespace Condition

/-- Induction over a condition.  The parts of a disjunction are taken one by one, so nothing has
to be said of lists of parts. -/
@[elab_as_elim]
theorem by_parts {motive : Condition → Prop}
    (equals : ∀ expected, motive (.equals expected))
    (notEquals : ∀ expected, motive (.notEquals expected))
    (anyOf : ∀ parts, (∀ part ∈ parts, motive part) → motive (.anyOf parts))
    (includes : ∀ value negated, motive (.includes value negated))
    (unrecognized : motive .unrecognized) : ∀ condition, motive condition
  | .equals expected => equals expected
  | .notEquals expected => notEquals expected
  | .anyOf parts => anyOf parts fun part _ =>
      by_parts equals notEquals anyOf includes unrecognized part
  | .includes value negated => includes value negated
  | .unrecognized => unrecognized

/-- A condition is recognized exactly if some answer meets it. -/
theorem isRecognized_iff_exists_holds (condition : Condition) :
    condition.isRecognized ↔ ∃ value, condition.holds value := by
  induction condition using by_parts with
  | equals expected =>
      have met : (equals expected).holds (.single expected) := AnswerValue.isExactly_iff.2 rfl
      exact iff_of_true rfl ⟨_, met⟩
  | notEquals expected =>
      -- no list is exactly a text
      exact iff_of_true rfl ⟨.multiple [], rfl⟩
  | anyOf parts ih =>
      rw [isRecognized_anyOf, List.any_eq_true]
      simp only [holds_anyOf, List.any_eq_true]
      constructor
      · rintro ⟨part, member, recognized⟩
        obtain ⟨value, met⟩ := (ih part member).1 recognized
        exact ⟨value, part, member, met⟩
      · rintro ⟨value, part, member, met⟩
        exact ⟨part, member, (ih part member).2 ⟨value, met⟩⟩
  | includes item negated =>
      cases negated with
      | false =>
          have met : (includes item false).holds (.multiple [item]) := by
            simp [holds, AnswerValue.multiple?]
          exact iff_of_true rfl ⟨_, met⟩
      | true => exact iff_of_true rfl ⟨.multiple [], rfl⟩
  | unrecognized =>
      refine iff_of_false Bool.false_ne_true ?_
      rintro ⟨value, met⟩
      exact Bool.false_ne_true met

end Condition

/-- A rule whose condition was not recognized never fires. -/
theorem ReadRule.isRecognized_of_fires {rule : ReadRule} {value : AnswerValue}
    (fires : rule.fires value) : rule.condition.isRecognized :=
  rule.condition.isRecognized_iff_exists_holds.2 ⟨value, fires⟩

namespace Tally

/-- Rules whose conditions were not recognized can be left out: the tally is the same, and so are
the rules that are recorded as fired. -/
theorem trace_filter_isRecognized (rules : List ReadRule) (questionId : String)
    (value : AnswerValue) (tally : Tally) :
    trace (rules.filter fun rule => rule.condition.isRecognized) questionId value tally =
      trace rules questionId value tally := by
  induction rules generalizing tally with
  | nil => rfl
  | cons rule rules ih =>
      by_cases recognized : rule.condition.isRecognized
      · rw [List.filter_cons, if_pos recognized]
        simp only [trace, ih]
      · have idle : ¬ rule.fires value := mt ReadRule.isRecognized_of_fires recognized
        rw [List.filter_cons, if_neg recognized, ih, trace, if_neg idle]

/-- A rule alone is recorded as fired exactly if it fires. -/
theorem trace_singleton_ne_nil_iff (rule : ReadRule) (questionId : String) (value : AnswerValue)
    (tally : Tally) : (trace [rule] questionId value tally).2 ≠ [] ↔ rule.fires value := by
  rw [trace]
  split
  · next fires => exact iff_of_true (List.cons_ne_nil _ _) fires
  · next idle => exact iff_of_false (fun recorded => recorded rfl) idle

end Tally

/-- **The recognized rules are those that fire.**  Of conditions of whatever shape, nested to any
depth, those are recognized which some answer meets.  Whatever tally they are applied to, rules
whose conditions are not recognized eliminate nobody and are never recorded as fired, and every
rule whose condition is recognized is recorded as fired under some answer. -/
theorem recognized_rules_are_those_that_fire :
    (∀ condition : Condition, condition.isRecognized ↔ ∃ value, condition.holds value) ∧
      (∀ rules questionId value tally,
        Tally.trace (rules.filter fun rule => rule.condition.isRecognized) questionId value tally =
          Tally.trace rules questionId value tally) ∧
      ∀ (rule : ReadRule) questionId tally,
        rule.condition.isRecognized ↔
          ∃ value, (Tally.trace [rule] questionId value tally).2 ≠ [] := by
  refine ⟨Condition.isRecognized_iff_exists_holds, Tally.trace_filter_isRecognized, ?_⟩
  intro rule questionId tally
  simp only [Tally.trace_singleton_ne_nil_iff]
  exact rule.condition.isRecognized_iff_exists_holds

/-- A disjunction in a disjunction is recognized by its one part that is, and met by the list
without the item. -/
example : (Condition.anyOf [.anyOf [], .anyOf [.unrecognized, .includes "none" true]]).isRecognized ∧
    (Condition.anyOf [.anyOf [], .anyOf [.unrecognized, .includes "none" true]]).holds
      (.multiple ["arts"]) := by
  decide

end Screening
