/-
# Screening.Proofs.RemovedCounts -- what a trace counts is what went away

Each rule that fires is recorded with the number of ids it removed, which is a difference of
two lengths.  The tally may be out of order, with ids that repeat or are logged already, so one
elimination may remove several ids and log one or none.  Still the counts can be relied on:

* the difference never has to stop at zero, so a count is what was removed, and the counts
  add up to what is gone at the end;
* the log grows by no more entries than were removed.

The second rests on one fact about narrowing.  The eligible ids and the log together never get
longer (`Narrows.length_le`): who gets an entry was eligible and is not any more, and gets one
entry only.  If the tally was tidy, everybody who is lost gets one, so together they keep their
length (`Narrows.length_eq`), and what is left is tidy again (`Narrows.tidy`).

* `Tally.getElem?_firings`: which place a rule has in the trace, and what is recorded there;
* `Tally.sum_removed`: the counts add up;
* `removed_counts_add_up`: all this of any rules, any answer and any tally.
-/
import Mathlib.Algebra.Ring.Nat
import Mathlib.Data.Nat.PSub
import Screening.Proofs.Narrowing

namespace Screening

set_option autoImplicit false

/-- Nobody is listed twice, and nobody who is logged is eligible. -/
structure Tally.Tidy (tally : Tally) : Prop where
  nodup : tally.eligible.Nodup
  unlogged : ∀ id ∈ tally.eligible, ¬ tally.isLogged id

/-! ## Removals and entries -/

namespace Narrows

variable {rules : List ReadRule} {questionId : String} {value : AnswerValue}
  {before after : Tally}

/-- What is lost, with all its repeats, and what is left are what there was. -/
theorem length_lost (narrows : Narrows rules questionId value before after) :
    (before.eligible.filter fun id => rules.any (·.removes value id)).length +
      after.eligible.length = before.eligible.length := by
  rw [narrows.eligible]
  exact (List.length_eq_length_filter_add _).symm

theorem mem_lost (narrows : Narrows rules questionId value before after) {id : String} :
    id ∈ (before.eligible.filter fun id => rules.any (·.removes value id)) ↔
      id ∈ before.eligible ∧ id ∉ after.eligible := by
  rw [List.mem_filter, narrows.mem_eligible]
  tauto

/-- The eligible ids and the log together never get longer. -/
theorem length_le (narrows : Narrows rules questionId value before after) :
    after.eligible.length + after.eliminated.length ≤
      before.eligible.length + before.eliminated.length := by
  obtain ⟨added, log, account⟩ := narrows.log
  have lost := narrows.length_lost
  have few := account.once.length_le_of_subset fun id member =>
    narrows.mem_lost.2 ((account.removed id).1 member).1
  rw [List.length_map] at few
  rw [log, List.length_append]
  omega

/-- In a tidy tally everybody who is lost is logged, so together they keep their length. -/
theorem length_eq (narrows : Narrows rules questionId value before after) (tidy : before.Tidy) :
    after.eligible.length + after.eliminated.length =
      before.eligible.length + before.eliminated.length := by
  obtain ⟨added, log, account⟩ := narrows.log
  have lost := narrows.length_lost
  have entries : (added.map (·.scholarshipId)).Perm
      (before.eligible.filter fun id => rules.any (·.removes value id)) := by
    refine (List.perm_ext_iff_of_nodup account.once (tidy.nodup.filter _)).2 fun id => ?_
    rw [account.removed, narrows.mem_lost]
    exact and_iff_left_of_imp fun gone => tidy.unlogged id gone.1
  have all := entries.length_eq
  rw [List.length_map] at all
  rw [log, List.length_append]
  omega

theorem tidy (narrows : Narrows rules questionId value before after) (tidy : before.Tidy) :
    after.Tidy where
  nodup := by
    rw [narrows.eligible]
    exact tidy.nodup.filter _
  unlogged := by
    intro id left logged
    obtain ⟨added, log, account⟩ := narrows.log
    rcases (Tally.isLogged_of_append log id).1 logged with earlier | now
    · exact tidy.unlogged id (narrows.mem_eligible.1 left).1 earlier
    · exact ((account.removed id).1 now).1.2 left

end Narrows

/-! ## The trace -/

/-- What is recorded of a rule that fired, between the tally before it and the one after it. -/
structure Firing.Records (firing : Firing) (rule : Rule) (questionId : String)
    (before after : Tally) : Prop where
  named : firing.ruleId = rule.ruleId
  question : firing.questionId = questionId
  action : firing.action = rule.action
  /-- The difference exists among the natural numbers; it is not cut off at zero. -/
  removed : Nat.psub before.eligible.length after.eligible.length = some firing.removed
  keeps_log : before.eliminated <+: after.eliminated
  logged : after.eliminated.length ≤ before.eliminated.length + firing.removed

/-- The record of a rule, by the tallies before and after it. -/
def Firing.between (rule : Rule) (questionId : String) (before after : Tally) : Firing where
  ruleId := rule.ruleId
  questionId := questionId
  action := rule.action
  removed := before.eligible.length - after.eligible.length

@[simp] theorem Firing.removed_between (rule : Rule) (questionId : String)
    (before after : Tally) :
    (between rule questionId before after).removed =
      before.eligible.length - after.eligible.length :=
  rfl

/-- Whatever narrows a tally, the difference of the lengths is the right record of it. -/
theorem Narrows.records {rules : List ReadRule} {questionId : String} {value : AnswerValue}
    {before after : Tally} (narrows : Narrows rules questionId value before after) (rule : Rule) :
    (Firing.between rule questionId before after).Records rule questionId before after := by
  have lost := narrows.length_lost
  have together := narrows.length_le
  obtain ⟨added, log, -⟩ := narrows.log
  refine ⟨rfl, rfl, rfl, ?removed, ⟨added, log.symm⟩, ?logged⟩
  case removed =>
    rw [Nat.psub_eq_some, Firing.removed_between]
    omega
  case logged =>
    rw [Firing.removed_between]
    omega

namespace Tally

variable {questionId : String} {value : AnswerValue}

theorem apply_append (front back : List ReadRule) (tally : Tally) :
    apply (front ++ back) questionId value tally =
      apply back questionId value (apply front questionId value tally) := by
  induction front generalizing tally with
  | nil => rfl
  | cons rule front ih => exact ih _

theorem trace_cons_of_fires {rule : ReadRule} (fires : rule.fires value) (rules : List ReadRule)
    (tally : Tally) :
    trace (rule :: rules) questionId value tally =
      ((trace rules questionId value (tally.act rule.rule questionId)).1,
        .between rule.rule questionId tally (tally.act rule.rule questionId) ::
          (trace rules questionId value (tally.act rule.rule questionId)).2) := by
  rw [trace, if_pos fires]
  rfl

theorem trace_cons_of_idle {rule : ReadRule} (idle : ¬ rule.fires value) (rules : List ReadRule)
    (tally : Tally) :
    trace (rule :: rules) questionId value tally = trace rules questionId value tally := by
  rw [trace, if_neg idle]

theorem firings_append (front back : List ReadRule) (tally : Tally) :
    (trace (front ++ back) questionId value tally).2 =
      (trace front questionId value tally).2 ++
        (trace back questionId value (apply front questionId value tally)).2 := by
  induction front generalizing tally with
  | nil => rfl
  | cons rule front ih =>
      rw [List.cons_append, apply]
      by_cases fires : rule.fires value
      · rw [trace_cons_of_fires fires, trace_cons_of_fires fires, if_pos fires, ih]
        rfl
      · rw [trace_cons_of_idle fires, trace_cons_of_idle fires, if_neg fires, ih]

/-- As many rules are recorded as fire. -/
theorem length_firings (rules : List ReadRule) (tally : Tally) :
    (trace rules questionId value tally).2.length = rules.countP (·.fires value) := by
  induction rules generalizing tally with
  | nil => rfl
  | cons rule rules ih =>
      by_cases fires : rule.fires value
      · rw [trace_cons_of_fires fires, List.length_cons, ih, List.countP_cons, if_pos fires]
      · rw [trace_cons_of_idle fires, ih, List.countP_cons, if_neg fires]
        rfl

/-- A rule that fires has its record behind those of the rules that fire before it. -/
theorem getElem?_firings {rule : ReadRule} (fires : rule.fires value)
    (front back : List ReadRule) (tally : Tally) :
    (trace (front ++ rule :: back) questionId value tally).2[front.countP (·.fires value)]? =
      some (.between rule.rule questionId (apply front questionId value tally)
        (apply (front ++ [rule]) questionId value tally)) := by
  have acts : apply (front ++ [rule]) questionId value tally =
      (apply front questionId value tally).act rule.rule questionId := by
    rw [apply_append, apply, if_pos fires]
    rfl
  rw [firings_append, ← length_firings front tally, List.getElem?_append_right (Nat.le_refl _),
    Nat.sub_self, acts, trace_cons_of_fires fires, List.getElem?_cons_zero]

/-- The counts of a trace add up to what is gone at its end. -/
theorem sum_removed (rules : List ReadRule) (tally : Tally) :
    ((trace rules questionId value tally).2.map (·.removed)).sum +
        (trace rules questionId value tally).1.eligible.length =
      tally.eligible.length := by
  induction rules generalizing tally with
  | nil => exact Nat.zero_add _
  | cons rule rules ih =>
      by_cases fires : rule.fires value
      · have fewer := length_act_le rule.rule questionId tally
        have later := ih (tally.act rule.rule questionId)
        rw [trace_cons_of_fires fires]
        simp only [List.map_cons, List.sum_cons, Firing.removed_between]
        omega
      · rw [trace_cons_of_idle fires]
        exact ih tally

/-- What the trace of rules says of a tally, and of what the rules make of it. -/
structure Traced (rules : List ReadRule) (questionId : String) (value : AnswerValue)
    (before after : Tally) (firings : List Firing) : Prop where
  outcome : after = apply rules questionId value before
  /-- As many rules are recorded as fire. -/
  count : firings.length = rules.countP (·.fires value)
  /-- Each rule that fires is recorded in the place that it has among them, between what the
  rules before it leave and what is left with it. -/
  each : ∀ front rule back, rules = front ++ rule :: back → rule.fires value → ∃ firing,
    firings[front.countP (·.fires value)]? = some firing ∧
      firing.Records rule.rule questionId (apply front questionId value before)
        (apply (front ++ [rule]) questionId value before) ∧
      (before.Tidy →
        (apply (front ++ [rule]) questionId value before).eliminated.length =
          (apply front questionId value before).eliminated.length + firing.removed)
  total : Nat.psub before.eligible.length after.eligible.length =
    some (firings.map (·.removed)).sum

end Tally

/-- **The removed counts add up.**  Whatever rules are applied to whatever tally, every rule that
fires is recorded once and in order, each count is an exact difference, and together they are
what is gone at the end.  No rule logs more entries than it removes ids, and in a tally that was
tidy to begin with it logs as many. -/
theorem removed_counts_add_up (rules : List ReadRule) (questionId : String) (value : AnswerValue)
    (tally : Tally) :
    Tally.Traced rules questionId value tally (Tally.trace rules questionId value tally).1
      (Tally.trace rules questionId value tally).2 := by
  refine ⟨?outcome, Tally.length_firings rules tally, ?each, ?total⟩
  case outcome => exact (Tally.apply_eq_fst_trace rules questionId value tally).symm
  case each =>
    rintro front rule back rfl fires
    have earlier := narrows_apply front questionId value tally
    have step := narrows_apply [rule] questionId value (.apply front questionId value tally)
    rw [← Tally.apply_append] at step
    refine ⟨_, Tally.getElem?_firings fires front back tally, step.records rule.rule, ?_⟩
    intro tidy
    have lost := step.length_lost
    have together := step.length_eq (earlier.tidy tidy)
    rw [Firing.removed_between]
    omega
  case total => exact Nat.psub_eq_some.2 (Tally.sum_removed rules tally)

/-- A tally in order: nobody stands twice, and who is logged is not eligible. -/
def Sample.orderly : Tally where
  eligible := ["A", "B", "C"]
  eliminated := [⟨"D", "Closed", "earlier"⟩]

/-- Out of order, the first rule removes both copies of an id and the second two ids of which one
is logged already.  In order, the second rule logs as many as it removes. -/
theorem sample_removed_counts_add_up :
    (Tally.trace Sample.removals "enrolled" (.single "no") Sample.untidy).2 =
        [⟨"R1", "enrolled", .eliminate, 2⟩, ⟨"R2", "enrolled", .eliminateAll, 2⟩] ∧
      Nat.psub Sample.untidy.eligible.length 0 = some (2 + 2) ∧ Sample.orderly.Tidy ∧
      ∃ front rule, Sample.removals = front ++ [rule] ∧ rule.fires (.single "no") ∧
        (Tally.apply Sample.removals "enrolled" (.single "no") Sample.orderly).eliminated.length =
          (Tally.apply front "enrolled" (.single "no") Sample.orderly).eliminated.length + 2 := by
  have untidy := removed_counts_add_up Sample.removals "enrolled" (.single "no") Sample.untidy
  have orderly := removed_counts_add_up Sample.removals "enrolled" (.single "no") Sample.orderly
  have tidy : Sample.orderly.Tidy := ⟨by decide, by decide⟩
  obtain ⟨firing, place, -, exactly⟩ := orderly.each [_] _ [] rfl (by decide)
  have second : some firing = some ⟨"R2", "enrolled", .eliminateAll, 2⟩ :=
    place.symm.trans (by decide)
  obtain rfl := Option.some.inj second
  exact ⟨by decide, untidy.total, tidy, [_], _, rfl, by decide, exactly tidy⟩

end Screening
