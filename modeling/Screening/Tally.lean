/-
# Screening.Tally -- who is still eligible, and why the others are not

A tally lists the scholarships still eligible and logs every elimination.  The
rules of a question are applied one after the other, each to what the earlier ones
left, and the first elimination of a scholarship is the one that stays in the log.
A tally need not be tidy: ids may repeat, and an eligible id may be logged already.

* `length_act_le`: no action adds to those eligible, so the counts of a trace never
  fall below zero;
* `apply_eq_fst_trace`: tracing does not change the outcome.
-/
import Screening.Rule

namespace Screening

set_option autoImplicit false

/-- Why a scholarship is no longer eligible. -/
structure Elimination where
  scholarshipId : String
  reason : String
  questionId : String
  deriving DecidableEq, Repr, Inhabited

structure Tally where
  eligible : List String
  eliminated : List Elimination := []
  deriving DecidableEq, Repr, Inhabited

/-- That a rule fired, and how many ids it removed from those eligible. -/
structure Firing where
  ruleId : String
  questionId : String
  action : RuleAction
  removed : Nat
  deriving DecidableEq, Repr, Inhabited

namespace Tally

def isLogged (tally : Tally) (scholarshipId : String) : Bool :=
  tally.eliminated.any fun entry => entry.scholarshipId = scholarshipId

/-- Removes a scholarship from those eligible and logs it, unless it is logged. -/
def eliminate (reason questionId : String) (tally : Tally) (scholarshipId : String) : Tally where
  eligible := tally.eligible.filter (· ≠ scholarshipId)
  eliminated :=
    if tally.isLogged scholarshipId then tally.eliminated
    else tally.eliminated ++ [⟨scholarshipId, reason, questionId⟩]

/-- Eliminates a scholarship that is still eligible. -/
def eliminateEligible (reason questionId : String) (tally : Tally) (scholarshipId : String) :
    Tally :=
  if tally.eligible.contains scholarshipId then tally.eliminate reason questionId scholarshipId
  else tally

/-- What the action of a rule makes of a tally.  An action that needs a list does
nothing without it. -/
def act (rule : Rule) (questionId : String) (tally : Tally) : Tally :=
  match rule.action with
  | .eliminateAll =>
      tally.eligible.foldl (eliminate rule.eliminationMessage questionId)
        { tally with eligible := [] }
  | .eliminate =>
      (rule.eliminatedScholarships.getD []).foldl
        (eliminateEligible rule.eliminationMessage questionId) tally
  | .keepOnly =>
      match rule.keptScholarships with
      | none => tally
      | some kept =>
          (tally.eligible.filter fun id => !kept.contains id).foldl
            (eliminate rule.eliminationMessage questionId) tally
  | .addPreference | .unknown => tally

/-- Applies the rules of a question, in order, under the answer given to it. -/
def apply : List ReadRule → String → AnswerValue → Tally → Tally
  | [], _, _, tally => tally
  | rule :: rules, questionId, value, tally =>
      apply rules questionId value
        (if rule.fires value then tally.act rule.rule questionId else tally)

/-- Applies the rules and records those that fire. -/
def trace : List ReadRule → String → AnswerValue → Tally → Tally × List Firing
  | [], _, _, tally => (tally, [])
  | rule :: rules, questionId, value, tally =>
      if rule.fires value then
        let next := tally.act rule.rule questionId
        let (final, firings) := trace rules questionId value next
        (final,
          ⟨rule.rule.ruleId, questionId, rule.rule.action,
            tally.eligible.length - next.eligible.length⟩ :: firings)
      else trace rules questionId value tally

/-- Tracing does not change the outcome. -/
theorem apply_eq_fst_trace (rules : List ReadRule) (questionId : String) (value : AnswerValue)
    (tally : Tally) : apply rules questionId value tally = (trace rules questionId value tally).1 := by
  induction rules generalizing tally with
  | nil => rfl
  | cons rule rules ih =>
      simp only [apply, trace]
      split <;> exact ih _

theorem length_eliminate_le (reason questionId : String) (tally : Tally) (id : String) :
    (tally.eliminate reason questionId id).eligible.length ≤ tally.eligible.length :=
  List.length_filter_le _ _

theorem length_foldl_eliminate_le (reason questionId : String) (ids : List String) (tally : Tally) :
    (ids.foldl (eliminate reason questionId) tally).eligible.length ≤ tally.eligible.length := by
  induction ids generalizing tally with
  | nil => exact Nat.le_refl _
  | cons id ids ih => exact Nat.le_trans (ih _) (length_eliminate_le reason questionId tally id)

theorem length_foldl_eliminateEligible_le (reason questionId : String) (ids : List String)
    (tally : Tally) :
    (ids.foldl (eliminateEligible reason questionId) tally).eligible.length ≤
      tally.eligible.length := by
  induction ids generalizing tally with
  | nil => exact Nat.le_refl _
  | cons id ids ih =>
      refine Nat.le_trans (ih _) ?_
      unfold eliminateEligible
      split
      · exact length_eliminate_le reason questionId tally id
      · exact Nat.le_refl _

/-- No action adds to those eligible. -/
theorem length_act_le (rule : Rule) (questionId : String) (tally : Tally) :
    (tally.act rule questionId).eligible.length ≤ tally.eligible.length := by
  unfold act
  split
  · exact Nat.le_trans (length_foldl_eliminate_le _ _ _ _) (Nat.zero_le _)
  · exact length_foldl_eliminateEligible_le _ _ _ _
  · split
    · exact Nat.le_refl _
    · exact length_foldl_eliminate_le _ _ _ _
  · exact Nat.le_refl _
  · exact Nat.le_refl _

end Tally

end Screening
