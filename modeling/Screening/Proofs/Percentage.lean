/-
# Screening.Proofs.Percentage -- what the percentage tells of the answered share

The counts of answered and of shown questions are made numbers, divided and multiplied by a
hundred, and each of these steps rounds.  What is lost by that cannot be seen in what is asked of
the percentage.  As long as the questions are counted in 64 bits, it is nothing exactly where
nothing is answered: the share is 2^-64 at least or nothing, and a hundred times that is far from
being rounded away.  Below 2^53, where the counts are numbers themselves, it is also a hundred
exactly where everything is answered; beyond, two counts may be rounded to one.

So a run may look at the count or at the percentage to see whether something is answered.

* `Progress.percentTells`: what the percentage tells of the share;
* `Run.obstacle?_eq_of_percent`: what stands in the way of a run, told from the percentage;
* `Run.canComplete_iff_percent`: the same of the flag.
-/
import Screening.Proofs.Rounding
import Screening.Run

namespace Screening

set_option autoImplicit false

/-! ## Numbers worked out -/

namespace Binary64

/-- The codes of one, of the number before it, of 2^-64 and of a hundred. -/
def one : Nat := 1023 * perExponent

def belowOne : Nat := 1023 * perExponent - 1

def least : Nat := 959 * perExponent

def hundred : Nat := 1029 * perExponent + 0x9000000000000

/-- What these stand for, and what the smaller ones come to in percent. -/
theorem worked_out :
    unitsOfCode one = unit ∧
      unitsOfCode belowOne * (2 * perExponent) = (2 * perExponent - 1) * unit ∧
      unitsOfCode least * UInt64.size = unit ∧
      unitsOfCode hundred = 100 * unit ∧
      nearestCode (unitsOfCode belowOne * (100 * unit)) unit < hundred ∧
      0 < nearestCode (unitsOfCode least * (100 * unit)) unit := by
  decide +kernel

theorem unitsOfCode_one : unitsOfCode one = unit := worked_out.1

theorem unitsOfCode_belowOne :
    unitsOfCode belowOne * (2 * perExponent) = (2 * perExponent - 1) * unit := worked_out.2.1

theorem unitsOfCode_least : unitsOfCode least * UInt64.size = unit := worked_out.2.2.1

theorem unitsOfCode_hundred : unitsOfCode hundred = 100 * unit := worked_out.2.2.2.1

theorem percent_belowOne : nearestCode (unitsOfCode belowOne * (100 * unit)) unit < hundred :=
  worked_out.2.2.2.2.1

theorem percent_least : 0 < nearestCode (unitsOfCode least * (100 * unit)) unit :=
  worked_out.2.2.2.2.2

end Binary64

/-! ## The answered share -/

namespace Progress

open Binary64

variable {progress : Progress}

/-- The code of the answered share. -/
def quotientCode (progress : Progress) : Nat :=
  nearestCode (unitsOfNat progress.answered * unit) (unitsOfNat progress.total)

/-- The code of the answered share in percent. -/
def percentCode (progress : Progress) : Nat :=
  nearestCode (unitsOfCode progress.quotientCode * (100 * unit)) unit

theorem unitsOfNat_total_pos (shown : 0 < progress.total) : 0 < unitsOfNat progress.total :=
  Nat.lt_of_lt_of_le unit_pos (unit_le_unitsOfNat shown)

theorem percentCode_le {quotient : Nat} (le : progress.quotientCode ≤ quotient) :
    progress.percentCode ≤ nearestCode (unitsOfCode quotient * (100 * unit)) unit :=
  nearestCode_mono unit (Nat.mul_le_mul_right _ (unitsOfCode_mono le))

theorem le_percentCode {quotient : Nat} (le : quotient ≤ progress.quotientCode) :
    nearestCode (unitsOfCode quotient * (100 * unit)) unit ≤ progress.percentCode :=
  nearestCode_mono unit (Nat.mul_le_mul_right _ (unitsOfCode_mono le))

theorem nearestCode_one_hundred : nearestCode (unitsOfCode one * (100 * unit)) unit = hundred := by
  rw [unitsOfCode_one, Nat.mul_comm, ← unitsOfCode_hundred, nearestCode_unitsOfCode hundred unit_pos]

theorem le_quotientCode_one (bounded : progress.answered ≤ progress.total)
    (shown : 0 < progress.total) : progress.quotientCode ≤ one := by
  refine nearestCode_le (unitsOfNat_total_pos shown) ?_
  rw [unitsOfCode_one, Nat.mul_comm]
  exact Nat.mul_le_mul_left unit (unitsOfNat_mono bounded)

theorem percentCode_le_hundred (bounded : progress.answered ≤ progress.total)
    (shown : 0 < progress.total) : progress.percentCode ≤ hundred := by
  rw [← nearestCode_one_hundred]
  exact percentCode_le (le_quotientCode_one bounded shown)

/-- A share of everything is a hundred percent. -/
theorem percentCode_eq_hundred (shown : 0 < progress.total)
    (complete : progress.answered = progress.total) : progress.percentCode = hundred := by
  refine Nat.le_antisymm (percentCode_le_hundred (Nat.le_of_eq complete) shown) ?_
  rw [← nearestCode_one_hundred]
  refine le_percentCode (le_nearestCode (unitsOfNat_total_pos shown) ?_)
  rw [unitsOfCode_one, complete, Nat.mul_comm]

/-- A share of less is short of one by the inverse of the total at least. -/
theorem quotientCode_le_belowOne (short : progress.answered < progress.total)
    (few : progress.total < 2 * perExponent) : progress.quotientCode ≤ belowOne := by
  have gap : progress.answered * (2 * perExponent) ≤ (2 * perExponent - 1) * progress.total := by
    have parts : progress.answered * (2 * perExponent) + 2 * perExponent ≤
        2 * perExponent * progress.total := by
      rw [← Nat.succ_mul, Nat.mul_comm _ progress.total]
      exact Nat.mul_le_mul_right _ short
    rw [Nat.sub_mul, Nat.one_mul]
    exact Nat.le_sub_of_add_le ((Nat.add_le_add_left few.le _).trans parts)
  refine nearestCode_le (unitsOfNat_total_pos (Nat.zero_lt_of_lt short)) ?_
  rw [unitsOfNat_eq few, unitsOfNat_eq (short.trans few), ← Nat.mul_assoc]
  refine Nat.mul_le_mul_right unit ?_
  refine Nat.le_of_mul_le_mul_right (c := 2 * perExponent) ?_ (by decide)
  calc progress.answered * unit * (2 * perExponent)
      = progress.answered * (2 * perExponent) * unit := Nat.mul_right_comm _ _ _
    _ ≤ (2 * perExponent - 1) * progress.total * unit := Nat.mul_le_mul_right unit gap
    _ = unitsOfCode belowOne * (2 * perExponent) * progress.total := by
        rw [unitsOfCode_belowOne, Nat.mul_right_comm]
    _ = unitsOfCode belowOne * progress.total * (2 * perExponent) := Nat.mul_right_comm _ _ _

/-- So it stays below a hundred percent, as long as the counts are numbers. -/
theorem percentCode_lt_hundred (short : progress.answered < progress.total)
    (few : progress.total < 2 * perExponent) : progress.percentCode < hundred :=
  Nat.lt_of_le_of_lt (percentCode_le (quotientCode_le_belowOne short few)) percent_belowOne

theorem percentCode_eq_zero (shown : 0 < progress.total) (none_ : progress.answered = 0) :
    progress.percentCode = 0 := by
  have zero : progress.quotientCode ≤ 0 := by
    refine nearestCode_le (unitsOfNat_total_pos shown) ?_
    rw [none_, unitsOfNat_eq (by decide), Nat.zero_mul, Nat.zero_mul]
    exact Nat.zero_le _
  refine Nat.le_zero.1 ((percentCode_le zero).trans (nearestCode_le unit_pos ?_))
  rw [unitsOfCode_eq_zero_iff.2 rfl, Nat.zero_mul]
  exact Nat.zero_le _

/-- A share of something is the inverse of 2^64 at least, as long as the counts take 64 bits. -/
theorem le_quotientCode_least (some_ : 0 < progress.answered) (shown : 0 < progress.total)
    (counted : progress.total < UInt64.size) : least ≤ progress.quotientCode := by
  refine le_nearestCode (unitsOfNat_total_pos shown) ?_
  calc unitsOfCode least * unitsOfNat progress.total
      ≤ unitsOfCode least * (UInt64.size * unit) :=
        Nat.mul_le_mul_left _ (unitsOfNat_le counted.le)
    _ = unit * unit := by rw [← Nat.mul_assoc, unitsOfCode_least]
    _ ≤ unitsOfNat progress.answered * unit :=
        Nat.mul_le_mul_right unit (unit_le_unitsOfNat some_)

/-- So it is not nothing in percent. -/
theorem percentCode_pos (some_ : 0 < progress.answered) (shown : 0 < progress.total)
    (counted : progress.total < UInt64.size) : 0 < progress.percentCode :=
  Nat.lt_of_lt_of_le percent_least (le_percentCode (le_quotientCode_least some_ shown counted))

/-- The share in percent, if every operation on the way to it stays within the range. -/
def share? (progress : Progress) : Option Binary64 :=
  (ofNat? progress.answered).bind fun answered =>
    (ofNat? progress.total).bind fun total =>
      (answered.div? total).bind fun quotient =>
        (ofNat? 100).bind fun percentage => quotient.mul? percentage

theorem percent_eq (progress : Progress) : progress.percent = progress.share?.getD {} := rfl

/-- The share is a number, not a negative one, -/
theorem exists_quotient_eq (bounded : progress.answered ≤ progress.total)
    (shown : 0 < progress.total) {answered total : Binary64}
    (unitsAnswered : answered.units = unitsOfNat progress.answered)
    (unitsTotal : total.units = unitsOfNat progress.total)
    (signs : answered.negative = total.negative) :
    ∃ quotient, answered.div? total = some quotient ∧ quotient.negative = false ∧
      quotient.units = unitsOfCode progress.quotientCode := by
  have divisible : total.units ≠ 0 := by
    rw [unitsTotal]
    exact Nat.ne_of_gt (unitsOfNat_total_pos shown)
  have inRange : progress.quotientCode < 2047 * perExponent :=
    Nat.lt_of_le_of_lt (le_quotientCode_one bounded shown) (by decide)
  rw [div?, if_neg divisible, unitsAnswered, unitsTotal, signs, bne_self_eq_false]
  obtain ⟨quotient, divided, sign, code⟩ := exists_ofUnits?_eq false inRange
  exact ⟨quotient, divided, sign, congrArg unitsOfCode code⟩

/-- and so is the share in percent. -/
theorem percent_of_shown (bounded : progress.answered ≤ progress.total)
    (shown : 0 < progress.total) (counted : progress.total < UInt64.size) :
    progress.percent.negative = false ∧
      progress.percent.units = unitsOfCode progress.percentCode := by
  obtain ⟨answered, readAnswered, signAnswered, unitsAnswered⟩ :=
    exists_ofNat?_eq (bounded.trans counted.le)
  obtain ⟨total, readTotal, signTotal, unitsTotal⟩ := exists_ofNat?_eq counted.le
  obtain ⟨percentage, readPercentage, signPercentage, unitsPercentage⟩ :=
    exists_ofNat?_eq (n := 100) (by decide)
  obtain ⟨quotient, divided, signQuotient, unitsQuotient⟩ :=
    exists_quotient_eq bounded shown unitsAnswered unitsTotal (signAnswered.trans signTotal.symm)
  have inRange : progress.percentCode < 2047 * perExponent :=
    Nat.lt_of_le_of_lt (percentCode_le_hundred bounded shown) (by decide)
  obtain ⟨product, multiplied, sign, code⟩ := exists_ofUnits?_eq false inRange
  have multiplies : quotient.mul? percentage = some product := by
    rw [mul?, signQuotient, signPercentage, unitsQuotient, unitsPercentage,
      unitsOfNat_eq (by decide)]
    exact multiplied
  have share : progress.share? = some product := by
    rw [share?, readAnswered, Option.bind_some, readTotal, Option.bind_some, divided,
      Option.bind_some, readPercentage, Option.bind_some, multiplies]
  have reads : progress.percent = product := by
    rw [percent_eq, share]
    rfl
  rw [reads]
  exact ⟨sign, congrArg unitsOfCode code⟩

/-- Where no question is shown there is no share. -/
theorem percent_of_vacant (vacant : progress.total = 0)
    (counted : progress.answered < UInt64.size) : progress.percent = {} := by
  obtain ⟨answered, readAnswered, -, -⟩ := exists_ofNat?_eq counted.le
  obtain ⟨total, readTotal, -, unitsTotal⟩ :=
    exists_ofNat?_eq (n := progress.total) (by rw [vacant]; decide)
  have indivisible : answered.div? total = none := by
    rw [div?, if_pos]
    rw [unitsTotal, vacant, unitsOfNat_eq (by decide), Nat.zero_mul]
  have share : progress.share? = none := by
    rw [share?, readAnswered, Option.bind_some, readTotal, Option.bind_some, indivisible,
      Option.bind_none]
  rw [percent_eq, share]
  rfl

/-- What is shown of the share tells as much of it as these. -/
structure PercentTells (progress : Progress) : Prop where
  nonnegative : progress.percent.negative = false
  le_hundred : progress.percent.units ≤ 100 * unit
  zero_iff : progress.percent.units = 0 ↔ progress.answered = 0
  /-- As long as the counts are numbers, it is a hundred where the share is. -/
  hundred_iff : progress.total < 2 * perExponent →
    (progress.percent.units = 100 * unit ↔
      0 < progress.total ∧ progress.answered = progress.total)

theorem percentTells_of_vacant (bounded : progress.answered ≤ progress.total)
    (vacant : progress.total = 0) : progress.PercentTells := by
  have unanswered : progress.answered = 0 := Nat.le_zero.1 (vacant ▸ bounded)
  have zero : progress.percent = {} := by
    refine percent_of_vacant vacant ?_
    rw [unanswered]
    decide
  have units : progress.percent.units = 0 := by
    rw [zero]
    exact units_eq_zero_iff.2 rfl
  refine ⟨by rw [zero], ?_, iff_of_true units unanswered, fun _ => ?_⟩
  · rw [units]
    exact Nat.zero_le _
  · refine iff_of_false ?_ fun whole => Nat.ne_of_gt whole.1 vacant
    rw [units]
    exact Nat.ne_of_lt (Nat.mul_pos (by decide) unit_pos)

theorem percentTells_of_shown (bounded : progress.answered ≤ progress.total)
    (shown : 0 < progress.total) (counted : progress.total < UInt64.size) :
    progress.PercentTells := by
  obtain ⟨sign, units⟩ := percent_of_shown bounded shown counted
  refine ⟨sign, ?_, ?_, fun few => ?_⟩
  · rw [units, ← unitsOfCode_hundred]
    exact unitsOfCode_mono (percentCode_le_hundred bounded shown)
  · rw [units, unitsOfCode_eq_zero_iff]
    constructor
    · intro zero
      by_contra some_
      exact Nat.ne_of_gt (percentCode_pos (Nat.pos_of_ne_zero some_) shown counted) zero
    · exact percentCode_eq_zero shown
  · rw [units, ← unitsOfCode_hundred]
    constructor
    · intro whole
      refine ⟨shown, Nat.le_antisymm bounded (Nat.le_of_not_lt fun short => ?_)⟩
      exact Nat.ne_of_lt (percentCode_lt_hundred short few) (unitsOfCode_injective whole)
    · rintro ⟨-, complete⟩
      rw [percentCode_eq_hundred shown complete]

/-- Rounding neither hides a share nor, of counts below 2^53, completes one. -/
theorem percentTells (bounded : progress.answered ≤ progress.total)
    (counted : progress.total < UInt64.size) : progress.PercentTells := by
  rcases Nat.eq_zero_or_pos progress.total with vacant | shown
  · exact percentTells_of_vacant bounded vacant
  · exact percentTells_of_shown bounded shown counted

end Progress

/-! ## What stands in the way of a run -/

namespace Run

variable (run : Run) (counted : run.progress.total < UInt64.size)

include counted

theorem percentTells : run.progress.PercentTells :=
  Progress.percentTells (List.length_filter_le _ _) counted

theorem not_isBelowZero_percent : ¬ run.progress.percent.isBelowZero := by
  rw [Binary64.isBelowZero, (run.percentTells counted).nonnegative, Bool.false_and]
  exact Bool.false_ne_true

/-- **The percentage tells what stands in the way.**  Where somebody is left to apply to, a run is
held up exactly if its percentage is not above zero. -/
theorem obstacle?_eq_of_percent :
    run.obstacle? =
      if run.state.eligible.isEmpty then some .nothingEligible
      else if run.progress.percent.isBelowZero ∨ run.progress.percent.units = 0 then some .noAnswers
      else none := by
  have nothing := (run.percentTells counted).zero_iff
  simp only [obstacle?, or_iff_right (run.not_isBelowZero_percent counted), nothing]

/-- So a run can be completed where somebody is left and the percentage is not nothing. -/
theorem canComplete_iff_percent :
    run.canComplete ↔ run.state.eligible ≠ [] ∧ run.progress.percent.units ≠ 0 := by
  have above := run.not_isBelowZero_percent counted
  rw [canComplete, run.obstacle?_eq_of_percent counted]
  by_cases nobody : run.state.eligible = []
  · simp [nobody]
  · by_cases nothing : run.progress.percent.units = 0 <;> simp [nobody, above, nothing]

end Run

end Screening
