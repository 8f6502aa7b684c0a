/-
# Screening.Proofs.Rounding -- what rounding keeps

The number nearest to a quotient is found in two steps: the quotient without its fraction gives
the exponent, and the quotient by the spacing at that exponent is rounded to a whole number.
Neither step is monotone by itself in a way that shows it of both, since the spacing changes
from one exponent to the next.  They are joined by the code: the codes of an exponent end where
those of the next begin, so a quotient that is rounded up at the end of its exponent comes no
further than the first number of the next one.

So a number that is no more, or no less, than a quotient is no more, or no less, than what the
quotient is rounded to.  A whole number of 53 bits is a number already.  One that takes more is
rounded, and what it is rounded to lies between the same numbers as it does.

* `nearestCode_mono`: rounding keeps the order of quotients;
* `nearestCode_unitsOfCode`: it keeps what is a number already;
* `exists_ofNat?_eq`: a whole number of 64 bits is within the range;
* `unitsOfNat_eq`, `unit_le_unitsOfNat`, `unitsOfNat_le`: what it is rounded to.
-/
import Mathlib.Algebra.Group.Nat.Defs
import Mathlib.Data.Nat.Log
import Screening.Binary64

namespace Screening

set_option autoImplicit false

/-! ## Whole numbers -/

theorem roundHalfEven_bounds (numerator denominator : Nat) :
    numerator / denominator ≤ roundHalfEven numerator denominator ∧
      roundHalfEven numerator denominator ≤ numerator / denominator + 1 := by
  simp only [roundHalfEven]
  split_ifs <;> omega

theorem roundHalfEven_mono {n n' : Nat} (denominator : Nat) (le : n ≤ n') :
    roundHalfEven n denominator ≤ roundHalfEven n' denominator := by
  rcases Nat.lt_or_ge (n / denominator) (n' / denominator) with below | above
  · have reached : n / denominator + 1 ≤ n' / denominator := below
    exact (roundHalfEven_bounds n denominator).2.trans
      (reached.trans (roundHalfEven_bounds n' denominator).1)
  · have same := Nat.le_antisymm (Nat.div_le_div_right le) above
    have remainder : n % denominator ≤ n' % denominator := by
      have whole := Nat.div_add_mod n denominator
      have whole' := Nat.div_add_mod n' denominator
      rw [same] at whole
      omega
    simp only [roundHalfEven, same]
    split_ifs <;> omega

namespace Binary64

/-! ## The order -/

/-- How far the codes around a quotient are spread out: the exponent of their spacing. -/
def spread (quotient : Nat) : Nat := quotient.log2 - 52

theorem nearestCode_eq (numerator denominator : Nat) :
    nearestCode numerator denominator =
      spread (numerator / denominator) * perExponent +
        roundHalfEven numerator (denominator * 2 ^ spread (numerator / denominator)) := rfl

theorem spread_mono {quotient quotient' : Nat} (le : quotient ≤ quotient') :
    spread quotient ≤ spread quotient' := by
  rw [spread, spread, Nat.log2_eq_log_two, Nat.log2_eq_log_two]
  exact Nat.sub_le_sub_right (Nat.log_mono_right le) 52

/-- At its spacing, a quotient comes to less than two rounds of codes. -/
theorem quotient_lt (quotient : Nat) : quotient / 2 ^ spread quotient < 2 * perExponent := by
  have below : quotient < 2 ^ (quotient.log2 + 1) := Nat.lt_log2_self
  have fits : 2 ^ (quotient.log2 + 1) ≤ 2 ^ (53 + spread quotient) :=
    Nat.pow_le_pow_right (by decide) (by rw [spread]; omega)
  rw [Nat.pow_add 2 53] at fits
  refine Nat.div_lt_of_lt_mul (Nat.lt_of_lt_of_le below ?_)
  rw [Nat.mul_comm]
  exact fits

/-- Where the spacing is not the finest, it comes to one round at least. -/
theorem le_quotient {quotient : Nat} (coarse : 0 < spread quotient) :
    perExponent ≤ quotient / 2 ^ spread quotient := by
  have large : 52 < quotient.log2 := by
    rw [spread] at coarse
    omega
  have positive : quotient ≠ 0 := by
    rintro rfl
    simp at large
  have whole : 52 + spread quotient = quotient.log2 := by
    rw [spread]
    omega
  rw [Nat.le_div_iff_mul_le (Nat.two_pow_pos _)]
  have reached := Nat.log2_self_le positive
  rw [← whole, Nat.pow_add] at reached
  exact reached

/-- Rounding keeps the order of quotients by one denominator. -/
theorem nearestCode_mono {numerator numerator' : Nat} (denominator : Nat)
    (le : numerator ≤ numerator') :
    nearestCode numerator denominator ≤ nearestCode numerator' denominator := by
  have quotients : numerator / denominator ≤ numerator' / denominator := Nat.div_le_div_right le
  rw [nearestCode_eq, nearestCode_eq]
  rcases (spread_mono quotients).eq_or_lt with same | coarser
  · rw [same]
    exact Nat.add_le_add_left (roundHalfEven_mono _ le) _
  · -- what is rounded up at the finer spacing is no more than the first code at the coarser one
    have upper := (roundHalfEven_bounds numerator
      (denominator * 2 ^ spread (numerator / denominator))).2
    have lower := (roundHalfEven_bounds numerator'
      (denominator * 2 ^ spread (numerator' / denominator))).1
    rw [← Nat.div_div_eq_div_mul] at upper lower
    have few := quotient_lt (numerator / denominator)
    have many := le_quotient (Nat.lt_of_le_of_lt (Nat.zero_le _) coarser)
    have apart : (spread (numerator / denominator) + 1) * perExponent ≤
        spread (numerator' / denominator) * perExponent := Nat.mul_le_mul_right _ coarser
    rw [Nat.add_mul] at apart
    omega

/-! ## Numbers -/

theorem perExponent_pos : 0 < perExponent := by decide

/-- The codes after the first round stand for the numbers of 53 bits at their spacing. -/
theorem unitsOfCode_round (exponent : Nat) {fraction : Nat} (rest : fraction < perExponent) :
    unitsOfCode ((exponent + 1) * perExponent + fraction) =
      (perExponent + fraction) * 2 ^ exponent := by
  have quotient : ((exponent + 1) * perExponent + fraction) / perExponent = exponent + 1 := by
    rw [Nat.mul_comm, Nat.mul_add_div perExponent_pos, Nat.div_eq_of_lt rest, Nat.add_zero]
  have remainder : ((exponent + 1) * perExponent + fraction) % perExponent = fraction := by
    rw [Nat.mul_comm, Nat.mul_add_mod, Nat.mod_eq_of_lt rest]
  have large : ¬(exponent + 1) * perExponent + fraction < perExponent := by
    rw [Nat.add_mul, Nat.one_mul]
    omega
  rw [unitsOfCode, if_neg large, quotient, remainder]
  rfl

theorem spread_round (exponent : Nat) {fraction : Nat} (rest : fraction < perExponent) :
    spread ((perExponent + fraction) * 2 ^ exponent) = exponent := by
  have positive : 0 < (perExponent + fraction) * 2 ^ exponent :=
    Nat.mul_pos (Nat.add_pos_left perExponent_pos _) (Nat.two_pow_pos _)
  have places : ((perExponent + fraction) * 2 ^ exponent).log2 = 52 + exponent := by
    rw [Nat.log2_eq_iff (Nat.ne_of_gt positive)]
    constructor
    · rw [Nat.pow_add]
      exact Nat.mul_le_mul_right _ (Nat.le_add_right _ _)
    · rw [Nat.add_right_comm, Nat.pow_add]
      refine Nat.mul_lt_mul_of_pos_right ?_ (Nat.two_pow_pos _)
      show perExponent + fraction < perExponent + perExponent
      omega
  rw [spread, places, Nat.add_sub_cancel_left]

theorem spread_eq_zero {quotient : Nat} (small : quotient < perExponent) : spread quotient = 0 := by
  rcases Nat.eq_zero_or_pos quotient with rfl | positive
  · rfl
  · have places : quotient.log2 < 52 := (Nat.log2_lt (Nat.ne_of_gt positive)).2 small
    rw [spread]
    omega

/-- Rounding keeps what is a number already. -/
theorem nearestCode_unitsOfCode (code : Nat) {denominator : Nat} (positive : 0 < denominator) :
    nearestCode (unitsOfCode code * denominator) denominator = code := by
  rw [nearestCode_eq, Nat.mul_div_cancel _ positive]
  rcases Nat.lt_or_ge code perExponent with small | large
  · rw [unitsOfCode, if_pos small, spread_eq_zero small, Nat.pow_zero, Nat.mul_one, Nat.zero_mul,
      Nat.zero_add, roundHalfEven_mul code positive]
  · have rounds : 1 ≤ code / perExponent := (Nat.one_le_div_iff perExponent_pos).2 large
    have rest : code % perExponent < perExponent := Nat.mod_lt _ perExponent_pos
    obtain ⟨exponent, quotient⟩ := Nat.exists_eq_add_of_le' rounds
    have place : (exponent + 1) * perExponent + code % perExponent = code := by
      rw [← quotient]
      exact Nat.div_add_mod' code perExponent
    have units := unitsOfCode_round exponent rest
    rw [place] at units
    rw [units, spread_round exponent rest, Nat.mul_assoc, Nat.mul_comm (2 ^ exponent),
      roundHalfEven_mul _ (Nat.mul_pos positive (Nat.two_pow_pos _)), ← Nat.add_assoc]
    rw [Nat.add_mul, Nat.one_mul] at place
    exact place

/-- A number that is no more than a quotient is no more than what it is rounded to. -/
theorem le_nearestCode {code numerator denominator : Nat} (positive : 0 < denominator)
    (le : unitsOfCode code * denominator ≤ numerator) : code ≤ nearestCode numerator denominator := by
  rw [← nearestCode_unitsOfCode code positive]
  exact nearestCode_mono denominator le

/-- So is a number that is no less. -/
theorem nearestCode_le {code numerator denominator : Nat} (positive : 0 < denominator)
    (le : numerator ≤ unitsOfCode code * denominator) : nearestCode numerator denominator ≤ code := by
  rw [← nearestCode_unitsOfCode code positive]
  exact nearestCode_mono denominator le

/-- The greater of two codes does not stand for the smaller number. -/
theorem unitsOfCode_mono {code code' : Nat} (le : code ≤ code') :
    unitsOfCode code ≤ unitsOfCode code' := by
  by_contra reversed
  have smaller : unitsOfCode code' * 1 ≤ unitsOfCode code * 1 :=
    Nat.mul_le_mul_right 1 (Nat.le_of_not_le reversed)
  have back := nearestCode_mono 1 smaller
  rw [nearestCode_unitsOfCode code' Nat.one_pos, nearestCode_unitsOfCode code Nat.one_pos] at back
  exact reversed (Nat.le_of_eq (congrArg unitsOfCode (Nat.le_antisymm le back)))

/-- Whole numbers of 53 bits at one spacing are numbers. -/
theorem exists_unitsOfCode_eq (exponent : Nat) {n : Nat} (small : n < 2 * perExponent) :
    ∃ code, unitsOfCode code = n * Nat.pow 2 exponent := by
  induction exponent generalizing n with
  | zero =>
      rcases Nat.lt_or_ge n perExponent with below | above
      · exact ⟨n, by rw [unitsOfCode, if_pos below]; exact (Nat.mul_one n).symm⟩
      · refine ⟨(0 + 1) * perExponent + (n - perExponent), ?_⟩
        rw [unitsOfCode_round 0 (by omega), Nat.add_sub_cancel' above]
        rfl
  | succ exponent ih =>
      rcases Nat.lt_or_ge n perExponent with below | above
      · -- half the spacing reaches as far for a number of 52 bits
        obtain ⟨code, units⟩ := ih (n := n * 2) (by omega)
        refine ⟨code, ?_⟩
        rw [units, Nat.mul_assoc]
        exact congrArg (n * ·) Nat.pow_succ'.symm
      · refine ⟨(exponent + 1 + 1) * perExponent + (n - perExponent), ?_⟩
        rw [unitsOfCode_round (exponent + 1) (by omega), Nat.add_sub_cancel' above]
        rfl

theorem exists_ofUnits?_eq (negative : Bool) {numerator denominator : Nat}
    (inRange : nearestCode numerator denominator < 2047 * perExponent) :
    ∃ x, ofUnits? negative numerator denominator = some x ∧ x.negative = negative ∧
      x.code = nearestCode numerator denominator :=
  ⟨⟨negative, _, inRange⟩, by rw [ofUnits?, dif_pos inRange], rfl, rfl⟩

theorem unitsOfCode_injective {code code' : Nat} (same : unitsOfCode code = unitsOfCode code') :
    code = code' := by
  rw [← nearestCode_unitsOfCode code Nat.one_pos, same, nearestCode_unitsOfCode code' Nat.one_pos]

theorem unit_pos : 0 < unit := by
  unfold unit
  generalize 1074 = exponent
  exact Nat.two_pow_pos exponent

/-! ## Whole numbers as numbers -/

/-- What a whole number is rounded to, in units. -/
def unitsOfNat (n : Nat) : Nat := unitsOfCode (nearestCode (n * unit) 1)

/-- The code of 2^64. -/
def beyond : Nat := 1087 * perExponent

theorem unitsOfCode_beyond : unitsOfCode beyond = UInt64.size * unit := by
  decide +kernel

variable {n : Nat}

theorem nearestCode_le_beyond (counted : n ≤ UInt64.size) : nearestCode (n * unit) 1 ≤ beyond := by
  refine nearestCode_le Nat.one_pos ?_
  rw [unitsOfCode_beyond, Nat.mul_one]
  exact Nat.mul_le_mul_right unit counted

/-- A whole number of 64 bits is within the range. -/
theorem exists_ofNat?_eq (counted : n ≤ UInt64.size) :
    ∃ x, ofNat? n = some x ∧ x.negative = false ∧ x.units = unitsOfNat n := by
  have inRange : nearestCode (n * unit) 1 < 2047 * perExponent :=
    Nat.lt_of_le_of_lt (nearestCode_le_beyond counted) (by decide)
  obtain ⟨x, found, sign, place⟩ := exists_ofUnits?_eq false inRange
  exact ⟨x, found, sign, congrArg unitsOfCode place⟩

theorem unitsOfNat_mono {n' : Nat} (le : n ≤ n') : unitsOfNat n ≤ unitsOfNat n' :=
  unitsOfCode_mono (nearestCode_mono 1 (Nat.mul_le_mul_right unit le))

/-- One of 53 bits is a number already. -/
theorem unitsOfNat_eq (small : n < 2 * perExponent) : unitsOfNat n = n * unit := by
  obtain ⟨code, units⟩ : ∃ code, unitsOfCode code = n * unit := by
    unfold unit
    generalize 1074 = exponent
    exact exists_unitsOfCode_eq exponent small
  have kept : nearestCode (n * unit) 1 = code := by
    rw [← units, ← Nat.mul_one (unitsOfCode code)]
    exact nearestCode_unitsOfCode code Nat.one_pos
  rw [unitsOfNat, kept, units]

/-- Nothing above zero is rounded to less than one. -/
theorem unit_le_unitsOfNat (positive : 0 < n) : unit ≤ unitsOfNat n := by
  have exact_one : unitsOfNat 1 = unit := by
    rw [unitsOfNat_eq (by decide), Nat.one_mul]
  exact exact_one.ge.trans (unitsOfNat_mono positive)

theorem unitsOfNat_le (counted : n ≤ UInt64.size) : unitsOfNat n ≤ UInt64.size * unit := by
  rw [← unitsOfCode_beyond]
  exact unitsOfCode_mono (nearestCode_le_beyond counted)

end Binary64

end Screening
