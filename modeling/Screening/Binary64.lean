/-
# Screening.Binary64 -- amounts as finite binary64 numbers

Award amounts and the progress of a run are binary64 numbers.  Only finite ones
occur: reading refuses a number outside the range, and progress is a percentage.
A number is a sign and a `code`, its place among the magnitudes in ascending order.
Every magnitude is a whole number of units of 2^-1074, so each operation is an
exact quotient of natural numbers that is rounded once, to the nearest magnitude
and to the even code on a tie.

* `roundHalfEven_mul`: a quotient that comes out even is not changed;
* `units_eq_zero_iff`: the code 0 is zero, and no other code is.
-/
namespace Screening

set_option autoImplicit false

/-- The whole number nearest to a quotient; of two, the even one. -/
def roundHalfEven (numerator denominator : Nat) : Nat :=
  let quotient := numerator / denominator
  let twice := 2 * (numerator % denominator)
  if twice < denominator then quotient
  else if denominator < twice then quotient + 1
  else quotient + quotient % 2

theorem roundHalfEven_mul (n : Nat) {d : Nat} (positive : 0 < d) : roundHalfEven (n * d) d = n := by
  simp [roundHalfEven, Nat.mul_div_cancel _ positive, positive]

/-- How many magnitudes share an exponent: 2^52. -/
abbrev Binary64.perExponent : Nat := 0x10000000000000

/-- A finite binary64 number. -/
structure Binary64 where
  negative : Bool := false
  code : Fin (2047 * Binary64.perExponent) := 0
  deriving DecidableEq, Repr, Inhabited

namespace Binary64

/-- The magnitude that a code stands for, in units of 2^-1074: the codes of one
exponent are evenly spaced, and the spacing doubles from one exponent to the next. -/
def unitsOfCode (code : Nat) : Nat :=
  if code < perExponent then code
  else (perExponent + code % perExponent) * Nat.pow 2 (code / perExponent - 1)

def units (x : Binary64) : Nat := unitsOfCode x.code

/-- The number of units in one. -/
def unit : Nat := Nat.pow 2 1074

/-- The code of the magnitude nearest to a quotient of units, which may lie beyond
the largest one. -/
def nearestCode (numerator denominator : Nat) : Nat :=
  let exponent := (numerator / denominator).log2 - 52
  exponent * perExponent + roundHalfEven numerator (denominator * Nat.pow 2 exponent)

/-- The number nearest to a quotient of units, if it is within the range. -/
def ofUnits? (negative : Bool) (numerator denominator : Nat) : Option Binary64 :=
  let code := nearestCode numerator denominator
  if inRange : code < 2047 * perExponent then some ⟨negative, ⟨code, inRange⟩⟩ else none

def ofNat? (n : Nat) : Option Binary64 := ofUnits? false (n * unit) 1

def ofInt? (n : Int) : Option Binary64 := ofUnits? (n < 0) (n.natAbs * unit) 1

def mul? (x y : Binary64) : Option Binary64 :=
  ofUnits? (x.negative != y.negative) (x.units * y.units) unit

/-- The quotient; there is none by zero. -/
def div? (x y : Binary64) : Option Binary64 :=
  if y.units = 0 then none
  else ofUnits? (x.negative != y.negative) (x.units * unit) y.units

def abs (x : Binary64) : Binary64 := { x with negative := false }

/-- Whether the number is below zero; a negative zero is not. -/
def isBelowZero (x : Binary64) : Bool := x.negative && x.units != 0

/-- The interchange form: sign, exponent and fraction in 64 bits. -/
def bits (x : Binary64) : UInt64 :=
  UInt64.ofNat ((if x.negative then 0x8000000000000000 else 0) + x.code)

/-- The magnitude rounded to a whole number, a half going up. -/
def roundHalfUp (x : Binary64) : Nat := (2 * x.units + unit) / (2 * unit)

/-- The magnitude rounded to a whole number, a half going to the even one. -/
def roundToEven (x : Binary64) : Nat := roundHalfEven x.units unit

theorem unitsOfCode_eq_zero_iff {code : Nat} : unitsOfCode code = 0 ↔ code = 0 := by
  unfold unitsOfCode
  split
  · exact Iff.rfl
  · have some_ : 0 < perExponent := by decide
    have : 0 < (perExponent + code % perExponent) * Nat.pow 2 (code / perExponent - 1) :=
      Nat.mul_pos (Nat.add_pos_left some_ _) (Nat.two_pow_pos _)
    omega

theorem units_eq_zero_iff {x : Binary64} : x.units = 0 ↔ x.code = 0 := by
  rw [units, unitsOfCode_eq_zero_iff, Fin.ext_iff]
  rfl

end Binary64

end Screening
