/-
# Screening.Binary64.Decimal -- reading a decimal number

A number in a document is written in decimal.  Its digits are kept as long as the
whole number they form fits 64 bits, and the digits after that count only for their
place; the number kept is then multiplied or divided by one power of ten, both
rounded to binary64.  That is exact for short numbers and within a few units in the
last place for long ones.
-/
import Screening.Binary64

namespace Screening.Binary64

set_option autoImplicit false

/-- Appends digits to a number while it stays below 2^64, and says how many digits
found no place. -/
def absorb (kept : Nat) : List Nat → Nat × Nat
  | [] => (kept, 0)
  | digit :: digits =>
      if kept * 10 + digit < UInt64.size then absorb (kept * 10 + digit) digits
      else (kept, digits.length + 1)

/-- The number divided by a power of ten, in steps of at most 10^308. -/
def divideByTens (x : Binary64) (tens : Nat) : Option Binary64 :=
  if small : tens ≤ 308 then
    (ofNat? (Nat.pow 10 tens)).bind x.div?
  else if x.units = 0 then some x
  else
    ((ofNat? (Nat.pow 10 308)).bind x.div?).bind fun y => divideByTens y (tens - 308)
termination_by tens

/-- The number `significand * 10 ^ exponent` with a sign, if it is in range. -/
def scale? (negative : Bool) (significand : Nat) (exponent : Int) : Option Binary64 := do
  let start ← ofNat? significand
  let scaled ←
    if exponent < 0 then divideByTens start exponent.natAbs
    else if exponent ≤ 308 then (ofNat? (Nat.pow 10 exponent.natAbs)).bind start.mul?
    else if start.units = 0 then some start
    else none
  return { scaled with negative }

/-- The number written with these digits before and after the point and this
exponent, if it is in range. -/
def ofDecimal? (negative : Bool) (whole fraction : List Nat) (exponent : Int) :
    Option Binary64 :=
  let (significand, lost) := absorb 0 whole
  let (significand, unused) := absorb significand fraction
  let places : Int := fraction.length - unused
  scale? negative significand (lost - places + exponent)

end Screening.Binary64
