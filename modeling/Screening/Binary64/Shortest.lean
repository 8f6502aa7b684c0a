/-
# Screening.Binary64.Shortest -- the shortest decimal that reads back

A number is shown with the fewest digits that tell it from its neighbours: of all
decimals that lie nearer to it than to another binary64 number, one of the coarsest
grid that has any, and of those the nearest, or the even one if two are as near.  All
comparisons are between natural numbers; half units of 2^-1074 make the midpoints
whole.

`Binary64.text` lays the digits out: positional with a point between 10^-5 and
10^16, and with a signed exponent outside.
-/
import Screening.Binary64
import Screening.Text.Numeral

namespace Screening.Binary64

open Text

set_option autoImplicit false

/-- A number without its trailing zeros, and how many there were. -/
def dropZeros (n : Nat) : Nat × Nat :=
  if _more : n ≠ 0 ∧ n % 10 = 0 then
    let (rest, zeros) := dropZeros (n / 10)
    (rest, zeros + 1)
  else (n, 0)
termination_by n

/-- The decimal of the grid `10 ^ tens` that stands for the magnitude with this code:
the nearer of its two neighbours on the grid that round to the code, and the even one
halfway between them. -/
def onGrid? (code : Nat) (tens : Int) : Option Nat :=
  let finer := Nat.pow 10 (-tens).toNat
  let denominator := 2 * unit * Nat.pow 10 tens.toNat
  let target := 2 * unitsOfCode code * finer
  let low := (unitsOfCode code + unitsOfCode (code - 1)) * finer
  let high := (unitsOfCode code + unitsOfCode (code + 1)) * finer
  let roundsHere (candidate : Nat) : Bool :=
    let place := candidate * denominator
    if code % 2 = 0 then low ≤ place && place ≤ high else low < place && place < high
  let below := target / denominator
  let above := below + 1
  match roundsHere below, roundsHere above with
  | true, true =>
      let up := above * denominator - target
      let down := target - below * denominator
      if up < down || (up = down && above % 2 = 0) then some above else some below
  | true, false => some below
  | false, true => some above
  | false, false => none

/-- The power of ten just above the magnitude with this code. -/
def magnitude (code : Nat) : Int :=
  (digits (unitsOfCode code * Nat.pow 10 1100 / unit)).length - 1100

/-- The digits and the power of ten of the shortest decimal. -/
def shortest (x : Binary64) : Nat × Int :=
  if x.code.val = 0 then (0, 0)
  else
    let top := magnitude x.code
    let found := (List.range 17).findSome? fun (used : Nat) =>
      let tens := top - used - 1
      (onGrid? x.code tens).map fun decimal => (decimal, tens)
    match found with
    | none => (0, 0)
    | some (decimal, tens) =>
        let (rest, zeros) := dropZeros decimal
        (rest, tens + zeros)

/-- A power of ten, with its sign. -/
def exponentText (power : Int) : List Char :=
  'e' :: (if power < 0 then '-' else '+') :: digits power.natAbs

/-- The number as text, always with a point or an exponent. -/
def text (x : Binary64) : String :=
  let (decimal, tens) := shortest x
  let written := digits decimal
  let point : Int := written.length + tens
  let body : List Char :=
    if 0 ≤ tens && point ≤ 16 then
      written ++ List.replicate tens.toNat '0' ++ ['.', '0']
    else if 0 < point && point ≤ 16 then
      written.take point.toNat ++ ['.'] ++ written.drop point.toNat
    else if -5 < point && point ≤ 0 then
      ['0', '.'] ++ List.replicate (-point).toNat '0' ++ written
    else
      let exponent := exponentText (point - 1)
      match written with
      | [only] => only :: exponent
      | first :: rest => first :: '.' :: rest ++ exponent
      | [] => exponent
  String.ofList (if x.negative then '-' :: body else body)

end Screening.Binary64
