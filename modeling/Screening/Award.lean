/-
# Screening.Award -- what a scholarship is worth

An award is one amount, or an amount for each degree.  Its label is in dollars: the
amount is rounded to whole cents, thousands are set off by commas, and the cents
are shown only where there are any.

* `grouped_filter`: the commas are all that grouping adds.
-/
import Screening.Binary64
import Screening.Text.Numeral

namespace Screening

open Text

set_option autoImplicit false

/-- The worth of a scholarship, flat or by degree. -/
inductive Award where
  | amount (dollars : Binary64)
  | byDegree (masters doctoral : Option Binary64)
  deriving DecidableEq, Repr, Inhabited

namespace Dollars

/-- A comma before every third digit from the right, the first digit excepted. -/
def grouped : List Char → List Char
  | [] => []
  | [last] => [last]
  | first :: second :: rest =>
      if (second :: rest).length % 3 = 0 then first :: ',' :: grouped (second :: rest)
      else first :: grouped (second :: rest)

/-- An amount of cents as dollars. -/
def written (negative : Bool) (cents : Nat) : List Char :=
  (if negative then ['-'] else []) ++ '$' :: grouped (digits (cents / 100)) ++
    if cents % 100 = 0 then [] else '.' :: padded 2 (cents % 100)

/-- The most cents that a label can show. -/
def mostCents : Nat := UInt64.size - 1

/-- The magnitude of an amount in whole cents, a half cent going up. -/
def cents (amount : Binary64) : Nat :=
  match (Binary64.ofNat? 100).bind amount.abs.mul? with
  | none => mostCents
  | some inCents => min inCents.roundHalfUp mostCents

def label (amount : Binary64) : String :=
  String.ofList (written amount.isBelowZero (cents amount))

/-- The commas are all that grouping adds. -/
theorem grouped_filter {text : List Char} (plain : ',' ∉ text) :
    (grouped text).filter (· ≠ ',') = text := by
  fun_induction grouped text with
  | case1 => rfl
  | case2 => simp_all [eq_comm]
  | case3 first second rest _ ih | case4 first second rest _ ih =>
      have here : first ≠ ',' := fun same => plain (by simp [same])
      have later := ih fun member => plain (List.mem_cons_of_mem _ member)
      simp only [List.filter_cons, here, later, ne_eq, not_false_eq_true, not_true_eq_false,
        decide_true, decide_false, if_true, if_false, Bool.false_eq_true]

end Dollars

namespace Award

/-- The label of an award that is not one amount, nor one for each degree. -/
def varies : String := "Variable"

def label : Award → String
  | .amount dollars => Dollars.label dollars
  | .byDegree (some masters) (some doctoral) =>
      Dollars.label masters ++ " - " ++ Dollars.label doctoral
  | .byDegree _ _ => varies

/-- The label of an award that may not be stated at all. -/
def labelOf : Option Award → String
  | some award => award.label
  | none => varies

end Award

end Screening
