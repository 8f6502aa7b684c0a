/-
# Screening.Condition -- when an elimination rule fires

A rule carries a condition on the answer to its own question, written as text:

    value == 'X'                        the answer is exactly X
    value != 'X'                        the answer is not exactly X
    A OR B                              one of the sides holds
    selectedValues.includes('X')        X is among the selections
    !selectedValues.includes('X')       X is not among the selections

The forms are tried in this order and may stand anywhere in the text, so a text
that holds an equality is that equality, whatever stands around it.  A text of
none of these forms never holds: an unreadable rule eliminates nobody.

* `ofChars_eq`: the reading, one form after the other;
* `holds_anyOf`, `isRecognized_anyOf`: a disjunction through its parts.
-/
import Screening.Answer
import Screening.Text.Pattern

namespace Screening

open Text

set_option autoImplicit false

inductive Condition where
  | equals (expected : String)
  | notEquals (expected : String)
  | anyOf (parts : List Condition)
  | includes (value : String) (negated : Bool)
  | unrecognized
  deriving Repr, Inhabited

namespace Condition

/-! ## The forms -/

/-- A comparison of the answer, from its first character on. -/
def comparisonAt? (operator text : List Char) : Option (List Char) :=
  (after? "value".toList text).bind (compared? operator)

/-- A test of the selections, from its first character on. -/
def inclusionAt? (text : List Char) : Option (List Char) :=
  (after? "selectedValues.includes(".toList text).bind fun rest =>
    (quoted? rest).bind fun (operand, tail) =>
      (after? ")".toList tail).map fun _ => operand

/-- The operand of an equality.  One space between `value` and the operator has to
stand somewhere in the text, though not where the equality is found. -/
def equality? (text : List Char) : Option (List Char) :=
  if contains "value ==".toList text then firstMatch? (comparisonAt? "==".toList) text else none

/-- The operand of an inequality, under the same rule as for an equality. -/
def inequality? (text : List Char) : Option (List Char) :=
  if contains "value !=".toList text then firstMatch? (comparisonAt? "!=".toList) text else none

/-- What stands between the sides of a disjunction. -/
def disjunction : List Char := " OR ".toList

theorem disjunction_ne_nil : disjunction ≠ [] := by decide

/-- The condition that a text says.  The sides of a disjunction are trimmed and read
by the same rules; a negation counts only as the first character of the text. -/
def ofChars (text : List Char) : Condition :=
  match equality? text with
  | some expected => .equals (String.ofList expected)
  | none =>
    match inequality? text with
    | some expected => .notEquals (String.ofList expected)
    | none =>
      if _several : contains disjunction text then
        .anyOf <| (splitOn disjunction disjunction_ne_nil text).attach.map fun ⟨side, _member⟩ =>
          ofChars (trim side)
      else
        match firstMatch? inclusionAt? text with
        | some value => .includes (String.ofList value) (text.head? = some '!')
        | none => .unrecognized
termination_by text.length
decreasing_by
  exact Nat.lt_of_le_of_lt (trim_length_le side) (length_lt_of_mem_splitOn _several _member)

def parse (text : String) : Condition := ofChars text.toList

theorem ofChars_eq (text : List Char) :
    ofChars text =
      match equality? text with
      | some expected => .equals (String.ofList expected)
      | none =>
        match inequality? text with
        | some expected => .notEquals (String.ofList expected)
        | none =>
          if contains disjunction text then
            .anyOf ((splitOn disjunction disjunction_ne_nil text).map fun side =>
              ofChars (trim side))
          else
            match firstMatch? inclusionAt? text with
            | some value => .includes (String.ofList value) (text.head? = some '!')
            | none => .unrecognized := by
  rw [ofChars]
  split
  · rfl
  · split
    · rfl
    · split
      · exact congrArg Condition.anyOf
          (List.attach_map_val (l := splitOn disjunction disjunction_ne_nil text)
            (f := fun side => ofChars (trim side)))
      · rfl

/-! ## Evaluation -/

mutual

/-- Whether the condition holds of an answer.  One text never passes a test of the
selections, negated or not. -/
def holds : Condition → AnswerValue → Bool
  | .equals expected, value => value.isExactly expected
  | .notEquals expected, value => !value.isExactly expected
  | .anyOf parts, value => anyHolds parts value
  | .includes item negated, value =>
      match value.multiple? with
      | some selected => selected.contains item != negated
      | none => false
  | .unrecognized, _ => false

def anyHolds : List Condition → AnswerValue → Bool
  | [], _ => false
  | part :: parts, value => part.holds value || anyHolds parts value

end

mutual

/-- Whether some form of the language was recognised, in a disjunction in some part. -/
def isRecognized : Condition → Bool
  | .unrecognized => false
  | .anyOf parts => anyRecognized parts
  | _ => true

def anyRecognized : List Condition → Bool
  | [] => false
  | part :: parts => part.isRecognized || anyRecognized parts

end

@[simp] theorem anyHolds_eq (parts : List Condition) (value : AnswerValue) :
    anyHolds parts value = parts.any (·.holds value) := by
  induction parts with
  | nil => rfl
  | cons part parts ih => simp [anyHolds, ih]

@[simp] theorem anyRecognized_eq (parts : List Condition) :
    anyRecognized parts = parts.any isRecognized := by
  induction parts with
  | nil => rfl
  | cons part parts ih => simp [anyRecognized, ih]

theorem holds_anyOf (parts : List Condition) (value : AnswerValue) :
    (anyOf parts).holds value = parts.any (·.holds value) := by
  rw [holds, anyHolds_eq]

theorem isRecognized_anyOf (parts : List Condition) :
    (anyOf parts).isRecognized = parts.any isRecognized := by
  rw [isRecognized, anyRecognized_eq]

end Condition

end Screening
