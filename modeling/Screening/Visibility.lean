/-
# Screening.Visibility -- when a question is shown

A question may carry a display expression on the answers to other questions:

    Q.value == 'X'                      Q is answered with exactly X
    Q.value != 'X'                      Q is answered, and not with exactly X
    A AND B, A OR B                     compound expressions
    Q.selectedValues.includes('X')      X is among the selections of Q
    Q.selectedOptions.length > 0        something is selected in Q

The forms are tried in this order and may stand anywhere in the text.  What cannot
be read, and what depends on an answer of another kind, leaves the question
visible: a mistake in an expression hides nothing.
-/
import Screening.Answer
import Screening.Text.Pattern

namespace Screening

open Text

set_option autoImplicit false

inductive Comparison where
  | equal
  | different
  deriving DecidableEq, Repr

/-- A comparison of another question's answer inside a compound expression. -/
structure Clause where
  questionId : String
  comparison : Comparison
  expected : String
  deriving DecidableEq, Repr

/-- A display expression; a `none` among the clauses is one that could not be read. -/
inductive Visibility where
  | always
  | equals (questionId expected : String)
  | notEquals (questionId expected : String)
  | allOf (clauses : List (Option Clause))
  | anyOf (clauses : List (Option Clause))
  | includes (questionId value : String)
  | nonEmpty (questionId : String)
  | unrecognized
  deriving DecidableEq, Repr

namespace Comparison

/-- The two ways a value can stand to what it is compared with. -/
def holds (comparison : Comparison) (value : AnswerValue) (expected : String) : Bool :=
  match comparison with
  | .equal => value.isExactly expected
  | .different => !value.isExactly expected

end Comparison

namespace Clause

/-- In a conjunction an unanswered question passes inequalities and fails equalities. -/
def holdsInConjunction (clause : Clause) (answers : AnswerSheet) : Bool :=
  match answers.get? clause.questionId with
  | none => clause.comparison = .different
  | some answer => clause.comparison.holds answer.value clause.expected

/-- In a disjunction a clause asks for the expected answer, whatever its operator. -/
def holdsInDisjunction (clause : Clause) (answers : AnswerSheet) : Bool :=
  match answers.get? clause.questionId with
  | none => false
  | some answer => answer.value.isExactly clause.expected

end Clause

namespace Visibility

/-! ## The forms -/

def equalsFollows? (text : List Char) : Option (List Char) :=
  (after? ".value".toList text).bind (compared? "==".toList)

def notEqualsFollows? (text : List Char) : Option (List Char) :=
  (after? ".value".toList text).bind (compared? "!=".toList)

/-- A comparison with either operator. -/
def clauseFollows? (text : List Char) : Option (Comparison × List Char) :=
  match equalsFollows? text with
  | some expected => some (.equal, expected)
  | none => (notEqualsFollows? text).map fun expected => (.different, expected)

def inclusionFollows? (text : List Char) : Option (List Char) :=
  (after? ".selectedValues.includes(".toList text).bind fun rest =>
    (quoted? rest).bind fun (operand, tail) =>
      (after? ")".toList tail).map fun _ => operand

def selectionFollows? (text : List Char) : Option Unit :=
  (after? ".selectedOptions.length > 0".toList text).map fun _ => ()

/-- A clause of a conjunction, of either operator. -/
def clause? (text : List Char) : Option Clause :=
  (firstMatch? (named? clauseFollows?) text).map fun (name, comparison, expected) =>
    ⟨String.ofList name, comparison, String.ofList expected⟩

/-- A clause of a disjunction, of which only equalities are read. -/
def equalityClause? (text : List Char) : Option Clause :=
  (firstMatch? (named? equalsFollows?) text).map fun (name, expected) =>
    ⟨String.ofList name, .equal, String.ofList expected⟩

def conjunction : List Char := " AND ".toList

def disjunction : List Char := " OR ".toList

/-- The expression that a text says. -/
def ofChars (text : List Char) : Visibility :=
  match firstMatch? (named? equalsFollows?) text with
  | some (name, expected) => .equals (String.ofList name) (String.ofList expected)
  | none =>
    match firstMatch? (named? notEqualsFollows?) text with
    | some (name, expected) => .notEquals (String.ofList name) (String.ofList expected)
    | none =>
      if contains conjunction text then
        .allOf ((splitOn conjunction (by decide) text).map fun part => clause? (trim part))
      else if contains disjunction text then
        .anyOf ((splitOn disjunction (by decide) text).map fun part => equalityClause? (trim part))
      else
        match firstMatch? (named? inclusionFollows?) text with
        | some (name, value) => .includes (String.ofList name) (String.ofList value)
        | none =>
          match firstMatch? (named? selectionFollows?) text with
          | some (name, ()) => .nonEmpty (String.ofList name)
          | none => .unrecognized

/-- The expression of a question, which is shown always if it has none. -/
def parse : Option String → Visibility
  | none => .always
  | some text => ofChars text.toList

/-! ## Evaluation -/

/-- Whether the question is shown.  An unread clause passes in a conjunction and fails
in a disjunction; a test of the selections passes where there is no list of them. -/
def isVisible (visibility : Visibility) (answers : AnswerSheet) : Bool :=
  match visibility with
  | .always | .unrecognized => true
  | .equals questionId expected =>
      match answers.get? questionId with
      | none => false
      | some answer => answer.value.isExactly expected
  | .notEquals questionId expected =>
      match answers.get? questionId with
      | none => false
      | some answer => !answer.value.isExactly expected
  | .allOf clauses =>
      clauses.all fun
        | none => true
        | some clause => clause.holdsInConjunction answers
  | .anyOf clauses =>
      clauses.any fun
        | none => false
        | some clause => clause.holdsInDisjunction answers
  | .includes questionId value =>
      match (answers.get? questionId).bind (·.value.multiple?) with
      | none => true
      | some selected => selected.contains value
  | .nonEmpty questionId =>
      match (answers.get? questionId).bind (·.value.multiple?) with
      | none => true
      | some selected => !selected.isEmpty

/-- The questions whose answers the expression reads, in the order of its clauses. -/
def dependencies : Visibility → List String
  | .always | .unrecognized => []
  | .equals questionId _ | .notEquals questionId _ | .includes questionId _
  | .nonEmpty questionId => [questionId]
  | .allOf clauses | .anyOf clauses => clauses.filterMap fun clause => clause.map (·.questionId)

end Visibility

end Screening
