/-
# Screening.Proofs.ConditionLanguage -- the language of elimination conditions

What a condition text says is settled by the ways in which it can be cut, and `Says` puts
that down without a reader: the forms in their order, each under the premise that the
earlier ones do not fit, and of several places for a form the leftmost.  A disjunction says
what its trimmed sides say.

* `parse_eq_iff`: a text is read as a condition exactly when it says that condition.

So every text says exactly one condition, and the reader finds it: it can neither miss a
place where a form begins, nor settle on a later one.
-/
import Screening.Condition
import Screening.Proofs.Leftmost
import Screening.Proofs.Sides

namespace Screening.Condition

open Text

set_option autoImplicit false

/-! ## The language -/

/-- The answer compared for equality: `value == 'X'`. -/
def equality (text : List Char) : Cut (List Char) :=
  .comparison "value".toList "==".toList text

/-- The answer compared for inequality: `value != 'X'`. -/
def inequality (text : List Char) : Cut (List Char) :=
  .comparison "value".toList "!=".toList text

/-- A test of the selections: `selectedValues.includes('X')`. -/
def inclusion (text : List Char) : Cut (List Char) :=
  .inclusion "selectedValues.includes(".toList text

/-- The text counts as an equality.  Its spelling with one space has to occur, though not
where the text is cut. -/
def IsEquality (text : List Char) : Prop :=
  "value ==".toList <:+: text ∧ Possible (equality text)

/-- The text counts as an inequality, under the same rule as for an equality. -/
def IsInequality (text : List Char) : Prop :=
  "value !=".toList <:+: text ∧ Possible (inequality text)

mutual

/-- The condition that a text says. -/
inductive Says : List Char → Condition → Prop where
  | equals {text before operand : List Char}
      (spelt : "value ==".toList <:+: text)
      (leftmost : Leftmost (equality text) before operand) :
      Says text (.equals (String.ofList operand))
  | notEquals {text before operand : List Char}
      (noEquality : ¬ IsEquality text)
      (spelt : "value !=".toList <:+: text)
      (leftmost : Leftmost (inequality text) before operand) :
      Says text (.notEquals (String.ofList operand))
  | anyOf {text : List Char} {sides : List (List Char)} {parts : List Condition}
      (noEquality : ¬ IsEquality text) (noInequality : ¬ IsInequality text)
      (several : disjunction <:+: text) (pieces : Pieces disjunction text sides)
      (said : SidesSay sides parts) :
      Says text (.anyOf parts)
  | includes {text before operand : List Char}
      (noEquality : ¬ IsEquality text) (noInequality : ¬ IsInequality text)
      (single : ¬ disjunction <:+: text)
      (leftmost : Leftmost (inclusion text) before operand) :
      Says text (.includes (String.ofList operand) (text.head? = some '!'))
  | unrecognized {text : List Char}
      (noEquality : ¬ IsEquality text) (noInequality : ¬ IsInequality text)
      (single : ¬ disjunction <:+: text)
      (noInclusion : ¬ Possible (inclusion text)) :
      Says text .unrecognized

/-- The parts that the sides of a disjunction say, side by side. -/
inductive SidesSay : List (List Char) → List Condition → Prop where
  | nil : SidesSay [] []
  | cons {side core : List Char} {part : Condition} {sides : List (List Char)}
      {parts : List Condition}
      (trimmed : Trimmed side core) (here : Says core part) (later : SidesSay sides parts) :
      SidesSay (side :: sides) (part :: parts)

end

/-! ## The forms -/

theorem reads_equality (text : List Char) :
    Reads (comparisonAt? "==".toList) text (equality text) :=
  reads_comparison _ text rfl rfl

theorem reads_inequality (text : List Char) :
    Reads (comparisonAt? "!=".toList) text (inequality text) :=
  reads_comparison _ text rfl rfl

theorem reads_inclusion (text : List Char) : Reads inclusionAt? text (inclusion text) :=
  Text.reads_inclusion _ text

section Guarded

variable {attempt : List Char → Option (List Char)} {text guard : List Char} {cut : Cut (List Char)}

/-- A search that is made only where a literal occurs. -/
theorem guarded_eq_some_iff (reads : Reads attempt text cut) {operand : List Char} :
    (if contains guard text then firstMatch? attempt text else none) = some operand ↔
      guard <:+: text ∧ ∃ before, Leftmost cut before operand := by
  rw [Option.ite_none_right_eq_some, contains_iff, reads.leftmost_iff]

theorem guarded_eq_none_iff (reads : Reads attempt text cut) :
    (if contains guard text then firstMatch? attempt text else none) = none ↔
      ¬ (guard <:+: text ∧ Possible cut) := by
  rw [ite_eq_right_iff, contains_iff, reads.not_possible_iff, not_and]

end Guarded

theorem equality?_eq_some_iff {text operand : List Char} :
    equality? text = some operand ↔
      "value ==".toList <:+: text ∧ ∃ before, Leftmost (equality text) before operand :=
  guarded_eq_some_iff (reads_equality text)

/-- The spelling with one space need not stand where the equality is found. -/
example : equality? "value==\x27a\x27, value == \x27b\x27".toList = some "a".toList := by decide

theorem equality?_eq_none_iff {text : List Char} : equality? text = none ↔ ¬ IsEquality text :=
  guarded_eq_none_iff (reads_equality text)

theorem inequality?_eq_some_iff {text operand : List Char} :
    inequality? text = some operand ↔
      "value !=".toList <:+: text ∧ ∃ before, Leftmost (inequality text) before operand :=
  guarded_eq_some_iff (reads_inequality text)

theorem inequality?_eq_none_iff {text : List Char} :
    inequality? text = none ↔ ¬ IsInequality text :=
  guarded_eq_none_iff (reads_inequality text)

/-! ## Reading -/

theorem sidesSay_map {sides : List (List Char)}
    (said : ∀ side ∈ sides, Says (trim side) (ofChars (trim side))) :
    SidesSay sides (sides.map fun side => ofChars (trim side)) := by
  induction sides with
  | nil => exact .nil
  | cons side sides ih =>
      exact .cons (trimmed_trim side) (said side List.mem_cons_self)
        (ih fun other member => said other (List.mem_cons_of_mem side member))

/-- A text says what is read from it.  The induction is on its length, as the sides of a
disjunction are no part of the text that a structural one would reach. -/
theorem says_ofChars (text : List Char) : Says text (ofChars text) := by
  rw [ofChars_eq]
  split
  · next operand found =>
      obtain ⟨spelt, before, leftmost⟩ := equality?_eq_some_iff.1 found
      exact .equals spelt leftmost
  next noEquality =>
  replace noEquality := equality?_eq_none_iff.1 noEquality
  split
  · next operand found =>
      obtain ⟨spelt, before, leftmost⟩ := inequality?_eq_some_iff.1 found
      exact .notEquals noEquality spelt leftmost
  next noInequality =>
  replace noInequality := inequality?_eq_none_iff.1 noInequality
  split
  · next several =>
      refine .anyOf noEquality noInequality (contains_iff.1 several)
        (pieces_splitOn disjunction_ne_nil text) ?_
      refine sidesSay_map fun side member => ?_
      have shorter : (trim side).length < text.length :=
        Nat.lt_of_le_of_lt (trim_length_le side) (length_lt_of_mem_splitOn several member)
      exact says_ofChars (trim side)
  next single =>
  replace single := mt contains_iff.2 single
  split
  · next operand found =>
      obtain ⟨before, leftmost⟩ := (reads_inclusion text).leftmost_iff.1 found
      exact .includes noEquality noInequality single leftmost
  · next nothing =>
      exact .unrecognized noEquality noInequality single
        ((reads_inclusion text).not_possible_iff.1 nothing)
termination_by text.length
decreasing_by exact shorter

/-- A text that is no comparison is read as a disjunction or as a test of the selections. -/
theorem ofChars_eq_of_no_comparison {text : List Char}
    (noEquality : ¬ IsEquality text) (noInequality : ¬ IsInequality text) :
    ofChars text =
      if contains disjunction text then
        .anyOf ((splitOn disjunction disjunction_ne_nil text).map fun side => ofChars (trim side))
      else
        match firstMatch? inclusionAt? text with
        | some value => .includes (String.ofList value) (text.head? = some '!')
        | none => .unrecognized := by
  have reading := ofChars_eq text
  rw [equality?_eq_none_iff.2 noEquality, inequality?_eq_none_iff.2 noInequality] at reading
  exact reading

mutual

/-- What a text says is read from it. -/
theorem Says.ofChars_eq {text : List Char} {condition : Condition} :
    Says text condition → ofChars text = condition
  | .equals spelt leftmost => by
      rw [Condition.ofChars_eq, equality?_eq_some_iff.2 ⟨spelt, _, leftmost⟩]
  | .notEquals noEquality spelt leftmost => by
      rw [Condition.ofChars_eq, equality?_eq_none_iff.2 noEquality,
        inequality?_eq_some_iff.2 ⟨spelt, _, leftmost⟩]
  | .anyOf noEquality noInequality several pieces said => by
      rw [ofChars_eq_of_no_comparison noEquality noInequality, if_pos (contains_iff.2 several),
        (splitOn_eq_iff disjunction_ne_nil).2 pieces, said.map_eq]
  | .includes noEquality noInequality single leftmost => by
      rw [ofChars_eq_of_no_comparison noEquality noInequality, if_neg (mt contains_iff.1 single),
        (reads_inclusion _).leftmost_iff.2 ⟨_, leftmost⟩]
  | .unrecognized noEquality noInequality single noInclusion => by
      rw [ofChars_eq_of_no_comparison noEquality noInequality, if_neg (mt contains_iff.1 single),
        (reads_inclusion _).not_possible_iff.2 noInclusion]

theorem SidesSay.map_eq {sides : List (List Char)} {parts : List Condition} :
    SidesSay sides parts → sides.map (fun side => ofChars (trim side)) = parts
  | .nil => rfl
  | .cons trimmed here later => by
      rw [List.map_cons, trim_eq_iff.2 trimmed, here.ofChars_eq, later.map_eq]

end

/-- A text is read as a condition exactly when it says that condition. -/
theorem parse_eq_iff (raw : String) (condition : Condition) :
    parse raw = condition ↔ Says raw.toList condition := by
  constructor
  · rintro rfl
    exact says_ofChars raw.toList
  · exact Says.ofChars_eq

end Screening.Condition
