/-
# Screening.Proofs.FlatDisjunction -- the sides of a disjunction are tests of the selections

The sides of a disjunction are read by the rules that the whole text was read by, so on the
face of it a disjunction could hold comparisons, or disjunctions in turn, to any depth.  It
does not.  A side is what is left between two separators, and taking the blanks off its ends
leaves a stretch of it: it holds no separator, even where separators share their blanks.  Nor
does it hold a comparison, since a comparison of a side is one of the whole text, spelling and
all, and the text would have been read as that comparison.

So the reading goes down one level and no further, and what it brings back are tests of the
selections and sides that say nothing.  Both fail on a single text, negated or not: an answer
of one selection fires a rule only by being what an equality says, or not being what an
inequality says.

* `SideOf.ofChars_eq`: what a side of a disjunction is read as;
* `readWithin_two_levels`: a reader that is stopped on the third level reads every text;
* `holds_single_iff`: which conditions that were read hold of a single text;
* `disjunctions_are_flat`: all this of every rule text.
-/
import Screening.Proofs.ConditionLanguage

namespace Screening

open Text

set_option autoImplicit false

namespace Condition

/-! ## Sides -/

/-- A text that is read as a side of another: of one that has several sides and is no
comparison. -/
structure SideOf (text core : List Char) : Prop where
  noEquality : ¬ IsEquality text
  noInequality : ¬ IsInequality text
  within : core <:+: text
  single : ¬ disjunction <:+: core

/-- Whatever is cut out of a text that is no comparison is a side of it. -/
theorem sideOf_trim {text side : List Char} (noEquality : ¬ IsEquality text)
    (noInequality : ¬ IsInequality text)
    (member : side ∈ splitOn disjunction disjunction_ne_nil text) : SideOf text (trim side) := by
  have pieces := pieces_splitOn disjunction_ne_nil text
  have kept : trim side <:+: side := trim_within side
  refine ⟨noEquality, noInequality, kept.trans (pieces.within_of_mem member), ?_⟩
  intro separated
  exact pieces.free disjunction_ne_nil member (separated.trans kept)

namespace SideOf

variable {text core : List Char} (side : SideOf text core)

include side

/-- A side is no equality: the text would be one. -/
theorem core_noEquality : ¬ IsEquality core := by
  rintro ⟨spelt, possible⟩
  exact side.noEquality ⟨spelt.trans side.within, possible.comparison_widen side.within⟩

theorem core_noInequality : ¬ IsInequality core := by
  rintro ⟨spelt, possible⟩
  exact side.noInequality ⟨spelt.trans side.within, possible.comparison_widen side.within⟩

/-- A side is read as a test of the selections, if there is one in it. -/
theorem ofChars_eq :
    ofChars core =
      match firstMatch? inclusionAt? core with
      | some value => .includes (String.ofList value) (core.head? = some '!')
      | none => .unrecognized := by
  have read := ofChars_eq_of_no_comparison side.core_noEquality side.core_noInequality
  rw [if_neg (mt contains_iff.1 side.single)] at read
  exact read

end SideOf

/-- A test of the selections, or nothing that was read. -/
def IsTest (condition : Condition) : Prop :=
  (∃ value negated, condition = .includes value negated) ∨ condition = .unrecognized

theorem SideOf.isTest {text core : List Char} (side : SideOf text core) :
    (ofChars core).IsTest := by
  rw [side.ofChars_eq]
  split
  · next value _ => exact Or.inl ⟨_, _, rfl⟩
  · exact Or.inr rfl

/-- What a text that is read as a disjunction is known to be. -/
theorem parts_of_anyOf {text : List Char} {parts : List Condition}
    (read : ofChars text = .anyOf parts) :
    ¬ IsEquality text ∧ ¬ IsInequality text ∧
      parts = (splitOn disjunction disjunction_ne_nil text).map fun side =>
        ofChars (trim side) := by
  have said : Says text (.anyOf parts) := read ▸ says_ofChars text
  cases said with
  | anyOf noEquality noInequality _ pieces said =>
      refine ⟨noEquality, noInequality, ?_⟩
      rw [(splitOn_eq_iff disjunction_ne_nil).2 pieces, said.map_eq]

theorem isTest_of_mem_anyOf {text : List Char} {parts : List Condition}
    (read : ofChars text = .anyOf parts) {part : Condition} (member : part ∈ parts) :
    part.IsTest := by
  obtain ⟨noEquality, noInequality, rfl⟩ := parts_of_anyOf read
  obtain ⟨side, cut, rfl⟩ := List.mem_map.1 member
  exact (sideOf_trim noEquality noInequality cut).isTest

/-! ## The depth of reading -/

/-- The reading of a text, given up where it would have to go down more levels than `levels`:
the text itself is on the first, the sides of a disjunction are one further down. -/
def readWithin : Nat → List Char → Option Condition
  | 0, _ => none
  | levels + 1, text =>
      match equality? text with
      | some expected => some (.equals (String.ofList expected))
      | none =>
        match inequality? text with
        | some expected => some (.notEquals (String.ofList expected))
        | none =>
          if contains disjunction text then
            ((splitOn disjunction disjunction_ne_nil text).mapM fun side =>
              readWithin levels (trim side)).map .anyOf
          else
            match firstMatch? inclusionAt? text with
            | some value => some (.includes (String.ofList value) (text.head? = some '!'))
            | none => some .unrecognized

/-- Where every element has a result, so has the list. -/
theorem mapM_eq_some_map {α β : Type} {f : α → Option β} {g : α → β} {list : List α}
    (each : ∀ a ∈ list, f a = some (g a)) : list.mapM f = some (list.map g) := by
  induction list with
  | nil => rfl
  | cons a rest ih =>
      obtain ⟨here, later⟩ := List.forall_mem_cons.1 each
      rw [List.mapM_cons, here, ih later]
      rfl

/-- Sides that are read within some levels make a text read within one more. -/
theorem readWithin_succ {levels : Nat} {text : List Char}
    (sides : ¬ IsEquality text → ¬ IsInequality text → disjunction <:+: text →
      ∀ side ∈ splitOn disjunction disjunction_ne_nil text,
        readWithin levels (trim side) = some (ofChars (trim side))) :
    readWithin (levels + 1) text = some (ofChars text) := by
  rw [readWithin]
  cases equal : equality? text with
  | some expected => rw [Condition.ofChars_eq, equal]
  | none =>
  cases unequal : inequality? text with
  | some expected => rw [Condition.ofChars_eq, equal, unequal]
  | none =>
  have noEquality := equality?_eq_none_iff.1 equal
  have noInequality := inequality?_eq_none_iff.1 unequal
  rw [ofChars_eq_of_no_comparison noEquality noInequality]
  by_cases several : contains disjunction text
  · have read := sides noEquality noInequality (contains_iff.1 several)
    simp only [if_pos several, mapM_eq_some_map read, Option.map_some]
  · simp only [if_neg several]
    cases firstMatch? inclusionAt? text <;> rfl

/-- A side is read without going further down. -/
theorem SideOf.readWithin_eq {text core : List Char} (side : SideOf text core) (levels : Nat) :
    readWithin (levels + 1) core = some (ofChars core) :=
  readWithin_succ fun _ _ several => absurd several side.single

/-- A reader that goes down to the sides of a text, and not to sides of sides, reads it. -/
theorem readWithin_two_levels (levels : Nat) (text : List Char) :
    readWithin (levels + 2) text = some (ofChars text) := by
  apply readWithin_succ
  intro noEquality noInequality _ side member
  exact (sideOf_trim noEquality noInequality member).readWithin_eq levels

/-! ## Single answers -/

theorem isExactly_single (answer expected : String) :
    (AnswerValue.single answer).isExactly expected = decide (expected = answer) := by
  rw [Bool.eq_iff_iff, AnswerValue.isExactly_iff, AnswerValue.single.injEq, decide_eq_true_iff]
  exact eq_comm

/-- No test of the selections holds of a single text. -/
theorem IsTest.not_holds_single {condition : Condition} (test : condition.IsTest)
    (text : String) : condition.holds (.single text) = false := by
  obtain ⟨value, negated, rfl⟩ | rfl := test
  · rfl
  · rfl

theorem not_holds_single_of_anyOf {text : List Char} {parts : List Condition}
    (read : ofChars text = .anyOf parts) (answer : String) :
    (ofChars text).holds (.single answer) = false := by
  rw [read, holds_anyOf, List.any_eq_false]
  intro part member
  rw [(isTest_of_mem_anyOf read member).not_holds_single answer]
  exact Bool.false_ne_true

/-- A condition that was read holds of a single text by what a comparison says of it, or not
at all. -/
theorem holds_single_iff (text : List Char) (answer : String) :
    (ofChars text).holds (.single answer) ↔
      ofChars text = .equals answer ∨
        ∃ other, other ≠ answer ∧ ofChars text = .notEquals other := by
  cases read : ofChars text with
  | equals expected => simp [holds, isExactly_single]
  | notEquals expected => simp [holds, isExactly_single]
  | anyOf parts =>
      have never := not_holds_single_of_anyOf read answer
      rw [read] at never
      simp [never]
  | includes value negated => simp [holds, AnswerValue.multiple?]
  | unrecognized => simp [holds]

/-- **Disjunctions are flat.**  Every rule text is read, and the reading goes down two levels
at most.  Where it gives a disjunction, each part is a test of the selections or unread.  So of
a single answer a rule's condition holds only as an equality with that answer or an inequality
with another, and never as a disjunction. -/
theorem disjunctions_are_flat (raw : String) :
    (∀ levels, 2 ≤ levels → readWithin levels raw.toList = some (parse raw)) ∧
      (∀ parts, parse raw = .anyOf parts → ∀ part ∈ parts,
        (∃ value negated, part = .includes value negated) ∨ part = .unrecognized) ∧
      (∀ answer, (parse raw).holds (.single answer) ↔
        parse raw = .equals answer ∨
          ∃ other, other ≠ answer ∧ parse raw = .notEquals other) ∧
      ∀ parts, parse raw = .anyOf parts →
        ∀ answer, (parse raw).holds (.single answer) = false := by
  refine ⟨?terminates, ?flat, holds_single_iff raw.toList, ?never⟩
  case terminates =>
    intro levels enough
    obtain ⟨more, rfl⟩ := Nat.exists_eq_add_of_le' enough
    exact readWithin_two_levels more raw.toList
  case flat =>
    intro parts read part member
    exact isTest_of_mem_anyOf read member
  case never =>
    intro parts read answer
    exact not_holds_single_of_anyOf read answer

/-- A comparison without its spelling is no comparison, so the text is cut into sides; the last
two separators share a blank, and the second of them stays in its side. -/
def severalSides : String :=
  "value==\x27a\x27 OR !selectedValues.includes(\x27x\x27) OR OR selectedValues.includes(\x27y\x27)"

theorem parse_severalSides :
    parse severalSides = .anyOf [.unrecognized, .includes "x" true, .includes "y" false] := by
  with_unfolding_all rfl

/-- A disjunction of three sides, read within two levels; no single answer fires it. -/
theorem sample_disjunction_is_flat :
    parse severalSides = .anyOf [.unrecognized, .includes "x" true, .includes "y" false] ∧
      readWithin 2 severalSides.toList = some (parse severalSides) ∧
      (∀ part ∈ [Condition.unrecognized, .includes "x" true, .includes "y" false],
        (∃ value negated, part = .includes value negated) ∨ part = .unrecognized) ∧
      ∀ answer, (parse severalSides).holds (.single answer) = false := by
  obtain ⟨reads, flat, -, never⟩ := disjunctions_are_flat severalSides
  exact ⟨parse_severalSides, reads 2 (Nat.le_refl 2), flat _ parse_severalSides,
    never _ parse_severalSides⟩

end Condition

end Screening
