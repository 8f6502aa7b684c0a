/-
# Screening.Proofs.DisplayLanguage -- the language of display expressions

What a display expression says is settled by the ways in which its text can be cut, as for
an elimination condition: the forms in their order, and of several places for a form the
leftmost (`Says`).  Here every form has the name of a question before it, and its leftmost
place lies at the start of a name.  The sides of a compound expression are no expressions
themselves: each says one comparison, or nothing (`SideSays`).

* `parse_some_eq_iff`: a text is read as an expression exactly when it says that
  expression, and the names that it captures are whole.
-/
import Mathlib.Data.List.Forall2
import Screening.Proofs.Leftmost
import Screening.Proofs.Sides
import Screening.Visibility

namespace Screening

open Text

set_option autoImplicit false

/-- How a comparison is written. -/
def Comparison.operator : Comparison → List Char
  | .equal => "==".toList
  | .different => "!=".toList

namespace Visibility

/-! ## The language -/

/-- A question's answer compared for equality: `Q.value == 'X'`. -/
def equality (text : List Char) : Cut (List Char × List Char) :=
  .named (.comparison ".value".toList (Comparison.operator .equal) text)

/-- A question's answer compared for inequality: `Q.value != 'X'`. -/
def inequality (text : List Char) : Cut (List Char × List Char) :=
  .named (.comparison ".value".toList (Comparison.operator .different) text)

/-- A question's answer compared in either way. -/
def comparison (text : List Char) : Cut (List Char × Comparison × List Char) :=
  .named fun before found => Cut.comparison ".value".toList found.1.operator text before found.2

/-- A test of a question's selections: `Q.selectedValues.includes('X')`. -/
def inclusion (text : List Char) : Cut (List Char × List Char) :=
  .named (.inclusion ".selectedValues.includes(".toList text)

/-- A test for any selection: `Q.selectedOptions.length > 0`. -/
def selection (text : List Char) : Cut (List Char × Unit) :=
  .named (.literal ".selectedOptions.length > 0".toList text)

/-- A clause of a conjunction is a comparison of either kind. -/
def conjunct (text : List Char) : Cut Clause :=
  (comparison text).map fun (name, comparison, expected) =>
    ⟨String.ofList name, comparison, String.ofList expected⟩

/-- A clause of a disjunction is an equality. -/
def disjunct (text : List Char) : Cut Clause :=
  (equality text).map fun (name, expected) =>
    ⟨String.ofList name, .equal, String.ofList expected⟩

/-- What a side of a compound expression says: the clause at its leftmost cut, or nothing. -/
inductive SideSays (cut : List Char → Cut Clause) (side : List Char) : Option Clause → Prop where
  | clause {core before : List Char} {clause : Clause}
      (trimmed : Trimmed side core) (leftmost : Leftmost (cut core) before clause) :
      SideSays cut side (some clause)
  | unread {core : List Char}
      (trimmed : Trimmed side core) (nothing : ¬ Possible (cut core)) :
      SideSays cut side none

/-- The text is cut at no comparison. -/
structure NoComparison (text : List Char) : Prop where
  noEquality : ¬ Possible (equality text)
  noInequality : ¬ Possible (inequality text)

/-- The text is neither a comparison nor compound. -/
structure Simple (text : List Char) : Prop extends NoComparison text where
  noConjunction : ¬ conjunction <:+: text
  noDisjunction : ¬ disjunction <:+: text

/-- The expression that a text says. -/
inductive Says (text : List Char) : Visibility → Prop where
  | equals {before name operand : List Char}
      (leftmost : Leftmost (equality text) before (name, operand)) :
      Says text (.equals (String.ofList name) (String.ofList operand))
  | notEquals {before name operand : List Char}
      (noEquality : ¬ Possible (equality text))
      (leftmost : Leftmost (inequality text) before (name, operand)) :
      Says text (.notEquals (String.ofList name) (String.ofList operand))
  | allOf {sides : List (List Char)} {clauses : List (Option Clause)}
      (noComparison : NoComparison text)
      (several : conjunction <:+: text) (pieces : Pieces conjunction text sides)
      (said : List.Forall₂ (SideSays conjunct) sides clauses) :
      Says text (.allOf clauses)
  | anyOf {sides : List (List Char)} {clauses : List (Option Clause)}
      (noComparison : NoComparison text) (noConjunction : ¬ conjunction <:+: text)
      (several : disjunction <:+: text) (pieces : Pieces disjunction text sides)
      (said : List.Forall₂ (SideSays disjunct) sides clauses) :
      Says text (.anyOf clauses)
  | includes {before name operand : List Char}
      (simple : Simple text)
      (leftmost : Leftmost (inclusion text) before (name, operand)) :
      Says text (.includes (String.ofList name) (String.ofList operand))
  | nonEmpty {before name : List Char}
      (simple : Simple text) (noInclusion : ¬ Possible (inclusion text))
      (leftmost : Leftmost (selection text) before (name, ())) :
      Says text (.nonEmpty (String.ofList name))
  | unrecognized
      (simple : Simple text) (noInclusion : ¬ Possible (inclusion text))
      (noSelection : ¬ Possible (selection text)) :
      Says text .unrecognized

/-- A name that the text is first cut at in one of the forms. -/
inductive Captures (text before name : List Char) : Prop where
  | equality {operand : List Char} (leftmost : Leftmost (equality text) before (name, operand))
  | inequality {operand : List Char} (leftmost : Leftmost (inequality text) before (name, operand))
  | comparison {found : Comparison × List Char}
      (leftmost : Leftmost (comparison text) before (name, found))
  | inclusion {operand : List Char} (leftmost : Leftmost (inclusion text) before (name, operand))
  | selection (leftmost : Leftmost (selection text) before (name, ()))

theorem Captures.wholeName {text before name : List Char} (captures : Captures text before name) :
    WholeName before name := by
  cases captures with
  | equality leftmost => exact leftmost.wholeName
  | inequality leftmost => exact leftmost.wholeName
  | comparison leftmost => exact leftmost.wholeName
  | inclusion leftmost => exact leftmost.wholeName
  | selection leftmost => exact leftmost.wholeName

/-! ## The forms -/

/-- What starts with the dot of a keyword does not start like a name. -/
theorem not_name_of_keyword {keyword tail rest : List Char} (dot : keyword.head? = some '.')
    (accepted : after? keyword tail = some rest) : ∀ c ∈ tail.head?, isNameChar c = false := by
  obtain ⟨word, rfl⟩ := List.head?_eq_some_iff.1 dot
  rw [after?_eq_some_iff.1 accepted]
  intro c first
  cases first
  rfl

theorem reads_equality (text : List Char) : Reads (named? equalsFollows?) text (equality text) := by
  refine reads_named (reads_comparison _ text rfl rfl) fun tail _ accepted => ?_
  obtain ⟨rest, keyword, -⟩ := Option.bind_eq_some_iff.1 accepted
  exact not_name_of_keyword rfl keyword

theorem reads_inequality (text : List Char) :
    Reads (named? notEqualsFollows?) text (inequality text) := by
  refine reads_named (reads_comparison _ text rfl rfl) fun tail _ accepted => ?_
  obtain ⟨rest, keyword, -⟩ := Option.bind_eq_some_iff.1 accepted
  exact not_name_of_keyword rfl keyword

theorem reads_inclusion (text : List Char) :
    Reads (named? inclusionFollows?) text (inclusion text) := by
  refine reads_named (Text.reads_inclusion _ text) fun tail _ accepted => ?_
  obtain ⟨rest, keyword, -⟩ := Option.bind_eq_some_iff.1 accepted
  exact not_name_of_keyword rfl keyword

theorem reads_selection (text : List Char) :
    Reads (named? selectionFollows?) text (selection text) := by
  refine reads_named (reads_literal _ text) fun tail _ accepted => ?_
  obtain ⟨rest, keyword, -⟩ := Option.map_eq_some_iff.1 accepted
  exact not_name_of_keyword rfl keyword

/-- The two operators do not start alike, so no comparison is of both kinds. -/
theorem notEqualsFollows?_of_equalsFollows? {text expected : List Char}
    (accepted : equalsFollows? text = some expected) : notEqualsFollows? text = none := by
  obtain ⟨rest, keyword, compared⟩ := Option.bind_eq_some_iff.1 accepted
  obtain ⟨after, operated, -⟩ := Option.bind_eq_some_iff.1 compared
  have other : after? "!=".toList (rest.dropWhile isBlank) = none := by
    rw [after?_eq_some_iff.1 operated]
    rfl
  rw [notEqualsFollows?, keyword, Option.bind_some, compared?, other, Option.bind_none]

theorem clauseFollows?_eq_some_iff {text expected : List Char} {comparison : Comparison} :
    clauseFollows? text = some (comparison, expected) ↔
      (after? ".value".toList text).bind (compared? comparison.operator) = some expected := by
  cases comparison with
  | equal =>
      change _ ↔ equalsFollows? text = some expected
      rw [clauseFollows?]
      split
      · next found => simp [found]
      · next nothing => simp [nothing]
  | different =>
      change _ ↔ notEqualsFollows? text = some expected
      rw [clauseFollows?]
      split
      · next found => simp [notEqualsFollows?_of_equalsFollows? found]
      · next nothing => simp

theorem reads_comparison (text : List Char) :
    Reads (named? clauseFollows?) text (comparison text) := by
  refine reads_named ?_ ?_
  · rintro before ⟨comparison, expected⟩
    simp only [clauseFollows?_eq_some_iff]
    cases comparison with
    | equal => exact Text.reads_comparison _ text rfl rfl before expected
    | different => exact Text.reads_comparison _ text rfl rfl before expected
  · rintro tail ⟨comparison, expected⟩ accepted
    obtain ⟨rest, keyword, -⟩ := Option.bind_eq_some_iff.1 (clauseFollows?_eq_some_iff.1 accepted)
    exact not_name_of_keyword rfl keyword

/-! ## The sides -/

/-- A side is read after trimming, and what is read from it is what it says. -/
theorem sideSays_iff {cut : List Char → Cut Clause} {read : List Char → Option Clause}
    (found : ∀ core clause, read core = some clause ↔ ∃ before, Leftmost (cut core) before clause)
    (nothing : ∀ core, read core = none ↔ ¬ Possible (cut core))
    (side : List Char) (said : Option Clause) : read (trim side) = said ↔ SideSays cut side said := by
  constructor
  · rintro rfl
    cases here : read (trim side) with
    | none => exact .unread (trimmed_trim side) ((nothing _).1 here)
    | some clause =>
        obtain ⟨before, leftmost⟩ := (found _ _).1 here
        exact .clause (trimmed_trim side) leftmost
  · intro meant
    cases meant with
    | clause trimmed leftmost =>
        rw [trim_eq_iff.2 trimmed]
        exact (found _ _).2 ⟨_, leftmost⟩
    | unread trimmed impossible =>
        rw [trim_eq_iff.2 trimmed]
        exact (nothing _).2 impossible

theorem clause?_trim_iff (side : List Char) (said : Option Clause) :
    clause? (trim side) = said ↔ SideSays conjunct side said :=
  sideSays_iff (fun core _ => (reads_comparison core).leftmost_map_iff)
    (fun core => (reads_comparison core).not_possible_map_iff) side said

theorem equalityClause?_trim_iff (side : List Char) (said : Option Clause) :
    equalityClause? (trim side) = said ↔ SideSays disjunct side said :=
  sideSays_iff (fun core _ => (reads_equality core).leftmost_map_iff)
    (fun core => (reads_equality core).not_possible_map_iff) side said

/-- The sides of a compound expression are read one by one. -/
theorem map_eq_iff_forall₂ {cut : List Char → Cut Clause} {read : List Char → Option Clause}
    (each : ∀ side said, read (trim side) = said ↔ SideSays cut side said)
    {sides : List (List Char)} {clauses : List (Option Clause)} :
    sides.map (fun side => read (trim side)) = clauses ↔
      List.Forall₂ (SideSays cut) sides clauses := by
  rw [← List.forall₂_eq_eq_eq, List.forall₂_map_left_iff]
  simp only [each]

/-! ## Reading -/

/-- A text that is no comparison is read as a compound or as a test of the selections. -/
theorem ofChars_eq_of_noComparison {text : List Char} (noComparison : NoComparison text) :
    ofChars text =
      if contains conjunction text then
        .allOf ((splitOn conjunction (by decide) text).map fun side => clause? (trim side))
      else if contains disjunction text then
        .anyOf ((splitOn disjunction (by decide) text).map fun side => equalityClause? (trim side))
      else
        match firstMatch? (named? inclusionFollows?) text with
        | some (name, value) => .includes (String.ofList name) (String.ofList value)
        | none =>
          match firstMatch? (named? selectionFollows?) text with
          | some (name, ()) => .nonEmpty (String.ofList name)
          | none => .unrecognized := by
  have reading := ofChars.eq_def text
  rw [(reads_equality text).not_possible_iff.2 noComparison.noEquality,
    (reads_inequality text).not_possible_iff.2 noComparison.noInequality] at reading
  exact reading

/-- A text says what is read from it. -/
theorem says_ofChars (text : List Char) : Says text (ofChars text) := by
  rw [ofChars]
  split
  · next name operand found =>
      obtain ⟨before, leftmost⟩ := (reads_equality text).leftmost_iff.1 found
      exact .equals leftmost
  next noEquality =>
  replace noEquality := (reads_equality text).not_possible_iff.1 noEquality
  split
  · next name operand found =>
      obtain ⟨before, leftmost⟩ := (reads_inequality text).leftmost_iff.1 found
      exact .notEquals noEquality leftmost
  next noInequality =>
  have noComparison : NoComparison text :=
    ⟨noEquality, (reads_inequality text).not_possible_iff.1 noInequality⟩
  split
  · next several =>
      exact .allOf noComparison (contains_iff.1 several) (pieces_splitOn _ text)
        ((map_eq_iff_forall₂ clause?_trim_iff).1 rfl)
  next noConjunction =>
  replace noConjunction := mt contains_iff.2 noConjunction
  split
  · next several =>
      exact .anyOf noComparison noConjunction (contains_iff.1 several) (pieces_splitOn _ text)
        ((map_eq_iff_forall₂ equalityClause?_trim_iff).1 rfl)
  next noDisjunction =>
  have simple : Simple text := ⟨noComparison, noConjunction, mt contains_iff.2 noDisjunction⟩
  split
  · next name operand found =>
      obtain ⟨before, leftmost⟩ := (reads_inclusion text).leftmost_iff.1 found
      exact .includes simple leftmost
  next noInclusion =>
  replace noInclusion := (reads_inclusion text).not_possible_iff.1 noInclusion
  split
  · next name found =>
      obtain ⟨before, leftmost⟩ := (reads_selection text).leftmost_iff.1 found
      exact .nonEmpty simple noInclusion leftmost
  · next noSelection =>
      exact .unrecognized simple noInclusion ((reads_selection text).not_possible_iff.1 noSelection)

/-- What a text says is read from it. -/
theorem Says.ofChars_eq {text : List Char} {expression : Visibility} (said : Says text expression) :
    ofChars text = expression := by
  cases said with
  | equals leftmost => rw [ofChars, (reads_equality text).leftmost_iff.2 ⟨_, leftmost⟩]
  | notEquals noEquality leftmost =>
      rw [ofChars, (reads_equality text).not_possible_iff.2 noEquality,
        (reads_inequality text).leftmost_iff.2 ⟨_, leftmost⟩]
  | allOf noComparison several pieces said =>
      rw [ofChars_eq_of_noComparison noComparison, if_pos (contains_iff.2 several),
        (splitOn_eq_iff _).2 pieces, (map_eq_iff_forall₂ clause?_trim_iff).2 said]
  | anyOf noComparison noConjunction several pieces said =>
      rw [ofChars_eq_of_noComparison noComparison, if_neg (mt contains_iff.1 noConjunction),
        if_pos (contains_iff.2 several), (splitOn_eq_iff _).2 pieces,
        (map_eq_iff_forall₂ equalityClause?_trim_iff).2 said]
  | includes simple leftmost =>
      rw [ofChars_eq_of_noComparison simple.toNoComparison,
        if_neg (mt contains_iff.1 simple.noConjunction),
        if_neg (mt contains_iff.1 simple.noDisjunction),
        (reads_inclusion text).leftmost_iff.2 ⟨_, leftmost⟩]
  | nonEmpty simple noInclusion leftmost =>
      rw [ofChars_eq_of_noComparison simple.toNoComparison,
        if_neg (mt contains_iff.1 simple.noConjunction),
        if_neg (mt contains_iff.1 simple.noDisjunction),
        (reads_inclusion text).not_possible_iff.2 noInclusion,
        (reads_selection text).leftmost_iff.2 ⟨_, leftmost⟩]
  | unrecognized simple noInclusion noSelection =>
      rw [ofChars_eq_of_noComparison simple.toNoComparison,
        if_neg (mt contains_iff.1 simple.noConjunction),
        if_neg (mt contains_iff.1 simple.noDisjunction),
        (reads_inclusion text).not_possible_iff.2 noInclusion,
        (reads_selection text).not_possible_iff.2 noSelection]

/-- A text is read as an expression exactly when it says that expression, and every name that
is captured, in the text or in a side of it, is a whole one. -/
theorem parse_some_eq_iff (raw : String) (expression : Visibility) :
    (parse (some raw) = expression ↔ Says raw.toList expression) ∧
      ∀ text before name, Captures text before name → WholeName before name := by
  refine ⟨⟨?_, Says.ofChars_eq⟩, fun _ _ _ => Captures.wholeName⟩
  rintro rfl
  exact says_ofChars raw.toList

/-- A comparison anywhere in the text comes before every other reading of it. -/
example :
    parse (some "if Q_1.value==\x27yes\x27 OR Q2.value == \x27no\x27") = .equals "Q_1" "yes" := by
  decide

/-- The text `if Q1.value == 'A'` compares the answer to `Q1`, and the blank before that name is
no part of it. -/
theorem sample_comparison_named_whole :
    Says "if Q1.value == \x27A\x27".toList (.equals "Q1" "A") ∧
      WholeName "if ".toList "Q1".toList := by
  have here : equality "if Q1.value == \x27A\x27".toList "if ".toList
      ("Q1".toList, "A".toList) := by
    refine ⟨by decide, List.all_eq_true.1 (by decide), by decide, by decide, " ".toList, " ".toList,
      [], List.all_eq_true.1 (by decide), List.all_eq_true.1 (by decide), by decide⟩
  have leftmost : Leftmost (equality "if Q1.value == \x27A\x27".toList) "if ".toList
      ("Q1".toList, "A".toList) :=
    (reads_equality _).leftmost_of_drop here (by decide)
  obtain ⟨reading, whole⟩ := parse_some_eq_iff "if Q1.value == \x27A\x27" (.equals "Q1" "A")
  exact ⟨reading.1 (by decide), whole _ _ _ (.equality leftmost)⟩

end Visibility

end Screening
