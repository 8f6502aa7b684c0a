/-
# Screening.Proofs.CanonicalText -- texts that say what they were written for

A form has a canonical text: its keyword, one space on both sides of an operator, and the operand
between quotes.  The operand does not matter to what is read, even if it has the keywords and
operators of forms that are tried before; only the separator of a compound text is looked for
between the quotes, too.

In a disjunction of several tests the quotes are many, and operators are looked for across them.
The quotes keep them out all the same, and the parenthesis that closes a test keeps every
separator on its side, so the text is cut at the joins and nowhere else.

* `Visibility.parse_notEqualsText` and its siblings: the texts with one operand;
* `SelectionTest.said`, `SelectionTest.said_joined`: what a test says, and what several say that
  are joined;
* `canonical_texts_read_back`: every canonical text is read as what it was written for.
-/
import Screening.Proofs.ConditionLanguage
import Screening.Proofs.DisplayLanguage
import Screening.Proofs.Operand

namespace Screening

open Text

set_option autoImplicit false

/-! ## Operands -/

/-- What can stand between quotes. -/
structure IsOperand (operand : String) : Prop where
  nonempty : operand ≠ ""
  free : quote ∉ operand.toList

theorem IsOperand.toList_ne_nil {operand : String} (valid : IsOperand operand) :
    operand.toList ≠ [] := by
  intro empty
  exact valid.nonempty (String.toList_eq_nil_iff.1 empty)

/-- An operand between two strings that have the quotes. -/
theorem IsOperand.quotes {operand : String} (valid : IsOperand operand) (opening closing : String)
    {front back : List Char} (opens : opening.toList = front ++ [quote])
    (closes : closing.toList = quote :: back) (front_free : quote ∉ front) (back_free : quote ∉ back) :
    Quotes (opening ++ operand ++ closing).toList front operand.toList back where
  whole := by
    rw [String.toList_append, String.toList_append, opens, closes]
    simp only [List.append_assoc, List.singleton_append]
  front := front_free
  operand := valid.free
  back := back_free

theorem isBlank_of_mem_space : ∀ c ∈ [' '], isBlank c := List.forall_mem_singleton.2 (by decide)

/-! ## Conditions -/

namespace Condition

section

variable {operand : String} (valid : IsOperand operand)

include valid

theorem parse_equalsText : parse ("value == \x27" ++ operand ++ "\x27") = .equals operand := by
  have quotes : Quotes _ "value == ".toList operand.toList [] :=
    valid.quotes "value == \x27" "\x27" rfl rfl (by decide) (by decide)
  have spelt : "value ==".toList <:+: "value == ".toList := by decide
  have here : equality ("value == \x27" ++ operand ++ "\x27").toList [] operand.toList :=
    ⟨valid.toList_ne_nil, valid.free, [' '], [' '], [], isBlank_of_mem_space, isBlank_of_mem_space,
      quotes.whole⟩
  have said := Says.equals (spelt.trans quotes.front_within) (.of_start here)
  rw [parse, said.ofChars_eq, String.ofList_toList]

theorem parse_notEqualsText : parse ("value != \x27" ++ operand ++ "\x27") = .notEquals operand := by
  have quotes : Quotes _ ("value ".toList ++ "!=".toList ++ [' ']) operand.toList [] :=
    valid.quotes "value != \x27" "\x27" rfl rfl (by decide) (by decide)
  have noEquality : ¬ Possible (equality ("value != \x27" ++ operand ++ "\x27").toList) :=
    quotes.not_possible_comparison isBlank_of_mem_space (by decide) rfl (by decide) (by decide)
      (by decide)
  have spelt : "value !=".toList <:+: "value ".toList ++ "!=".toList ++ [' '] := by decide
  have here : inequality ("value != \x27" ++ operand ++ "\x27").toList [] operand.toList :=
    ⟨valid.toList_ne_nil, valid.free, [' '], [' '], [], isBlank_of_mem_space, isBlank_of_mem_space,
      quotes.whole⟩
  have said := Says.notEquals (fun equal => noEquality equal.2) (spelt.trans quotes.front_within)
    (.of_start here)
  rw [parse, said.ofChars_eq, String.ofList_toList]

end

end Condition

/-- A test of the selections, as it is written. -/
structure SelectionTest where
  value : String
  negated : Bool
  deriving DecidableEq, Repr

namespace SelectionTest

/-- What stands before the test. -/
def sign (test : SelectionTest) : String := if test.negated then "!" else ""

def text (test : SelectionTest) : String :=
  test.sign ++ "selectedValues.includes(\x27" ++ test.value ++ "\x27)"

def condition (test : SelectionTest) : Condition := .includes test.value test.negated

/-- The test as one of several: nothing in its value ends it. -/
structure Joinable (test : SelectionTest) : Prop where
  operand : IsOperand test.value
  noEquality : ¬ "==".toList <:+: test.value.toList
  noInequality : ¬ "!=".toList <:+: test.value.toList
  single : ¬ " OR ".toList <:+: test.value.toList

variable {test : SelectionTest}

theorem sign_toList (test : SelectionTest) :
    test.sign.toList = if test.negated then ['!'] else [] := by
  rw [sign]
  cases test.negated <;> rfl

theorem quotes (valid : IsOperand test.value) :
    Quotes test.text.toList
      (test.sign.toList ++ "selectedValues.include".toList ++ "s(".toList ++ []) test.value.toList
      [')'] := by
  refine valid.quotes (test.sign ++ "selectedValues.includes(\x27") "\x27)" ?_ rfl ?_ (by decide)
  · rw [String.toList_append, sign_toList]
    cases test.negated <;> rfl
  · rw [sign_toList]
    cases test.negated <;> decide

/-- A literal without a quote is in a test if it is in its keyword or its value. -/
theorem infix_text (valid : IsOperand test.value) {literal : List Char} (absent : quote ∉ literal)
    (keyword : ¬ literal <:+: "!selectedValues.includes(".toList) (closing : ¬ literal <:+: [')'])
    (within : literal <:+: test.text.toList) : literal <:+: test.value.toList := by
  rcases (quotes valid).infix_or absent within with opening | inside | after
  · refine absurd (opening.trans ?_) keyword
    rw [sign_toList]
    cases test.negated <;> decide
  · exact inside
  · exact absurd after closing

theorem not_possible_comparison (valid : IsOperand test.value) {keyword operator : List Char}
    (length : operator.length = 2) (other : "s(".toList ≠ operator)
    (solid : operator.getLast?.any isBlank = false) :
    ¬ Possible (.comparison keyword operator test.text.toList) := by
  refine (quotes valid).not_possible_comparison (by simp) other length.symm ?_ (by decide) solid
  rw [← List.length_pos_iff, length]
  decide

theorem head?_text (valid : IsOperand test.value) :
    test.text.toList.head? = some (if test.negated then '!' else 's') := by
  rw [(quotes valid).whole, sign_toList]
  cases test.negated <;> rfl

theorem leftmost_inclusion (valid : IsOperand test.value) :
    Leftmost (Condition.inclusion test.text.toList) test.sign.toList test.value.toList := by
  refine ⟨⟨valid.toList_ne_nil, valid.free, [], ?_⟩, fun earlier other possible => ?_⟩
  · rw [(quotes valid).whole]
    simp
  · rw [sign_toList]
    cases negated : test.negated with
    | false => exact Nat.zero_le earlier.length
    | true =>
        -- at the very start stands the negation, not the keyword
        rcases earlier with _ | ⟨c, earlier⟩
        · obtain ⟨-, -, rest, whole⟩ := possible
          have first := head?_text valid
          rw [whole, negated] at first
          exact absurd (Option.some.inj first) (by decide)
        · exact Nat.succ_le_succ (Nat.zero_le _)

theorem not_disjunction_text (valid : IsOperand test.value)
    (single : ¬ Condition.disjunction <:+: test.value.toList) :
    ¬ Condition.disjunction <:+: test.text.toList :=
  mt (infix_text valid (by decide) (by decide) (by decide)) single

/-- What a single test says. -/
theorem said (valid : IsOperand test.value) (single : ¬ Condition.disjunction <:+: test.value.toList) :
    Condition.Says test.text.toList test.condition := by
  have noEquality : ¬ Condition.IsEquality test.text.toList := fun equal =>
    not_possible_comparison valid rfl (by decide) (by decide) equal.2
  have noInequality : ¬ Condition.IsInequality test.text.toList := fun unequal =>
    not_possible_comparison valid rfl (by decide) (by decide) unequal.2
  have said := Condition.Says.includes noEquality noInequality (not_disjunction_text valid single)
    (leftmost_inclusion valid)
  have condition : test.condition =
      .includes (String.ofList test.value.toList) (test.text.toList.head? = some '!') := by
    rw [SelectionTest.condition, String.ofList_toList, head?_text valid]
    cases test.negated <;> rfl
  rw [condition]
  exact said

theorem text_eq_concat (valid : IsOperand test.value) :
    ∃ front, test.text.toList = front ++ [')'] :=
  ⟨_, (quotes valid).whole⟩

theorem trimmed_text (valid : IsOperand test.value) : Trimmed test.text.toList test.text.toList where
  within := ⟨[], [], by simp, by simp, by simp⟩
  first := by
    intro c here
    rw [head?_text valid] at here
    cases here
    cases test.negated <;> rfl
  last := by
    obtain ⟨front, closes⟩ := text_eq_concat valid
    intro c here
    rw [closes, List.getLast?_concat] at here
    cases here
    rfl

/-! ## Several tests -/

/-- The tests, one after the other, as the sides of a disjunction. -/
def joined (tests : List SelectionTest) : List Char :=
  Condition.disjunction.intercalate (tests.map (·.text.toList))

theorem joined_singleton (test : SelectionTest) : joined [test] = test.text.toList :=
  List.intercalate_singleton

theorem joined_cons_cons (test next : SelectionTest) (tests : List SelectionTest) :
    joined (test :: next :: tests) =
      test.text.toList ++ Condition.disjunction ++ joined (next :: tests) :=
  List.intercalate_cons_cons

/-- A literal without a space that is in no test is not in what they are joined to. -/
theorem not_infix_joined {literal : List Char} (absent : ' ' ∉ literal)
    (between : ¬ literal <:+: "OR".toList) {tests : List SelectionTest}
    (each : ∀ test ∈ tests, ¬ literal <:+: test.text.toList) : ¬ literal <:+: joined tests := by
  induction tests with
  | nil =>
      intro within
      rw [List.infix_nil.1 within] at between
      exact between List.nil_infix
  | cons test tests ih =>
      obtain ⟨here, later⟩ := List.forall_mem_cons.1 each
      cases tests with
      | nil =>
          rw [joined_singleton]
          exact here
      | cons next tests =>
          intro within
          have apart : joined (test :: next :: tests) =
              test.text.toList ++ ' ' :: ("OR".toList ++ ' ' :: joined (next :: tests)) := by
            rw [joined_cons_cons, List.append_assoc]
            rfl
          rw [apart] at within
          rcases within_side absent within with inTest | after
          · exact here inTest
          · exact (within_side absent after).elim between (ih later)

/-- Neither operator is in the joined text if it is in no value. -/
theorem not_operator_joined {operator : List Char}
    (either : operator = "==".toList ∨ operator = "!=".toList) {tests : List SelectionTest}
    (operands : ∀ test ∈ tests, IsOperand test.value)
    (free : ∀ test ∈ tests, ¬ operator <:+: test.value.toList) : ¬ operator <:+: joined tests := by
  rcases either with rfl | rfl
  all_goals
    refine not_infix_joined (by decide) (by decide) fun test member within => ?_
    exact free test member
      (infix_text (operands test member) (by decide) (by decide) (by decide) within)

/-- The joined text is cut at the joins, and nowhere else. -/
theorem pieces_joined {tests : List SelectionTest} (nonempty : tests ≠ [])
    (joinable : ∀ test ∈ tests, test.Joinable) :
    Pieces Condition.disjunction (joined tests) (tests.map (·.text.toList)) := by
  induction tests with
  | nil => exact absurd rfl nonempty
  | cons test tests ih =>
      obtain ⟨here, later⟩ := List.forall_mem_cons.1 joinable
      have free := not_disjunction_text here.operand here.single
      cases tests with
      | nil =>
          rw [joined_singleton]
          exact .whole free
      | cons next tests =>
          obtain ⟨front, closes⟩ := text_eq_concat here.operand
          have first : FirstCut Condition.disjunction (joined (test :: next :: tests))
              test.text.toList (joined (next :: tests)) := by
            rw [joined_cons_cons]
            rw [closes] at free ⊢
            exact firstCut_append _ (by decide) free
          exact .cut first (ih (List.cons_ne_nil next tests) later)

theorem sidesSay {tests : List SelectionTest} (joinable : ∀ test ∈ tests, test.Joinable) :
    Condition.SidesSay (tests.map (·.text.toList)) (tests.map condition) := by
  induction tests with
  | nil => exact .nil
  | cons test tests ih =>
      obtain ⟨here, later⟩ := List.forall_mem_cons.1 joinable
      exact .cons (trimmed_text here.operand) (said here.operand here.single) (ih later)

/-- What several tests say that are joined. -/
theorem said_joined {tests : List SelectionTest} (several : 2 ≤ tests.length)
    (joinable : ∀ test ∈ tests, test.Joinable) :
    Condition.Says (joined tests) (.anyOf (tests.map condition)) := by
  have operands : ∀ test ∈ tests, IsOperand test.value := fun test member =>
    (joinable test member).operand
  have noEqualitySign := not_operator_joined (.inl rfl) operands fun test member =>
    (joinable test member).noEquality
  have noInequalitySign := not_operator_joined (.inr rfl) operands fun test member =>
    (joinable test member).noInequality
  have equalSpelt : "==".toList <:+: "value ==".toList := by decide
  have unequalSpelt : "!=".toList <:+: "value !=".toList := by decide
  refine .anyOf (fun equal => noEqualitySign (equalSpelt.trans equal.1))
    (fun unequal => noInequalitySign (unequalSpelt.trans unequal.1)) ?_
    (pieces_joined (List.ne_nil_of_length_pos (by omega)) joinable) (sidesSay joinable)
  match tests, several with
  | test :: next :: tests, _ => exact ⟨test.text.toList, joined (next :: tests),
      (joined_cons_cons test next tests).symm⟩

end SelectionTest

/-- A list is held against every test of a disjunction. -/
theorem Condition.holds_tests_iff (tests : List SelectionTest) (selected : List String) :
    (Condition.anyOf (tests.map (·.condition))).holds (.multiple selected) ↔
      ∃ test ∈ tests, (selected.contains test.value != test.negated) = true := by
  rw [holds_anyOf, List.any_map, List.any_eq_true]
  rfl

/-! ## Display expressions -/

/-- A name that an expression can refer to a question by. -/
structure IsName (name : String) : Prop where
  nonempty : name ≠ ""
  inside : ∀ c ∈ name.toList, isNameChar c

namespace IsName

variable {name : String} (valid : IsName name)

include valid

theorem toList_ne_nil : name.toList ≠ [] := by
  intro empty
  exact valid.nonempty (String.toList_eq_nil_iff.1 empty)

theorem not_mem {c : Char} (other : isNameChar c = false) : c ∉ name.toList := by
  intro member
  rw [valid.inside c member] at other
  cases other

/-- A literal with a space is in no name, and so not in a name and a keyword. -/
theorem not_infix_keyword {literal keyword : List Char} (space : ' ' ∈ literal)
    (absent : '.' ∉ literal) (free : ¬ literal <:+: keyword) :
    ¬ literal <:+: name.toList ++ '.' :: keyword := by
  intro within
  rcases within_side absent within with inName | inKeyword
  · exact valid.not_mem (by decide) (inName.subset space)
  · exact free inKeyword

/-- So if it is in a text with a name, a keyword and an operand, it is in the operand. -/
theorem infix_operand {text literal keyword operand back : List Char}
    (quotes : Quotes text (name.toList ++ '.' :: keyword) operand back) (unquoted : quote ∉ literal)
    (space : ' ' ∈ literal) (absent : '.' ∉ literal) (free : ¬ literal <:+: keyword)
    (free' : ¬ literal <:+: back) (within : literal <:+: text) : literal <:+: operand := by
  rcases quotes.infix_or unquoted within with before | inside | after
  · exact absurd before (valid.not_infix_keyword space absent free)
  · exact inside
  · exact absurd after free'

end IsName

namespace Visibility

section

variable {name operand : String} (named : IsName name) (valid : IsOperand operand)

include named valid

/-- The operand of a text that starts with a name and a keyword. -/
theorem quotes_named (keyword closing : String) {front back : List Char}
    (opens : keyword.toList = front ++ [quote]) (closes : closing.toList = quote :: back)
    (front_free : quote ∉ front) (back_free : quote ∉ back) :
    Quotes (name ++ keyword ++ operand ++ closing).toList (name.toList ++ front) operand.toList
      back := by
  refine valid.quotes (name ++ keyword) closing ?_ closes ?_ back_free
  · rw [String.toList_append, opens, List.append_assoc]
  · rw [List.mem_append, not_or]
    exact ⟨named.not_mem (by decide), front_free⟩

theorem parse_equalsText :
    parse (some (name ++ ".value == \x27" ++ operand ++ "\x27")) = .equals name operand := by
  have quotes : Quotes _ (name.toList ++ ".value == ".toList) operand.toList [] :=
    quotes_named named valid ".value == \x27" "\x27" rfl rfl (by decide) (by decide)
  have here : equality (name ++ ".value == \x27" ++ operand ++ "\x27").toList []
      (name.toList, operand.toList) := by
    refine ⟨named.toList_ne_nil, named.inside, valid.toList_ne_nil, valid.free, [' '], [' '], [],
      isBlank_of_mem_space, isBlank_of_mem_space, ?_⟩
    rw [quotes.whole]
    simp [Comparison.operator]
  have said := Says.equals (.of_start here)
  rw [parse, said.ofChars_eq, String.ofList_toList, String.ofList_toList]

theorem parse_notEqualsText :
    parse (some (name ++ ".value != \x27" ++ operand ++ "\x27")) = .notEquals name operand := by
  have quotes : Quotes _ (name.toList ++ (".value ".toList ++ "!=".toList ++ [' ']))
      operand.toList [] :=
    quotes_named named valid ".value != \x27" "\x27" rfl rfl (by decide) (by decide)
  rw [← List.append_assoc, ← List.append_assoc] at quotes
  have noEquality : ¬ Possible (equality (name ++ ".value != \x27" ++ operand ++ "\x27").toList) :=
    not_possible_named (quotes.not_possible_comparison isBlank_of_mem_space (by decide) rfl
      (by decide) (by decide) (by decide))
  have here : inequality (name ++ ".value != \x27" ++ operand ++ "\x27").toList []
      (name.toList, operand.toList) := by
    refine ⟨named.toList_ne_nil, named.inside, valid.toList_ne_nil, valid.free, [' '], [' '], [],
      isBlank_of_mem_space, isBlank_of_mem_space, ?_⟩
    rw [quotes.whole]
    simp [Comparison.operator]
  have said := Says.notEquals noEquality (.of_start here)
  rw [parse, said.ofChars_eq, String.ofList_toList, String.ofList_toList]

theorem parse_includesText (noConjunction : ¬ conjunction <:+: operand.toList)
    (noDisjunction : ¬ disjunction <:+: operand.toList) :
    parse (some (name ++ ".selectedValues.includes(\x27" ++ operand ++ "\x27)")) =
      .includes name operand := by
  have quotes : Quotes _ (name.toList ++ ('.' :: "selectedValues.includes(".toList)) operand.toList
      [')'] :=
    quotes_named named valid ".selectedValues.includes(\x27" "\x27)" rfl rfl (by decide) (by decide)
  have ending : name.toList ++ ('.' :: "selectedValues.includes(".toList) =
      name.toList ++ ".selectedValues.include".toList ++ "s(".toList ++ [] := by
    rw [List.append_nil, List.append_assoc]
    rfl
  have spread := quotes
  rw [ending] at spread
  have here : inclusion (name ++ ".selectedValues.includes(\x27" ++ operand ++ "\x27)").toList []
      (name.toList, operand.toList) := by
    refine ⟨named.toList_ne_nil, named.inside, valid.toList_ne_nil, valid.free, [], ?_⟩
    rw [quotes.whole]
    simp
  have simple : Simple (name ++ ".selectedValues.includes(\x27" ++ operand ++ "\x27)").toList := by
    refine ⟨⟨?_, ?_⟩, fun both => ?_, fun either => ?_⟩
    · exact not_possible_named (spread.not_possible_comparison (by simp) (by decide) rfl
        (by decide) (by decide) (by decide))
    · exact not_possible_named (spread.not_possible_comparison (by simp) (by decide) rfl
        (by decide) (by decide) (by decide))
    · exact noConjunction (named.infix_operand quotes (by decide) (by decide) (by decide) (by decide)
        (by decide) both)
    · exact noDisjunction (named.infix_operand quotes (by decide) (by decide) (by decide) (by decide)
        (by decide) either)
  have said := Says.includes simple (.of_start here)
  rw [parse, said.ofChars_eq, String.ofList_toList, String.ofList_toList]

end

theorem parse_nonEmptyText {name : String} (named : IsName name) :
    parse (some (name ++ ".selectedOptions.length > 0")) = .nonEmpty name := by
  have text : (name ++ ".selectedOptions.length > 0").toList =
      name.toList ++ '.' :: "selectedOptions.length > 0".toList := String.toList_append
  have free : quote ∉ (name ++ ".selectedOptions.length > 0").toList := by
    rw [text, List.mem_append, not_or]
    exact ⟨named.not_mem (by decide), by decide⟩
  have here : selection (name ++ ".selectedOptions.length > 0").toList [] (name.toList, ()) := by
    refine ⟨named.toList_ne_nil, named.inside, [], ?_⟩
    rw [text, List.append_nil]
    rfl
  have simple : Simple (name ++ ".selectedOptions.length > 0").toList := by
    refine ⟨⟨?_, ?_⟩, ?_, ?_⟩
    · exact not_possible_named (not_possible_comparison_of_free free)
    · exact not_possible_named (not_possible_comparison_of_free free)
    · rw [text]
      exact named.not_infix_keyword (by decide) (by decide) (by decide)
    · rw [text]
      exact named.not_infix_keyword (by decide) (by decide) (by decide)
  have said := Says.nonEmpty simple (not_possible_named (not_possible_inclusion_of_free free))
    (.of_start here)
  rw [parse, said.ofChars_eq, String.ofList_toList]

end Visibility

/-- **Canonical texts are read as what they were written for.**  A comparison of a question's
answer, a test of its selections, and a test for any selection are read as such, whatever stands
between the quotes, except that a separator there would divide a test.  So are the conditions, and
several tests that are joined are read as the disjunction of these tests in their order, which
holds of a list exactly if one of the tests does. -/
theorem canonical_texts_read_back :
    (∀ name operand : String, IsName name → IsOperand operand →
      Visibility.parse (some (name ++ ".value == \x27" ++ operand ++ "\x27")) =
        .equals name operand ∧
      Visibility.parse (some (name ++ ".value != \x27" ++ operand ++ "\x27")) =
        .notEquals name operand ∧
      (¬ " AND ".toList <:+: operand.toList → ¬ " OR ".toList <:+: operand.toList →
        Visibility.parse (some (name ++ ".selectedValues.includes(\x27" ++ operand ++ "\x27)")) =
          .includes name operand)) ∧
    (∀ name : String, IsName name →
      Visibility.parse (some (name ++ ".selectedOptions.length > 0")) = .nonEmpty name) ∧
    (∀ operand : String, IsOperand operand →
      Condition.parse ("value == \x27" ++ operand ++ "\x27") = .equals operand ∧
      Condition.parse ("value != \x27" ++ operand ++ "\x27") = .notEquals operand ∧
      (¬ " OR ".toList <:+: operand.toList →
        Condition.parse ("selectedValues.includes(\x27" ++ operand ++ "\x27)") =
          .includes operand false ∧
        Condition.parse ("!selectedValues.includes(\x27" ++ operand ++ "\x27)") =
          .includes operand true)) ∧
    ∀ tests : List SelectionTest, 2 ≤ tests.length → (∀ test ∈ tests, test.Joinable) →
      Condition.parse (" OR ".intercalate (tests.map (·.text))) =
        .anyOf (tests.map fun test => .includes test.value test.negated) ∧
      ∀ selected : List String,
        (Condition.parse (" OR ".intercalate (tests.map (·.text)))).holds (.multiple selected) ↔
          ∃ test ∈ tests, (selected.contains test.value != test.negated) = true := by
  have single {operand : String} (valid : IsOperand operand)
      (whole : ¬ " OR ".toList <:+: operand.toList) (negated : Bool) :
      Condition.parse (SelectionTest.text ⟨operand, negated⟩) = .includes operand negated := by
    have said : Condition.Says (SelectionTest.text ⟨operand, negated⟩).toList
        (SelectionTest.condition ⟨operand, negated⟩) := SelectionTest.said valid whole
    exact said.ofChars_eq
  refine ⟨?expressions, fun _ => Visibility.parse_nonEmptyText, ?conditions, ?disjunctions⟩
  case expressions =>
    intro name operand named valid
    exact ⟨Visibility.parse_equalsText named valid, Visibility.parse_notEqualsText named valid,
      Visibility.parse_includesText named valid⟩
  case conditions =>
    intro operand valid
    exact ⟨Condition.parse_equalsText valid, Condition.parse_notEqualsText valid, fun whole =>
      ⟨single valid whole false, single valid whole true⟩⟩
  case disjunctions =>
    intro tests several joinable
    have text : (" OR ".intercalate (tests.map (·.text))).toList = SelectionTest.joined tests := by
      rw [String.toList_intercalate, List.map_map]
      rfl
    have reads : Condition.parse (" OR ".intercalate (tests.map (·.text))) =
        .anyOf (tests.map (·.condition)) := by
      rw [Condition.parse, text, (SelectionTest.said_joined several joinable).ofChars_eq]
    refine ⟨reads, fun selected => ?_⟩
    rw [reads, Condition.holds_tests_iff]

namespace Sample

theorem isName_major : IsName "Q_1" where
  nonempty := by decide
  inside := List.all_eq_true.1 (by decide)

/-- An operand with the operators, the keywords and a line break. -/
def crowded : String := "a.value != b\nvalue == c AND d OR selectedValues.includes(e)"

theorem isOperand_crowded : IsOperand crowded where
  nonempty := by decide
  free := by decide

/-- One without separators. -/
def terse : String := "OR=\n.value = ! (a) AND"

theorem isOperand_terse : IsOperand terse where
  nonempty := by decide
  free := by decide

def tests : List SelectionTest := [⟨terse, true⟩, ⟨"=", false⟩, ⟨" OR", true⟩]

theorem joinable_tests : ∀ test ∈ tests, test.Joinable := by
  intro test member
  simp only [tests, List.mem_cons, List.not_mem_nil, or_false] at member
  rcases member with rfl | rfl | rfl
  · exact ⟨isOperand_terse, by decide, by decide, by decide⟩
  · exact ⟨⟨by decide, by decide⟩, by decide, by decide, by decide⟩
  · exact ⟨⟨by decide, by decide⟩, by decide, by decide, by decide⟩

end Sample

/-- Comparisons with an operand that holds the other forms, and three tests that are joined. -/
theorem sample_canonical_texts_read_back :
    IsName "Q_1" ∧ IsOperand Sample.crowded ∧
      Visibility.parse (some ("Q_1" ++ ".value != \x27" ++ Sample.crowded ++ "\x27")) =
        .notEquals "Q_1" Sample.crowded ∧
      Visibility.parse (some ("Q_1" ++ ".selectedValues.includes(\x27" ++ Sample.terse ++ "\x27)")) =
        .includes "Q_1" Sample.terse ∧
      Condition.parse ("value != \x27" ++ Sample.crowded ++ "\x27") = .notEquals Sample.crowded ∧
      Condition.parse ("!selectedValues.includes(\x27" ++ Sample.terse ++ "\x27)") =
        .includes Sample.terse true ∧
      (∀ test ∈ Sample.tests, test.Joinable) ∧
      Condition.parse (" OR ".intercalate (Sample.tests.map (·.text))) =
        .anyOf [.includes Sample.terse true, .includes "=" false, .includes " OR" true] := by
  obtain ⟨expressions, -, conditions, joins⟩ := canonical_texts_read_back
  obtain ⟨-, different, -⟩ := expressions _ _ Sample.isName_major Sample.isOperand_crowded
  obtain ⟨-, -, includes⟩ := expressions _ _ Sample.isName_major Sample.isOperand_terse
  obtain ⟨-, unequal, -⟩ := conditions _ Sample.isOperand_crowded
  obtain ⟨-, -, tests⟩ := conditions _ Sample.isOperand_terse
  exact ⟨Sample.isName_major, Sample.isOperand_crowded, different,
    includes (by decide) (by decide), unequal, (tests (by decide)).2, Sample.joinable_tests,
    (joins Sample.tests (by decide) Sample.joinable_tests).1⟩

end Screening
