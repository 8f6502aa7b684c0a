/-
# Screening.Proofs.CompoundDisplay -- a compound expression reads no answer

A comparison anywhere in the text of a display expression is the whole of what the text
says.  So a text is read as a conjunction or a disjunction only where it holds no
comparison at all.  Its sides are stretches of it and hold none either, and a side without
a comparison is an unread clause: a conjunction that was read from a text shows its question
always, and a disjunction never does.

What else a text can say names one question, so whether a question is shown depends on the
answer to one other question at most.

* `NoComparison.of_within`: where a text has no comparison, no stretch of it has one;
* `Says.allOf_unread`, `Says.anyOf_unread`: every clause of a compound expression is unread;
* `isVisible_congr`: an expression reads no answer but those to its dependencies;
* `compound_reads_no_answer`: the same of every text and of every document that loads.
-/
import Screening.Proofs.Acceptance
import Screening.Proofs.Dependencies
import Screening.Proofs.DisplayLanguage

namespace Screening

open Text

set_option autoImplicit false

namespace Text

/-! ## Stretches of a text -/

theorem possible_comparison_of_within {keyword operator core text : List Char}
    (within : core <:+: text) (possible : Possible (.named (.comparison keyword operator core))) :
    Possible (.named (.comparison keyword operator text)) := by
  obtain ⟨front, back, rfl⟩ := within
  obtain ⟨before, ⟨name, operand⟩, nonempty, inside, here⟩ := possible
  refine ⟨front ++ before, (name, operand), nonempty, inside, ?_⟩
  have wider := Cut.comparison_widen front back here
  rwa [← List.append_assoc front before] at wider

end Text

namespace Visibility

/-! ## Compound texts -/

/-- Where a text has no comparison, no stretch of it has one. -/
theorem NoComparison.of_within {core text : List Char} (within : core <:+: text)
    (noComparison : NoComparison text) : NoComparison core where
  noEquality := mt (possible_comparison_of_within within) noComparison.noEquality
  noInequality := mt (possible_comparison_of_within within) noComparison.noInequality

/-- A side of a conjunction says nothing where there is no comparison of either kind. -/
theorem NoComparison.not_conjunct {core : List Char} (noComparison : NoComparison core) :
    ¬ Possible (conjunct core) := by
  rw [conjunct, possible_map_iff]
  rintro ⟨before, ⟨name, kind, expected⟩, nonempty, inside, here⟩
  cases kind with
  | equal => exact noComparison.noEquality ⟨before, (name, expected), nonempty, inside, here⟩
  | different => exact noComparison.noInequality ⟨before, (name, expected), nonempty, inside, here⟩

theorem NoComparison.not_disjunct {core : List Char} (noComparison : NoComparison core) :
    ¬ Possible (disjunct core) := by
  rw [disjunct, possible_map_iff]
  exact noComparison.noEquality

/-- The sides of a text without comparisons say nothing. -/
theorem unread_of_sides {cut : List Char → Cut Clause} {separator text : List Char}
    (nothing : ∀ {core : List Char}, NoComparison core → ¬ Possible (cut core))
    (noComparison : NoComparison text) {sides : List (List Char)} {clauses : List (Option Clause)}
    (pieces : Pieces separator text sides)
    (said : List.Forall₂ (SideSays cut) sides clauses) : ∀ clause ∈ clauses, clause = none := by
  have within : ∀ side ∈ sides, side <:+: text := fun side => pieces.within_of_mem
  clear pieces
  induction said with
  | nil => simp
  | @cons side clause sides clauses first _ ih =>
      rw [List.forall_mem_cons] at within ⊢
      refine ⟨?_, ih within.2⟩
      cases first with
      | unread => rfl
      | clause trimmed leftmost =>
          have here := noComparison.of_within (trimmed.core_within.trans within.1)
          exact absurd ⟨_, _, leftmost.here⟩ (nothing here)

/-- Every clause of a conjunction that a text says is unread. -/
theorem Says.allOf_unread {text : List Char} {clauses : List (Option Clause)}
    (said : Says text (.allOf clauses)) : ∀ clause ∈ clauses, clause = none := by
  cases said with
  | allOf noComparison _ pieces said =>
      exact unread_of_sides NoComparison.not_conjunct noComparison pieces said

/-- So is every clause of a disjunction. -/
theorem Says.anyOf_unread {text : List Char} {clauses : List (Option Clause)}
    (said : Says text (.anyOf clauses)) : ∀ clause ∈ clauses, clause = none := by
  cases said with
  | anyOf noComparison _ _ pieces said =>
      exact unread_of_sides NoComparison.not_disjunct noComparison pieces said

/-! ## Unread clauses -/

section Unread

variable {clauses : List (Option Clause)} (unread : ∀ clause ∈ clauses, clause = none)

include unread

theorem isVisible_allOf_of_unread (answers : AnswerSheet) :
    (allOf clauses).isVisible answers = true := by
  rw [isVisible, List.all_eq_true]
  intro clause member
  rw [unread clause member]

theorem isVisible_anyOf_of_unread (answers : AnswerSheet) :
    (anyOf clauses).isVisible answers = false := by
  rw [isVisible, List.any_eq_false]
  intro clause member
  simp [unread clause member]

theorem dependencies_of_unread :
    (allOf clauses).dependencies = [] ∧ (anyOf clauses).dependencies = [] := by
  have nothing : clauses.filterMap (fun clause => clause.map (·.questionId)) = [] := by
    rw [List.filterMap_eq_nil_iff]
    intro clause member
    rw [unread clause member, Option.map_none]
  exact ⟨nothing, nothing⟩

end Unread

/-! ## What an expression reads -/

/-- An expression reads no answer but those to its dependencies. -/
theorem isVisible_congr (expression : Visibility) {answers answers' : AnswerSheet}
    (same : ∀ id ∈ expression.dependencies, answers.get? id = answers'.get? id) :
    expression.isVisible answers = expression.isVisible answers' :=
  expression.isVisible_eq_of_agree fun id depends => .of_get?_eq (same id depends)

/-- Whatever a text says, it names one question at most. -/
theorem Says.length_dependencies_le {text : List Char} {expression : Visibility}
    (said : Says text expression) : expression.dependencies.length ≤ 1 := by
  cases expression with
  | always | unrecognized => exact Nat.zero_le 1
  | equals | notEquals | includes | nonEmpty => exact Nat.le_refl 1
  | allOf clauses =>
      rw [(dependencies_of_unread said.allOf_unread).1]
      exact Nat.zero_le 1
  | anyOf clauses =>
      rw [(dependencies_of_unread said.anyOf_unread).2]
      exact Nat.zero_le 1

/-- A text that is read says what it is read as. -/
theorem says_of_parse {raw : String} {expression : Visibility}
    (read : parse (some raw) = expression) : Says raw.toList expression :=
  read ▸ says_ofChars raw.toList

theorem length_dependencies_parse_le (showIf : Option String) :
    (parse showIf).dependencies.length ≤ 1 := by
  cases showIf with
  | none => exact Nat.zero_le 1
  | some raw => exact (says_ofChars raw.toList).length_dependencies_le

/-- **A compound expression reads no answer.**  A text that is read as a conjunction or as a
disjunction has no clause that was read, so the one is always visible and the other never, and
neither depends on an answer.  What any text says has one dependency at most; so the visibility
of a question in a document that loads depends on the answer to one other question at most. -/
theorem compound_reads_no_answer :
    (∀ (raw : String) (clauses : List (Option Clause)), parse (some raw) = .allOf clauses →
      (∀ clause ∈ clauses, clause = none) ∧
        (∀ answers, (parse (some raw)).isVisible answers = true) ∧
        (parse (some raw)).dependencies = []) ∧
    (∀ (raw : String) (clauses : List (Option Clause)), parse (some raw) = .anyOf clauses →
      (∀ clause ∈ clauses, clause = none) ∧
        (∀ answers, (parse (some raw)).isVisible answers = false) ∧
        (parse (some raw)).dependencies = []) ∧
    (∀ showIf, (parse showIf).dependencies.length ≤ 1) ∧
    ∀ (document : Questionnaire) (catalog : Catalog),
      Catalog.ofQuestionnaire document = .ok catalog → ∀ asked ∈ catalog.questions,
        asked.visibility.dependencies.length ≤ 1 ∧
          ∀ answers answers' : AnswerSheet,
            (∀ id ∈ asked.visibility.dependencies, answers.get? id = answers'.get? id) →
            asked.visibility.isVisible answers = asked.visibility.isVisible answers' := by
  refine ⟨?conjunction, ?disjunction, length_dependencies_parse_le, ?loaded⟩
  case conjunction =>
    intro raw clauses compound
    have unread := (says_of_parse compound).allOf_unread
    rw [compound]
    exact ⟨unread, isVisible_allOf_of_unread unread, (dependencies_of_unread unread).1⟩
  case disjunction =>
    intro raw clauses compound
    have unread := (says_of_parse compound).anyOf_unread
    rw [compound]
    exact ⟨unread, isVisible_anyOf_of_unread unread, (dependencies_of_unread unread).2⟩
  case loaded =>
    intro document catalog accepted asked member
    refine ⟨?_, fun answers answers' => isVisible_congr asked.visibility⟩
    rw [Catalog.questions_eq accepted] at member
    obtain ⟨⟨tierId, question⟩, -, rfl⟩ := List.mem_map.1 member
    exact length_dependencies_parse_le question.showIf

end Visibility

/-! ## A document with compound expressions -/

namespace Sample

/-- A comparison beside a clause that is not read. -/
def major : Question where
  questionId := "major"
  questionType := .freeText
  conditionalDisplay := some ⟨"visitor.ready AND enrolled.value == \x27yes\x27"⟩

/-- Two clauses that are not read. -/
def hobby : Question where
  questionId := "hobby"
  questionType := .freeText
  conditionalDisplay := some ⟨"visitor.ready OR enrolled.ready"⟩

def shown : Tier where
  tierId := "shown"
  tierOrder := 1
  questions := [major, hobby]

def display : Questionnaire where
  scholarships := []
  tiers := [shown]

def displayed : Catalog where
  metadata := {}
  processingInstructions := none
  scholarships := []
  tiers := (Tier.inOrder display.tiers).map .ofTier

theorem inOrder_display : Tier.inOrder display.tiers = [shown] := List.mergeSort_singleton shown

theorem display_accepted : Catalog.ofQuestionnaire display = .ok displayed :=
  Catalog.ofQuestionnaire_of_inOrder inOrder_display (by decide)

theorem major_asked : .ofQuestion "shown" major ∈ displayed.questions := by
  rw [Catalog.questions, displayed, inOrder_display]
  exact List.mem_cons_self

theorem dependencies_major :
    (ReadQuestion.ofQuestion "shown" major).visibility.dependencies = ["enrolled"] := by
  decide +kernel

end Sample

/-- A conjunction and a disjunction without comparisons, and a question whose expression
compares one answer beside a clause that is not read. -/
theorem sample_compound_reads_no_answer :
    Visibility.parse (some "visitor.ready AND enrolled.ready") = .allOf [none, none] ∧
      Visibility.parse (some "visitor.ready OR enrolled.ready") = .anyOf [none, none] ∧
      (∀ answers,
        (Visibility.parse (some "visitor.ready AND enrolled.ready")).isVisible answers = true) ∧
      (∀ answers,
        (Visibility.parse (some "visitor.ready OR enrolled.ready")).isVisible answers = false) ∧
      Catalog.ofQuestionnaire Sample.display = .ok Sample.displayed ∧
      .ofQuestion "shown" Sample.major ∈ Sample.displayed.questions ∧
      ∀ answers answers' : AnswerSheet, answers.get? "enrolled" = answers'.get? "enrolled" →
        (ReadQuestion.ofQuestion "shown" Sample.major).visibility.isVisible answers =
          (ReadQuestion.ofQuestion "shown" Sample.major).visibility.isVisible answers' := by
  have conjunction :
      Visibility.parse (some "visitor.ready AND enrolled.ready") = .allOf [none, none] := by
    decide +kernel
  have disjunction :
      Visibility.parse (some "visitor.ready OR enrolled.ready") = .anyOf [none, none] := by
    decide +kernel
  obtain ⟨always, never, -, loaded⟩ := Visibility.compound_reads_no_answer
  refine ⟨conjunction, disjunction, (always _ _ conjunction).2.1, (never _ _ disjunction).2.1,
    Sample.display_accepted, Sample.major_asked, fun answers answers' same => ?_⟩
  refine (loaded _ _ Sample.display_accepted _ Sample.major_asked).2 answers answers' ?_
  rw [Sample.dependencies_major]
  simpa using same

end Screening
