/-
# Screening.Proofs.Polarity -- which tests of the selections are negated

A test of the selections is negated by a sign in front of it.  Where the test is a side of a
disjunction, the blanks around it are taken off before the sign is looked for.  Where it is the
whole text, they are not: the sign counts only as the very first character.  So a rule text that
was indented is read with the sign that it shows as a side, and without it when it stands alone.

Blanks change nothing else.  What stands around a test does not keep it from being found, as it
starts and ends with characters that are no blanks, and the other forms are not found in a text
without its blanks if they are not found in the text.  So a text that is read as a test is read as
a test of the same item without its blanks, and the two agree in their sign unless blanks stand
before it (`SignBehindBlanks`).

* `Cut.inclusion_between_blanks`: a test is found where it is found without the blanks;
* `head?_trim_eq_some_iff`: what a text starts with after its blanks;
* `ofChars_trim_of_includes`: how a test is read as a side;
* `negation_overlooked_behind_blanks`: the sign of a text can be overlooked;
* `negation_counts_at_the_start`: and when it is.
-/
import Mathlib.Data.List.Forall2
import Screening.Proofs.FlatDisjunction

namespace Screening

open Text

set_option autoImplicit false

namespace Text

/-! ## Blanks around a text -/

theorem not_mem_of_blanks {blanks : List Char} {c : Char} (blank : ∀ d ∈ blanks, isBlank d)
    (solid : isBlank c = false) : c ∉ blanks := by
  intro member
  have blank' := blank c member
  rw [solid] at blank'
  cases blank'

/-- What starts with no blank starts after the blanks at the start of the text. -/
theorem after_blanks {front tail before rest : List Char} {c : Char}
    (blanks : ∀ d ∈ front, isBlank d) (solid : isBlank c = false)
    (whole : front ++ tail = before ++ c :: rest) :
    ∃ before', before = front ++ before' ∧ tail = before' ++ c :: rest := by
  have apart := not_mem_of_blanks blanks solid
  rcases List.append_eq_append_iff.1 whole with inside | ⟨reached, outside, onward⟩
  · exact inside
  rcases reached with _ | ⟨d, reached⟩
  · exact ⟨[], by simpa using outside.symm, by simpa using onward.symm⟩
  · obtain ⟨rfl, -⟩ := List.cons_eq_cons.1 onward
    have member : c ∈ front := by rw [outside]; simp
    exact absurd member apart

/-- What ends with no blank ends before the blanks at the end of the text. -/
theorem before_blanks {core back before rest : List Char} {c : Char}
    (blanks : ∀ d ∈ back, isBlank d) (solid : isBlank c = false)
    (whole : core ++ back = before ++ c :: rest) :
    ∃ rest', rest = rest' ++ back ∧ core = before ++ c :: rest' := by
  have apart := not_mem_of_blanks blanks solid
  rcases List.append_eq_append_iff.1 whole with ⟨reached, here, onward⟩ | ⟨reached, inside, onward⟩
  · -- the blanks would have to start with what is left of the text, and that has the character
    have member : c ∈ back := by rw [onward]; simp
    exact absurd member apart
  · rcases reached with _ | ⟨d, reached⟩
    · have member : c ∈ back := by rw [← List.nil_append back, ← onward]; simp
      exact absurd member apart
    · obtain ⟨rfl, rfl⟩ := List.cons_eq_cons.1 onward
      exact ⟨reached, rfl, inside⟩

/-- A test of the selections is found where it is found without the blanks around the text. -/
theorem Cut.inclusion_between_blanks {keyword front core back before operand : List Char} {k : Char}
    (first : keyword.head? = some k) (solid : isBlank k = false)
    (blanks : ∀ c ∈ front, isBlank c) (blanks' : ∀ c ∈ back, isBlank c) :
    Cut.inclusion keyword (front ++ core ++ back) before operand ↔
      ∃ before', before = front ++ before' ∧ Cut.inclusion keyword core before' operand := by
  obtain ⟨more, rfl⟩ := List.head?_eq_some_iff.1 first
  constructor
  · rintro ⟨nonempty, free, rest, whole⟩
    have closed : front ++ core ++ back =
        (before ++ (k :: more) ++ [quote] ++ operand ++ [quote]) ++ ')' :: rest := by
      simpa using whole
    obtain ⟨rest', rfl, ended⟩ := before_blanks blanks' (by decide) closed
    have opened : front ++ core =
        before ++ k :: (more ++ [quote] ++ operand ++ [quote] ++ ')' :: rest') := by
      simpa using ended
    obtain ⟨before', rfl, started⟩ := after_blanks blanks solid opened
    exact ⟨before', rfl, nonempty, free, rest', by simpa using started⟩
  · rintro ⟨before', rfl, nonempty, free, rest, rfl⟩
    exact ⟨nonempty, free, rest ++ back, by simp⟩

/-- Cuts that correspond up to what stands in front of them have corresponding leftmost ones. -/
theorem exists_leftmost_iff_of_shift {α : Type} {cut shifted : Cut α} {front : List Char}
    (shift : ∀ before found, shifted before found ↔
      ∃ before', before = front ++ before' ∧ cut before' found) {found : α} :
    (∃ before, Leftmost shifted before found) ↔ ∃ before, Leftmost cut before found := by
  constructor
  · rintro ⟨_, here, least⟩
    obtain ⟨before, rfl, here'⟩ := (shift _ _).1 here
    refine ⟨before, here', fun earlier other possible => ?_⟩
    have shorter := least _ other ((shift _ _).2 ⟨earlier, rfl, possible⟩)
    rw [List.length_append, List.length_append] at shorter
    exact Nat.le_of_add_le_add_left shorter
  · rintro ⟨before, here, least⟩
    refine ⟨front ++ before, (shift _ _).2 ⟨before, rfl, here⟩, fun _ other possible => ?_⟩
    obtain ⟨earlier, rfl, possible'⟩ := (shift _ _).1 possible
    rw [List.length_append, List.length_append]
    exact Nat.add_le_add_left (least earlier other possible') _

/-- What a text starts with once its blanks are taken off stands there after blanks only. -/
theorem head?_trim_eq_some_iff {text : List Char} {c : Char} (solid : isBlank c = false) :
    (trim text).head? = some c ↔
      ∃ gap rest, (∀ d ∈ gap, isBlank d) ∧ text = gap ++ c :: rest := by
  have trimmed := trimmed_trim text
  obtain ⟨front, back, whole, blanks, blanks'⟩ := trimmed.within
  constructor
  · intro first
    obtain ⟨core, starts⟩ := List.head?_eq_some_iff.1 first
    exact ⟨front, core ++ back, blanks, by rw [whole, starts]; simp⟩
  · rintro ⟨gap, rest, blank, rfl⟩
    rw [List.append_assoc] at whole
    obtain ⟨gap', rfl, started⟩ := after_blanks blanks solid whole.symm
    obtain ⟨rest', -, ended⟩ := before_blanks blanks' solid started
    rcases gap' with _ | ⟨d, gap'⟩
    · rw [ended]
      rfl
    · have first : isBlank d = false := trimmed.first d (by rw [ended]; rfl)
      exact absurd (by simp) (not_mem_of_blanks blank first)

end Text

namespace Condition

/-! ## The sign -/

/-- The negation sign is what the text starts with. -/
def Signed (text : List Char) : Prop := text.head? = some '!'

instance (text : List Char) : Decidable (Signed text) :=
  inferInstanceAs (Decidable (text.head? = some '!'))

/-- Blanks stand before the negation sign. -/
def SignBehindBlanks (text : List Char) : Prop :=
  ∃ gap rest, gap ≠ [] ∧ (∀ c ∈ gap, isBlank c) ∧ text = gap ++ '!' :: rest

theorem SignBehindBlanks.not_signed {text : List Char} (behind : SignBehindBlanks text) :
    ¬ Signed text := by
  obtain ⟨gap, rest, nonempty, blanks, rfl⟩ := behind
  obtain ⟨c, gap, rfl⟩ := List.exists_cons_of_ne_nil nonempty
  intro signed
  obtain rfl : c = '!' := Option.some.inj signed
  exact absurd (blanks '!' List.mem_cons_self) (by decide)

/-- A text that starts with a sign after its blanks starts with it, or has it behind blanks. -/
theorem signed_trim_iff {text : List Char} :
    Signed (trim text) ↔ Signed text ∨ SignBehindBlanks text := by
  rw [Signed, head?_trim_eq_some_iff (by decide)]
  constructor
  · rintro ⟨gap, rest, blanks, rfl⟩
    rcases gap with _ | ⟨c, gap⟩
    · exact .inl rfl
    · exact .inr ⟨c :: gap, rest, List.cons_ne_nil c gap, blanks, rfl⟩
  · rintro (signed | ⟨gap, rest, -, blanks, whole⟩)
    · obtain ⟨rest, rfl⟩ := List.head?_eq_some_iff.1 signed
      exact ⟨[], rest, by simp, rfl⟩
    · exact ⟨gap, rest, blanks, whole⟩

/-! ## Tests of the selections -/

/-- Taking off the blanks around a text does not change which test is found in it. -/
theorem firstMatch?_inclusionAt?_trim (text : List Char) :
    firstMatch? inclusionAt? (trim text) = firstMatch? inclusionAt? text := by
  obtain ⟨front, back, whole, blanks, blanks'⟩ := (trimmed_trim text).within
  have shift (before operand : List Char) : inclusion text before operand ↔
      ∃ before', before = front ++ before' ∧ inclusion (trim text) before' operand := by
    rw [inclusion, whole, Cut.inclusion_between_blanks rfl (by decide) blanks blanks', ← whole]
    rfl
  refine Option.ext fun operand => ?_
  rw [(reads_inclusion _).leftmost_iff, (reads_inclusion _).leftmost_iff,
    exists_leftmost_iff_of_shift shift]

/-- What a text is known to be that is read as a test of the selections. -/
theorem of_ofChars_eq_includes {text : List Char} {value : String} {negated : Bool}
    (read : ofChars text = .includes value negated) :
    SideOf text (trim text) ∧ (negated ↔ Signed text) ∧
      ∃ operand, firstMatch? inclusionAt? text = some operand ∧ value = String.ofList operand := by
  have said : Says text (.includes value negated) := read ▸ says_ofChars text
  cases said with
  | includes noEquality noInequality single leftmost =>
      refine ⟨⟨noEquality, noInequality, trim_within text, ?_⟩, decide_eq_true_iff, _, ?_, rfl⟩
      · exact fun several => single (several.trans (trim_within text))
      · exact (reads_inclusion text).leftmost_iff.2 ⟨_, leftmost⟩

/-- Without the blanks around it, a test is read as one of the same item, with the sign that it
starts with then. -/
theorem ofChars_trim_of_includes {text : List Char} {value : String} {negated : Bool}
    (read : ofChars text = .includes value negated) :
    ofChars (trim text) = .includes value (decide (Signed (trim text))) := by
  obtain ⟨side, -, operand, found, rfl⟩ := of_ofChars_eq_includes read
  rw [side.ofChars_eq, firstMatch?_inclusionAt?_trim, found]
  rfl

/-- **A sign counts at the very start.**  A text that is read as a test of the selections is
negated exactly if its first character is the sign.  Where the text is cut out as a side of a
disjunction, it is read as a test of the same item, and negated exactly if the sign comes first
once its blanks are taken off.  The two agree exactly if no blanks stand before the sign. -/
theorem negation_counts_at_the_start {raw value : String} {negated : Bool}
    (read : parse raw = .includes value negated) :
    (negated ↔ Signed raw.toList) ∧
      (∀ text parts, parse text = .anyOf parts →
        List.Forall₂ (fun side part => side = raw.toList →
          part = .includes value (decide (Signed (trim raw.toList))))
          (splitOn disjunction disjunction_ne_nil text.toList) parts) ∧
      ((negated ↔ Signed (trim raw.toList)) ↔ ¬ SignBehindBlanks raw.toList) := by
  have sign := (of_ofChars_eq_includes read).2.1
  refine ⟨sign, ?side, ?agree⟩
  case side =>
    intro text parts several
    obtain ⟨-, -, rfl⟩ := parts_of_anyOf several
    rw [List.forall₂_map_right_iff, List.forall₂_same]
    rintro side - rfl
    exact ofChars_trim_of_includes read
  case agree =>
    rw [sign, signed_trim_iff]
    constructor
    · intro agree behind
      exact behind.not_signed (agree.2 (.inr behind))
    · intro apart
      exact ⟨.inl, fun either => either.resolve_right apart⟩

/-- **The sign of a test can be overlooked.**  It is not so that a test of the selections is
negated exactly if its text starts with the sign once the blanks around it are taken off. -/
theorem negation_overlooked_behind_blanks :
    ¬ ∀ raw value negated, parse raw = .includes value negated →
      (negated = true ↔ Signed (trim raw.toList)) := by
  intro agrees
  have read : parse " !selectedValues.includes(\x27none\x27)" = .includes "none" false := by
    with_unfolding_all rfl
  exact Bool.false_ne_true ((agrees _ _ _ read).2 (by decide))

/-- A test with blanks before its sign, the first of them a no-break space. -/
def indented : String := "\u00a0 !selectedValues.includes(\x27none\x27)"

/-- It stands as the second side here, and alone it is not negated. -/
theorem sample_negation_counts_at_the_start :
    parse indented = .includes "none" false ∧
      SignBehindBlanks indented.toList ∧
      parse ("selectedValues.includes(\x27arts\x27) OR " ++ indented) =
        .anyOf [.includes "arts" false, .includes "none" true] ∧
      ¬ (false = true ↔ Signed (trim indented.toList)) := by
  have read : parse indented = .includes "none" false := by with_unfolding_all rfl
  have behind : SignBehindBlanks indented.toList :=
    ⟨"\u00a0 ".toList, _, by decide, List.all_eq_true.1 (by decide), rfl⟩
  have several : parse ("selectedValues.includes(\x27arts\x27) OR " ++ indented) =
      .anyOf [.includes "arts" false, .includes "none" true] := by
    with_unfolding_all rfl
  obtain ⟨-, -, agree⟩ := negation_counts_at_the_start read
  exact ⟨read, behind, several, fun same => agree.1 same behind⟩

end Condition

end Screening
