/-
# Screening.Proofs.Operand -- where an operand stands in a text

An operand may hold whatever is no quote, among it the keywords and operators of other forms.
They are not found there.  A text with one operand has two quotes and no more (`Quotes`), and a
comparison has its operator right before the first of them: where another operator stands, or
none, the text is no comparison by this one, whatever the operand holds.

A literal does not reach over a character that it does not have.  So what is found in a text is
found on one side of a quote, and a text is cut at a separator whenever the character before it is
none of the separator's.

* `Quotes.front_unique`: an operand is found in one way only;
* `Quotes.not_possible_comparison`: what ends before the quotes with something else than the
  operator is no comparison;
* `literal_apart`, `Quotes.infix_or`: a literal stands on one side;
* `firstCut_append`: where a text is cut.
-/
import Mathlib.Data.List.Count
import Screening.Proofs.Leftmost
import Screening.Proofs.Sides

namespace Screening.Text

set_option autoImplicit false

/-! ## One operand -/

/-- A text with an operand between quotes, and no other quote in it. -/
structure Quotes (text front operand back : List Char) : Prop where
  whole : text = front ++ [quote] ++ operand ++ [quote] ++ back
  front : quote ∉ front
  operand : quote ∉ operand
  back : quote ∉ back

/-- What stands before the quotes is a stretch of the text. -/
theorem Quotes.front_within {text front operand back : List Char}
    (quotes : Quotes text front operand back) : front <:+: text :=
  ⟨[], [quote] ++ operand ++ [quote] ++ back, by rw [quotes.whole]; simp⟩

/-- There is no other way to find an operand in the text. -/
theorem Quotes.front_unique {text front operand back front' operand' back' : List Char}
    (quotes : Quotes text front operand back)
    (whole' : text = front' ++ [quote] ++ operand' ++ [quote] ++ back') : front' = front := by
  have whole := quotes.whole
  have two := congrArg (List.count quote) (whole.symm.trans whole')
  simp only [List.count_append, List.count_singleton_self, List.count_eq_zero.2 quotes.front,
    List.count_eq_zero.2 quotes.operand, List.count_eq_zero.2 quotes.back] at two
  have front_free : quote ∉ front' := List.count_eq_zero.1 (by omega)
  -- both are what stands before the first quote
  have before {start rest : List Char} (free : quote ∉ start) :
      (start ++ ([quote] ++ rest)).takeWhile (· ≠ quote) = start := by
    refine takeWhile_append_of_stop (fun c member => decide_eq_true ?_) (by simp)
    rintro rfl
    exact free member
  simp only [List.append_assoc] at whole whole'
  rw [← before front_free, ← whole', whole, before quotes.front]

/-- What stands between the operator of a comparison and the quote is blank, so the text before
the quotes ends with the operator. -/
theorem Quotes.operator_suffix {text core gap operand back keyword operator before found : List Char}
    (quotes : Quotes text (core ++ gap) operand back) (blanks : ∀ c ∈ gap, isBlank c)
    (solid : ∀ c ∈ core.getLast?, isBlank c = false) (nonempty : operator ≠ [])
    (solid' : ∀ c ∈ operator.getLast?, isBlank c = false)
    (cut : Cut.comparison keyword operator text before found) : operator <:+ core := by
  obtain ⟨-, -, gap', gap'', rest, -, blanks'', whole⟩ := cut
  have ends := congrArg trimEnd (quotes.front_unique whole)
  have solid'' : ∀ c ∈ (before ++ keyword ++ gap' ++ operator).getLast?, isBlank c = false := by
    rw [List.getLast?_append_of_ne_nil _ nonempty]
    exact solid'
  rw [trimEnd_append_blanks _ blanks'', trimEnd_append_blanks _ blanks, trimEnd_eq_self solid,
    trimEnd_eq_self solid''] at ends
  exact ⟨before ++ keyword ++ gap', ends⟩

/-- A text is no comparison by an operator if something else of its length stands there. -/
theorem Quotes.not_possible_comparison
    {text front final gap operand back keyword operator : List Char}
    (quotes : Quotes text (front ++ final ++ gap) operand back) (blanks : ∀ c ∈ gap, isBlank c)
    (other : final ≠ operator) (length : final.length = operator.length) (nonempty : operator ≠ [])
    (solid : final.getLast?.any isBlank = false) (solid' : operator.getLast?.any isBlank = false) :
    ¬ Possible (.comparison keyword operator text) := by
  rintro ⟨before, found, cut⟩
  have solid_last {literal : List Char} (solid : literal.getLast?.any isBlank = false) :
      ∀ c ∈ literal.getLast?, isBlank c = false := by
    intro c last
    rw [Option.mem_def.1 last] at solid
    exact solid
  have nonempty' : final ≠ [] := by
    rw [← List.length_pos_iff, length, List.length_pos_iff]
    exact nonempty
  have solid'' : ∀ c ∈ (front ++ final).getLast?, isBlank c = false := by
    rw [List.getLast?_append_of_ne_nil _ nonempty']
    exact solid_last solid
  obtain ⟨start, same⟩ :=
    quotes.operator_suffix blanks solid'' nonempty (solid_last solid') cut
  exact other (List.append_inj' same length.symm).2.symm

theorem not_possible_named {α : Type} {cut : Cut α} (impossible : ¬ Possible cut) :
    ¬ Possible (.named cut) := by
  rintro ⟨before, ⟨name, found⟩, -, -, here⟩
  exact impossible ⟨before ++ name, found, here⟩

theorem not_possible_comparison_of_free {keyword operator text : List Char} (free : quote ∉ text) :
    ¬ Possible (.comparison keyword operator text) := by
  rintro ⟨before, operand, -, -, gap, gap', rest, -, -, rfl⟩
  simp at free

theorem not_possible_inclusion_of_free {keyword text : List Char} (free : quote ∉ text) :
    ¬ Possible (.inclusion keyword text) := by
  rintro ⟨before, operand, -, -, rest, rfl⟩
  simp at free

/-- A cut at the start of the text is the leftmost. -/
theorem Leftmost.of_start {α : Type} {cut : Cut α} {found : α} (here : cut [] found) :
    Leftmost cut [] found :=
  ⟨here, fun earlier _ _ => Nat.zero_le earlier.length⟩

/-! ## Literals -/

/-- Where a literal stands in a text with a character that it does not have: before the character
or after it. -/
theorem literal_apart {literal before tail left right : List Char} {c : Char} (absent : c ∉ literal)
    (whole : before ++ literal ++ tail = left ++ c :: right) :
    (∃ rest, left = before ++ literal ++ rest) ∨
      ∃ rest, before = left ++ c :: rest ∧ right = rest ++ literal ++ tail := by
  rcases List.append_eq_append_iff.1 whole with ⟨rest, inLeft, -⟩ | ⟨reached, reaches, onward⟩
  · exact .inl ⟨rest, inLeft⟩
  -- if the literal reaches the character, it starts after it
  rcases reached with _ | ⟨d, reached⟩
  · exact .inl ⟨[], by rw [reaches]; simp⟩
  obtain ⟨rfl, rfl⟩ := List.cons_eq_cons.1 onward
  rcases List.append_eq_append_iff.1 reaches with ⟨rest, -, inside⟩ | ⟨rest, later, inside⟩
  · exact absurd (inside ▸ List.mem_append_right rest List.mem_cons_self) absent
  rcases rest with _ | ⟨d, rest⟩
  · rw [List.nil_append] at inside
    exact absurd (inside ▸ List.mem_cons_self) absent
  obtain ⟨rfl, rfl⟩ := List.cons_eq_cons.1 inside
  exact .inr ⟨rest, later, rfl⟩

/-- A literal is found on one side of a character that it does not have. -/
theorem within_side {literal left right : List Char} {c : Char} (absent : c ∉ literal)
    (within : literal <:+: left ++ c :: right) : literal <:+: left ∨ literal <:+: right := by
  obtain ⟨before, tail, whole⟩ := within
  rcases literal_apart absent whole with ⟨rest, inLeft⟩ | ⟨rest, -, inRight⟩
  · exact .inl ⟨before, rest, inLeft.symm⟩
  · exact .inr ⟨rest, tail, inRight.symm⟩

theorem Quotes.infix_or {text front operand back literal : List Char}
    (quotes : Quotes text front operand back) (absent : quote ∉ literal) (within : literal <:+: text) :
    literal <:+: front ∨ literal <:+: operand ∨ literal <:+: back := by
  rw [quotes.whole, List.append_assoc, List.append_assoc, List.append_assoc, List.singleton_append,
    List.singleton_append] at within
  exact (within_side absent within).imp_right (within_side absent)

/-- Where the character before a separator is none of the separator's, the text is cut there. -/
theorem firstCut_append {separator front : List Char} {c : Char} (tail : List Char)
    (absent : c ∉ separator) (free : ¬ separator <:+: front ++ [c]) :
    FirstCut separator (front ++ [c] ++ separator ++ tail) (front ++ [c]) tail := by
  refine ⟨rfl, fun before' tail' whole => ?_⟩
  have whole' : before' ++ separator ++ tail' = front ++ c :: (separator ++ tail) := by
    rw [← whole]
    simp
  rcases literal_apart absent whole' with ⟨rest, inFront⟩ | ⟨rest, later, -⟩
  · have earlier : separator <:+: front := ⟨before', rest, inFront.symm⟩
    exact absurd (earlier.trans (List.prefix_append front [c]).isInfix) free
  · rw [later, List.length_append, List.length_append]
    exact Nat.add_le_add_left (Nat.succ_le_succ (Nat.zero_le _)) _

end Screening.Text
