/-
# Screening.Proofs.Leftmost -- what a search finds in a text

A rule text is known by how it can be cut: what stands before a form, the form with what
it captures, and the rest.  A text may be cut in many ways.  A search settles on the cut
with the fewest characters before it (`Leftmost`), and it fails only where there is no cut
at all.

* `Reads.leftmost_iff`, `Reads.not_possible_iff`: a search that reads a form where the
  text is cut finds the leftmost cut, or there is none;
* `reads_comparison`, `reads_inclusion`, `reads_literal`, `reads_named`: the forms of the
  rule languages are read where the text is cut;
* `Possible.comparison_widen`: a comparison in a stretch of a text is one in the text;
* `Leftmost.wholeName`: a name at the leftmost cut is the whole run of its characters.
-/
import Mathlib.Data.List.Infix
import Screening.Text.Pattern

namespace Screening.Text

set_option autoImplicit false

/-! ## Cuts -/

/-- Ways to cut a text: what stands before the cut, and what is captured at it. -/
abbrev Cut (α : Type) := List Char → α → Prop

/-- The cut with the fewest characters before it. -/
structure Leftmost {α : Type} (cut : Cut α) (before : List Char) (found : α) : Prop where
  here : cut before found
  least : ∀ earlier other, cut earlier other → before.length ≤ earlier.length

/-- There is a cut. -/
def Possible {α : Type} (cut : Cut α) : Prop := ∃ before found, cut before found

namespace Cut

/-- A literal. -/
def literal (keyword text : List Char) : Cut Unit := fun before _ =>
  ∃ rest, text = before ++ keyword ++ rest

/-- A keyword, an operator and a quoted operand, with blanks on both sides of the operator. -/
def comparison (keyword operator text : List Char) : Cut (List Char) := fun before operand =>
  operand ≠ [] ∧ quote ∉ operand ∧
    ∃ gap gap' rest, (∀ c ∈ gap, isBlank c) ∧ (∀ c ∈ gap', isBlank c) ∧
      text = before ++ keyword ++ gap ++ operator ++ gap' ++ [quote] ++ operand ++ [quote] ++ rest

/-- A keyword and a quoted operand in parentheses, of which the keyword has the first. -/
def inclusion (keyword text : List Char) : Cut (List Char) := fun before operand =>
  operand ≠ [] ∧ quote ∉ operand ∧
    ∃ rest, text = before ++ keyword ++ [quote] ++ operand ++ [quote] ++ [')'] ++ rest

/-- A form with a name before it. -/
def named {α : Type} (cut : Cut α) : Cut (List Char × α) := fun before found =>
  found.1 ≠ [] ∧ (∀ c ∈ found.1, isNameChar c) ∧ cut (before ++ found.1) found.2

/-- A form with something made of what it captures. -/
def map {α β : Type} (make : α → β) (cut : Cut α) : Cut β := fun before made =>
  ∃ found, cut before found ∧ make found = made

end Cut

theorem leftmost_map_iff {α β : Type} {make : α → β} {cut : Cut α} {before : List Char} {made : β} :
    Leftmost (cut.map make) before made ↔ ∃ found, Leftmost cut before found ∧ make found = made := by
  constructor
  · rintro ⟨⟨found, here, rfl⟩, least⟩
    exact ⟨found, ⟨here, fun earlier other possible => least earlier _ ⟨other, possible, rfl⟩⟩, rfl⟩
  · rintro ⟨found, ⟨here, least⟩, rfl⟩
    refine ⟨⟨found, here, rfl⟩, ?_⟩
    rintro earlier _ ⟨other, possible, rfl⟩
    exact least earlier other possible

theorem possible_map_iff {α β : Type} {make : α → β} {cut : Cut α} :
    Possible (cut.map make) ↔ Possible cut := by
  constructor
  · rintro ⟨before, _, found, here, rfl⟩
    exact ⟨before, found, here⟩
  · rintro ⟨before, found, here⟩
    exact ⟨before, make found, found, here, rfl⟩

/-- The whole run of a name's characters that ends where `before ++ name` does. -/
structure WholeName (before name : List Char) : Prop where
  nonempty : name ≠ []
  inside : ∀ c ∈ name, isNameChar c
  stop : ∀ c ∈ before.getLast?, isNameChar c = false

/-- A name at the leftmost cut has no character of a name before it. -/
theorem Leftmost.wholeName {α : Type} {cut : Cut α} {before name : List Char} {found : α}
    (leftmost : Leftmost (.named cut) before (name, found)) : WholeName before name := by
  refine ⟨leftmost.here.1, leftmost.here.2.1, ?_⟩
  intro c last
  obtain ⟨front, rfl⟩ := List.getLast?_eq_some_iff.1 last
  obtain ⟨⟨-, inside, here⟩, least⟩ := leftmost
  by_contra member
  -- else the name could begin one character earlier
  have earlier : Cut.named cut front (c :: name, found) := by
    refine ⟨List.cons_ne_nil c name, ?_, by simpa using here⟩
    simpa using ⟨by simpa using member, inside⟩
  have shorter := least front _ earlier
  rw [List.length_append, List.length_singleton] at shorter
  omega

/-- A comparison in a stretch of a text is one in the text. -/
theorem Cut.comparison_widen {keyword operator core before operand : List Char}
    (front back : List Char) (here : Cut.comparison keyword operator core before operand) :
    Cut.comparison keyword operator (front ++ core ++ back) (front ++ before) operand := by
  obtain ⟨nonempty, free, gap, gap', rest, blanks, blanks', rfl⟩ := here
  refine ⟨nonempty, free, gap, gap', rest ++ back, blanks, blanks', ?_⟩
  simp only [List.append_assoc]

theorem Possible.comparison_widen {keyword operator core text : List Char}
    (within : core <:+: text) (possible : Possible (.comparison keyword operator core)) :
    Possible (.comparison keyword operator text) := by
  obtain ⟨front, back, rfl⟩ := within
  obtain ⟨before, operand, here⟩ := possible
  exact ⟨front ++ before, operand, Cut.comparison_widen front back here⟩

/-! ## Searches -/

/-- The attempt reads exactly the forms that the text can be cut at. -/
def Reads {α : Type} (attempt : List Char → Option α) (text : List Char) (cut : Cut α) : Prop :=
  ∀ before found, cut before found ↔ ∃ tail, text = before ++ tail ∧ attempt tail = some found

/-- A search fails where no attempt succeeds. -/
theorem firstMatch?_eq_none_iff {α : Type} {attempt : List Char → Option α} {text : List Char} :
    firstMatch? attempt text = none ↔
      ∀ before tail, text = before ++ tail → attempt tail = none := by
  fun_induction firstMatch? attempt text with
  | case1 =>
      constructor
      · intro refused before tail whole
        rw [(List.append_eq_nil_iff.1 whole.symm).2]
        exact refused
      · intro every
        exact every [] [] rfl
  | case2 c rest found accepted =>
      constructor
      · intro absurd
        cases absurd
      · intro every
        rw [every [] _ rfl] at accepted
        cases accepted
  | case3 c rest refused ih =>
      rw [ih]
      constructor
      · intro later before tail whole
        cases before with
        | nil => rw [← List.nil_append tail, ← whole]; exact refused
        | cons b before => exact later before tail (List.cons_eq_cons.1 whole).2
      · intro every before tail whole
        exact every (c :: before) tail (by rw [whole, List.cons_append])

namespace Reads

variable {α : Type} {attempt : List Char → Option α} {text : List Char} {cut : Cut α}

/-- A search finds the leftmost cut. -/
theorem leftmost_iff (reads : Reads attempt text cut) {found : α} :
    firstMatch? attempt text = some found ↔ ∃ before, Leftmost cut before found := by
  rw [firstMatch?_eq_some_iff]
  constructor
  · rintro ⟨before, tail, whole, here, least⟩
    refine ⟨before, (reads _ _).2 ⟨tail, whole, here⟩, fun earlier other possible => ?_⟩
    obtain ⟨tail', whole', here'⟩ := (reads _ _).1 possible
    by_contra shorter
    rw [least earlier tail' whole' (Nat.lt_of_not_le shorter)] at here'
    cases here'
  · rintro ⟨before, possible, least⟩
    obtain ⟨tail, whole, here⟩ := (reads _ _).1 possible
    refine ⟨before, tail, whole, here, fun before' tail' whole' shorter => ?_⟩
    by_contra accepted
    obtain ⟨other, here'⟩ := Option.ne_none_iff_exists'.1 accepted
    exact absurd (least before' other ((reads _ _).2 ⟨tail', whole', here'⟩)) (Nat.not_le_of_lt shorter)

/-- A search fails where there is no cut. -/
theorem not_possible_iff (reads : Reads attempt text cut) :
    firstMatch? attempt text = none ↔ ¬ Possible cut := by
  rw [firstMatch?_eq_none_iff]
  constructor
  · rintro refused ⟨before, found, possible⟩
    obtain ⟨tail, whole, here⟩ := (reads _ _).1 possible
    rw [refused before tail whole] at here
    cases here
  · intro impossible before tail whole
    by_contra accepted
    obtain ⟨found, here⟩ := Option.ne_none_iff_exists'.1 accepted
    exact impossible ⟨before, found, (reads _ _).2 ⟨tail, whole, here⟩⟩

/-- A cut before which every attempt fails is the leftmost one. -/
theorem leftmost_of_drop (reads : Reads attempt text cut) {before : List Char} {found : α}
    (here : cut before found) (unread : ∀ place < before.length, attempt (text.drop place) = none) :
    Leftmost cut before found := by
  refine ⟨here, fun earlier other possible => ?_⟩
  obtain ⟨tail, whole, accepted⟩ := (reads _ _).1 possible
  by_contra shorter
  have refused := unread earlier.length (Nat.lt_of_not_le shorter)
  rw [whole, List.drop_left, accepted] at refused
  cases refused

/-- What is made of the match is made of what the leftmost cut captures. -/
theorem leftmost_map_iff {β : Type} (reads : Reads attempt text cut) {make : α → β} {made : β} :
    (firstMatch? attempt text).map make = some made ↔ ∃ before, Leftmost (cut.map make) before made := by
  simp only [Option.map_eq_some_iff, reads.leftmost_iff, Text.leftmost_map_iff]
  constructor
  · rintro ⟨found, ⟨before, leftmost⟩, same⟩
    exact ⟨before, found, leftmost, same⟩
  · rintro ⟨before, found, leftmost, same⟩
    exact ⟨found, ⟨before, leftmost⟩, same⟩

theorem not_possible_map_iff {β : Type} (reads : Reads attempt text cut) {make : α → β} :
    (firstMatch? attempt text).map make = none ↔ ¬ Possible (cut.map make) := by
  rw [Option.map_eq_none_iff, reads.not_possible_iff, possible_map_iff]

end Reads

/-! ## Forms -/

/-- A literal is read where the text is cut at it. -/
theorem reads_literal (keyword text : List Char) :
    Reads (fun tail => (after? keyword tail).map fun _ => ()) text (.literal keyword text) := by
  intro before found
  simp only [Cut.literal, Option.map_eq_some_iff, after?_eq_some_iff]
  constructor
  · rintro ⟨rest, whole⟩
    exact ⟨keyword ++ rest, by rw [whole, List.append_assoc], rest, rfl, trivial⟩
  · rintro ⟨tail, whole, rest, rfl, -⟩
    exact ⟨rest, by rw [whole, List.append_assoc]⟩

theorem reads_comparison (keyword text : List Char) {o : Char} {operator : List Char}
    (first : operator.head? = some o) (solid : isBlank o = false) :
    Reads (fun tail => (after? keyword tail).bind (compared? operator)) text
      (.comparison keyword operator text) := by
  have starts : ∀ c ∈ operator.head?, isBlank c = false := by simpa [first] using solid
  have nonempty : operator ≠ [] := fun empty => by simp [empty] at first
  intro before operand
  simp only [Cut.comparison, Option.bind_eq_some_iff, after?_eq_some_iff,
    compared?_eq_some_iff starts nonempty]
  constructor
  · rintro ⟨some_, free, gap, gap', rest, blanks, blanks', whole⟩
    refine ⟨keyword ++ (gap ++ operator ++ gap' ++ [quote] ++ operand ++ [quote] ++ rest), ?_,
      _, rfl, some_, free, gap, gap', rest, blanks, blanks', rfl⟩
    rw [whole]
    simp only [List.append_assoc]
  · rintro ⟨tail, rfl, after, rfl, some_, free, gap, gap', rest, blanks, blanks', rfl⟩
    refine ⟨some_, free, gap, gap', rest, blanks, blanks', ?_⟩
    simp only [List.append_assoc]

theorem reads_inclusion (keyword text : List Char) :
    Reads (fun tail => (after? keyword tail).bind fun rest =>
        (quoted? rest).bind fun (operand, tail) => (after? [')'] tail).map fun _ => operand) text
      (.inclusion keyword text) := by
  intro before operand
  simp only [Cut.inclusion, Option.bind_eq_some_iff, Option.map_eq_some_iff, after?_eq_some_iff,
    Prod.exists, quoted?_eq_some_iff]
  constructor
  · rintro ⟨some_, free, rest, whole⟩
    refine ⟨keyword ++ ([quote] ++ operand ++ [quote] ++ ([')'] ++ rest)), ?_, _, rfl, operand, _,
      ⟨some_, free, rfl⟩, rest, rfl, rfl⟩
    rw [whole]
    simp only [List.append_assoc]
  · rintro ⟨tail, rfl, after, rfl, _, _, ⟨some_, free, rfl⟩, rest, rfl, rfl⟩
    refine ⟨some_, free, rest, ?_⟩
    simp only [List.append_assoc]

/-- A name and a form after it are read where the text is cut at them, if no form starts
like a name. -/
theorem reads_named {α : Type} {follow : List Char → Option α} {text : List Char} {cut : Cut α}
    (reads : Reads follow text cut)
    (stops : ∀ tail found, follow tail = some found → ∀ c ∈ tail.head?, isNameChar c = false) :
    Reads (named? follow) text (.named cut) := by
  rintro before ⟨name, found⟩
  simp only [Cut.named, named?_eq_some_iff, reads (before ++ name) found]
  constructor
  · rintro ⟨some_, inside, tail, whole, here⟩
    exact ⟨name ++ tail, by rw [whole, List.append_assoc], some_, inside, tail, rfl,
      stops tail found here, here⟩
  · rintro ⟨_, whole, some_, inside, tail, rfl, -, here⟩
    exact ⟨some_, inside, tail, by rw [whole, List.append_assoc], here⟩

end Screening.Text
