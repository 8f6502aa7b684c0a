/-
# Screening.Text.Pattern -- the pieces of a rule text

Each of these reads a piece at the front of a text and returns what it captured
together with what follows it.  They have no choice to make, so no piece is ever
read in two ways: blanks end where the operator starts, an operand ends at its
closing quote, and a name ends at the first character that no name holds.

* `quoted?_eq_some_iff`, `compared?_eq_some_iff`, `named?_eq_some_iff`: what each
  piece accepts, as a way to write the text.
-/
import Screening.Text.Blank
import Screening.Text.Search

namespace Screening.Text

set_option autoImplicit false

/-- The mark around an operand. -/
def quote : Char := '\x27'

/-- An operand between quotes: at least one character, none of them a quote. -/
def quoted? (text : List Char) : Option (List Char × List Char) :=
  (after? [quote] text).bind fun rest =>
    let operand := rest.takeWhile (· ≠ quote)
    if operand.isEmpty then none
    else (after? [quote] (rest.dropWhile (· ≠ quote))).map fun tail => (operand, tail)

/-- The operand of a comparison: the operator and a quoted operand, with blanks
before either. -/
def compared? (operator text : List Char) : Option (List Char) :=
  (after? operator (text.dropWhile isBlank)).bind fun rest =>
    (quoted? (rest.dropWhile isBlank)).map (·.1)

/-- The characters of a question's name in a rule text; only ASCII ones count. -/
def isNameChar (c : Char) : Bool := c.isAlphanum || c == '_'

/-- A name and what `follow` makes of the text after it.  The name is taken as
long as it can be. -/
def named? {α : Type} (follow : List Char → Option α) (text : List Char) :
    Option (List Char × α) :=
  let name := text.takeWhile isNameChar
  if name.isEmpty then none
  else (follow (text.dropWhile isNameChar)).map fun found => (name, found)

theorem of_mem_takeWhile {p : Char → Bool} {text : List Char} {c : Char}
    (member : c ∈ text.takeWhile p) : p c :=
  List.all_eq_true.1 List.all_takeWhile c member

theorem takeWhile_append_of_stop {p : Char → Bool} {front tail : List Char}
    (inside : ∀ c ∈ front, p c) (stop : ∀ c ∈ tail.head?, p c = false) :
    (front ++ tail).takeWhile p = front := by
  induction front with
  | nil => cases tail <;> simp_all
  | cons c front ih => simp_all

theorem dropWhile_append_of_stop {p : Char → Bool} {front tail : List Char}
    (inside : ∀ c ∈ front, p c) (stop : ∀ c ∈ tail.head?, p c = false) :
    (front ++ tail).dropWhile p = tail := by
  induction front with
  | nil => cases tail <;> simp_all
  | cons c front ih => simp_all

theorem quoted?_eq_some_iff {text operand tail : List Char} :
    quoted? text = some (operand, tail) ↔
      operand ≠ [] ∧ quote ∉ operand ∧ text = [quote] ++ operand ++ [quote] ++ tail := by
  constructor
  · intro found
    obtain ⟨rest, opened, found⟩ := Option.bind_eq_some_iff.1 found
    simp only at found
    split at found
    · cases found
    · next nonempty =>
        obtain ⟨tail', closed, same⟩ := Option.map_eq_some_iff.1 found
        cases same
        refine ⟨by simpa using nonempty, fun member => ?_, ?_⟩
        · simpa using of_mem_takeWhile member
        · rw [after?_eq_some_iff.1 opened]
          have := after?_eq_some_iff.1 closed
          conv => lhs; rw [← List.takeWhile_append_dropWhile (p := (· ≠ quote)) (l := rest)]
          rw [this]
          simp
  · rintro ⟨nonempty, free, rfl⟩
    have inside : ∀ c ∈ operand, decide (c ≠ quote) := fun c member =>
      decide_eq_true fun same => free (same ▸ member)
    have stop : ∀ c ∈ ([quote] ++ tail).head?, decide (c ≠ quote) = false := by simp
    simp only [quoted?, List.append_assoc, after?_append, Option.bind_some,
      takeWhile_append_of_stop inside stop, dropWhile_append_of_stop inside stop]
    simp [nonempty]

theorem compared?_eq_some_iff {operator text operand : List Char}
    (starts : ∀ c ∈ operator.head?, isBlank c = false) (nonempty : operator ≠ []) :
    compared? operator text = some operand ↔
      operand ≠ [] ∧ quote ∉ operand ∧
        ∃ before between tail, (∀ c ∈ before, isBlank c) ∧ (∀ c ∈ between, isBlank c) ∧
          text = before ++ operator ++ between ++ [quote] ++ operand ++ [quote] ++ tail := by
  constructor
  · intro found
    obtain ⟨rest, operated, found⟩ := Option.bind_eq_some_iff.1 found
    obtain ⟨⟨operand', tail⟩, quoted, same⟩ := Option.map_eq_some_iff.1 found
    cases same
    obtain ⟨some_, free, written⟩ := quoted?_eq_some_iff.1 quoted
    refine ⟨some_, free, text.takeWhile isBlank, rest.takeWhile isBlank, tail,
      fun c member => of_mem_takeWhile member,
      fun c member => of_mem_takeWhile member, ?_⟩
    have first := List.takeWhile_append_dropWhile (p := isBlank) (l := text)
    have second := List.takeWhile_append_dropWhile (p := isBlank) (l := rest)
    rw [written] at second
    rw [after?_eq_some_iff.1 operated, ← second] at first
    exact first.symm.trans (by simp)
  · rintro ⟨some_, free, before, between, tail, blanks, blanks', rfl⟩
    obtain ⟨o, operator', rfl⟩ := List.exists_cons_of_ne_nil nonempty
    have stop : ∀ c ∈ ((o :: operator') ++ (between ++ ([quote] ++ (operand ++ ([quote] ++ tail))))).head?,
        isBlank c = false := by
      simpa using starts
    have stop' : ∀ c ∈ ([quote] ++ (operand ++ ([quote] ++ tail))).head?, isBlank c = false := by
      simp only [List.cons_append, List.nil_append, List.head?_cons, Option.mem_def,
        Option.some.injEq, forall_eq']
      decide
    have quoted : quoted? ([quote] ++ (operand ++ ([quote] ++ tail))) = some (operand, tail) :=
      quoted?_eq_some_iff.2 ⟨some_, free, by simp⟩
    simp only [compared?, List.append_assoc, dropWhile_append_of_stop blanks stop, after?_append,
      Option.bind_some, dropWhile_append_of_stop blanks' stop', quoted, Option.map_some]

theorem named?_eq_some_iff {α : Type} {follow : List Char → Option α} {text name : List Char}
    {found : α} :
    named? follow text = some (name, found) ↔
      name ≠ [] ∧ (∀ c ∈ name, isNameChar c) ∧
        ∃ tail, text = name ++ tail ∧ (∀ c ∈ tail.head?, isNameChar c = false) ∧
          follow tail = some found := by
  constructor
  · intro accepted
    simp only [named?] at accepted
    split at accepted
    · cases accepted
    · next nonempty =>
        obtain ⟨found', here, same⟩ := Option.map_eq_some_iff.1 accepted
        cases same
        refine ⟨by simpa using nonempty, fun c member => of_mem_takeWhile member,
          text.dropWhile isNameChar, List.takeWhile_append_dropWhile.symm, ?_, here⟩
        intro c first
        have := List.head?_dropWhile_not isNameChar text
        rw [first] at this
        simpa using this
  · rintro ⟨nonempty, inside, tail, rfl, stop, here⟩
    simp only [named?, takeWhile_append_of_stop inside stop, dropWhile_append_of_stop inside stop,
      here]
    simp [nonempty]

end Screening.Text
