/-
# Screening.Proofs.DollarLabel -- a label shows its amount to the cent

A label is made for the eye: it has a sign, a mark for dollars, commas among the thousands, and
cents only where there are any.  Still it is exact.  Without its marks it is a decimal number,
and this number is the amount (`Dollars.decimal?_written`), so amounts that differ in a cent or
in their sign have different labels (`Dollars.Shows.unique`).

A comma stands where the digits that are left fall into threes, so what comes before the first
comma is what is left over: one to three digits.  A walk over the digits finds the same places by
subtracting positions from the number of the digits, and no position is ever greater than that.

* `Dollars.exists_inThrees`: grouped digits are groups with commas between them;
* `Dollars.groupedFrom?_length`: the walk by positions;
* `Dollars.shows_written`: what the label of some cents shows;
* `Dollars.labels_show_every_cent`: all this of every label.
-/
import Mathlib.Algebra.BigOperators.Ring.List
import Mathlib.Algebra.Order.Field.Basic
import Mathlib.Algebra.Order.Ring.Rat
import Mathlib.Data.Nat.PSub
import Mathlib.Tactic.Ring
import Screening.Award
import Screening.Text.Pattern

namespace Screening

open Text

set_option autoImplicit false

namespace Dollars

/-! ## Groups of three -/

/-- A group of one to three digits, and groups of three after it. -/
structure InThrees (first : List Char) (rest : List (List Char)) : Prop where
  nonempty : 1 ≤ first.length
  at_most : first.length ≤ 3
  threes : ∀ group ∈ rest, group.length = 3

/-- What the first group has is what is left over by threes, or else three. -/
theorem InThrees.length_mod {first : List Char} {rest : List (List Char)}
    (inThrees : InThrees first rest) : (first ++ rest.flatten).length % 3 = first.length % 3 := by
  have whole : 3 ∣ rest.flatten.length := by
    rw [List.length_flatten]
    refine List.dvd_sum fun length member => ?_
    obtain ⟨group, among, rfl⟩ := List.mem_map.1 member
    rw [inThrees.threes group among]
  rw [List.length_append]
  omega

/-- Digits that follow others, behind a comma if they fall into threes. -/
def following (text : List Char) : List Char :=
  if text ≠ [] ∧ text.length % 3 = 0 then ',' :: grouped text else grouped text

theorem grouped_cons (digit : Char) (rest : List Char) :
    grouped (digit :: rest) = digit :: following rest := by
  cases rest with
  | nil => rfl
  | cons next rest =>
      rw [grouped, following]
      by_cases turn : (next :: rest).length % 3 = 0
      · rw [if_pos turn, if_pos ⟨List.cons_ne_nil _ _, turn⟩]
      · rw [if_neg turn, if_neg fun both => turn both.2]

theorem following_cons (digit : Char) (rest : List Char) :
    following (digit :: rest) =
      if (digit :: rest).length % 3 = 0 then ',' :: digit :: following rest
      else digit :: following rest := by
  rw [following, grouped_cons]
  exact if_congr (and_iff_right (List.cons_ne_nil _ _)) rfl rfl

theorem intercalate_cons_append (separator front first : List Char) (rest : List (List Char)) :
    separator.intercalate ((front ++ first) :: rest) =
      front ++ separator.intercalate (first :: rest) := by
  cases rest with
  | nil => rw [List.intercalate_singleton, List.intercalate_singleton]
  | cons next rest =>
      rw [List.intercalate_cons_cons, List.intercalate_cons_cons]
      simp only [List.append_assoc]

/-- Grouped digits are groups with commas between them. -/
theorem exists_inThrees {text : List Char} (some_ : text ≠ []) :
    ∃ first rest, InThrees first rest ∧ text = first ++ rest.flatten ∧
      grouped text = [','].intercalate (first :: rest) := by
  induction text with
  | nil => exact absurd rfl some_
  | cons digit tail ih =>
      rw [grouped_cons]
      by_cases last : tail = []
      · subst last
        exact ⟨[digit], [], ⟨Nat.le_refl 1, Nat.le_add_left 1 2, by simp⟩, rfl, rfl⟩
      · obtain ⟨first, rest, inThrees, joined, shown⟩ := ih last
        have left_over : tail.length % 3 = first.length % 3 := by
          rw [joined]
          exact inThrees.length_mod
        obtain ⟨nonempty, at_most, threes⟩ := inThrees
        -- it is time for a comma exactly where the first group of the rest is full
        by_cases turn : tail.length % 3 = 0
        · have full : first.length = 3 := by omega
          refine ⟨[digit], first :: rest, ⟨Nat.le_refl 1, Nat.le_add_left 1 2, ?_⟩, ?_, ?_⟩
          · exact List.forall_mem_cons.2 ⟨full, threes⟩
          · rw [joined]
            rfl
          · rw [following, if_pos ⟨last, turn⟩, shown, List.intercalate_cons_cons]
            rfl
        · refine ⟨digit :: first, rest, ⟨Nat.succ_pos _, ?_, threes⟩, ?_, ?_⟩
          · rw [List.length_cons]
            omega
          · rw [joined]
            rfl
          · rw [following, if_neg fun both => turn both.2, shown]
            exact (intercalate_cons_append _ [digit] first rest).symm

/-! ## The places of the commas by position -/

/-- The digits from a position on, of a text that has so many: before each but the first stands a
comma if the number of digits from there on is a multiple of three.  Gives up where a position is
greater than the number of digits. -/
def groupedFrom? (count : Nat) : Nat → List Char → Option (List Char)
  | _, [] => some []
  | position, digit :: rest => do
      let left ← Nat.psub count position
      let later ← groupedFrom? count (position + 1) rest
      return if 0 < position ∧ left % 3 = 0 then ',' :: digit :: later else digit :: later

theorem groupedFrom?_following {count position : Nat} {text : List Char}
    (fits : text.length + position = count) (inside : 0 < position) :
    groupedFrom? count position text = some (following text) := by
  induction text generalizing position with
  | nil => rfl
  | cons digit rest ih =>
      have later : groupedFrom? count (position + 1) rest = some (following rest) := by
        refine ih ?_ (Nat.succ_pos _)
        rw [List.length_cons] at fits
        omega
      rw [groupedFrom?, Nat.psub_eq_some.2 fits, later, following_cons]
      by_cases turn : (digit :: rest).length % 3 = 0
      · rw [if_pos turn]
        exact congrArg some (if_pos ⟨inside, turn⟩)
      · rw [if_neg turn]
        exact congrArg some (if_neg fun both => turn both.2)

/-- The walk never gives up, and it finds the places where the commas are. -/
theorem groupedFrom?_length (text : List Char) :
    groupedFrom? text.length 0 text = some (grouped text) := by
  cases text with
  | nil => rfl
  | cons digit rest =>
      have later : groupedFrom? (digit :: rest).length (0 + 1) rest = some (following rest) :=
        groupedFrom?_following rfl Nat.one_pos
      rw [groupedFrom?, Nat.psub_zero, later, grouped_cons]
      exact congrArg some (if_neg fun both => Nat.lt_irrefl 0 both.1)

/-! ## The number in a label -/

/-- What a label has besides digits and the point. -/
def isMark (c : Char) : Bool := c == '-' || c == '$' || c == ','

theorem isMark_of_isDigit {c : Char} (isDigit : c.isDigit) : isMark c = false := by
  rw [Bool.eq_false_iff]
  intro mark
  simp only [isMark, Bool.or_eq_true, beq_iff_eq] at mark
  rcases mark with (rfl | rfl) | rfl <;> exact absurd isDigit (by decide)

/-- The number that a decimal text stands for: digits, and perhaps a point and more digits. -/
def decimal? (text : List Char) : Option ℚ :=
  let whole := text.takeWhile Char.isDigit
  match text.dropWhile Char.isDigit with
  | [] => if whole.isEmpty then none else some (value whole)
  | point :: places =>
      if whole.isEmpty || point != '.' || places.isEmpty || !places.all Char.isDigit then none
      else some (value whole + value places / 10 ^ places.length)

section Reading

variable {whole places : List Char} (plain : ∀ c ∈ whole, c.isDigit) (some_ : whole ≠ [])

include plain some_

theorem decimal?_of_whole : decimal? whole = some (value whole : ℚ) := by
  have stop : ∀ c ∈ ([] : List Char).head?, c.isDigit = false := by simp
  have taken := takeWhile_append_of_stop plain stop
  have dropped := dropWhile_append_of_stop plain stop
  rw [List.append_nil] at taken dropped
  simp only [decimal?, taken, dropped]
  exact if_neg (by simpa using some_)

theorem decimal?_of_places (plain' : ∀ c ∈ places, c.isDigit) (some' : places ≠ []) :
    decimal? (whole ++ '.' :: places) =
      some (value whole + value places / 10 ^ places.length : ℚ) := by
  have stop : ∀ c ∈ ('.' :: places).head?, c.isDigit = false := by
    simp only [List.head?_cons, Option.mem_some_iff]
    rintro c rfl
    decide
  simp only [decimal?, takeWhile_append_of_stop plain stop, dropWhile_append_of_stop plain stop]
  refine if_neg ?_
  simpa [some_, some'] using plain'

end Reading

/-- Whole dollars and cents are hundredths. -/
theorem dollars_add_cents (cents : Nat) :
    ((cents / 100 : Nat) + (cents % 100 : Nat) / 100 : ℚ) = cents / 100 := by
  have parts : ((100 * (cents / 100) + cents % 100 : Nat) : ℚ) = cents :=
    congrArg Nat.cast (Nat.div_add_mod cents 100)
  rw [← parts]
  push_cast
  ring

/-! ## The parts of a label -/

theorem isDigit_digit (n : Nat) : (digit n).isDigit := by
  have alone : digits (n % 10) = [digit n] := by
    rw [digits, if_pos (Nat.mod_lt n (by decide)), digit, digit, Nat.mod_mod]
  exact isDigit_of_mem_digits (alone ▸ List.mem_singleton_self _)

theorem padded_two {n : Nat} (few : n < 100) : padded 2 n = [digit (n / 10), digit n] := by
  rw [padded]
  by_cases small : n < 10
  · have zero : n / 10 = 0 := Nat.div_eq_of_lt small
    rw [digits, if_pos small, zero]
    rfl
  · have short : n / 10 < 10 := by omega
    rw [digits, if_neg small, digits, if_pos short]
    rfl

/-- The point and the cents of a label. -/
def fraction (cents : Nat) : List Char :=
  if cents % 100 = 0 then [] else '.' :: padded 2 (cents % 100)

theorem written_eq (negative : Bool) (cents : Nat) :
    written negative cents =
      (if negative then ['-'] else []) ++ '$' :: grouped (digits (cents / 100)) ++
        fraction cents :=
  rfl

theorem fraction_eq_nil_iff {cents : Nat} : fraction cents = [] ↔ 100 ∣ cents := by
  rw [fraction, Nat.dvd_iff_mod_eq_zero]
  split
  · next whole => exact iff_of_true rfl whole
  · next broken => exact iff_of_false (List.cons_ne_nil _ _) broken

theorem fraction_eq_of_ne_nil {cents : Nat} (shown : fraction cents ≠ []) :
    fraction cents = ['.', digit (cents % 100 / 10), digit (cents % 100)] := by
  have broken : ¬ cents % 100 = 0 := fun whole => shown (if_pos whole)
  rw [fraction, if_neg broken, padded_two (Nat.mod_lt cents (by decide))]

theorem filter_grouped_digits (n : Nat) :
    (grouped (digits n)).filter (fun c => !isMark c) = digits n := by
  have plain : ∀ c ∈ digits n, c.isDigit := fun c => isDigit_of_mem_digits
  have comma : ',' ∉ digits n := fun member => absurd (plain ',' member) (by decide)
  calc (grouped (digits n)).filter (fun c => !isMark c)
      = ((grouped (digits n)).filter (· ≠ ',')).filter fun c => !isMark c := by
        rw [List.filter_filter]
        refine List.filter_congr fun c _ => ?_
        by_cases same : c = ',' <;> simp [isMark, same]
    _ = (digits n).filter fun c => !isMark c := by rw [grouped_filter comma]
    _ = digits n := List.filter_eq_self.2 fun c member => by
        rw [isMark_of_isDigit (plain c member)]
        rfl

theorem filter_fraction (cents : Nat) :
    (fraction cents).filter (fun c => !isMark c) = fraction cents := by
  by_cases shown : fraction cents = []
  · rw [shown]
    rfl
  · have point : isMark '.' = false := rfl
    have tens := isMark_of_isDigit (isDigit_digit (cents % 100 / 10))
    have ones := isMark_of_isDigit (isDigit_digit (cents % 100))
    rw [fraction_eq_of_ne_nil shown, List.filter_eq_self]
    simp [point, tens, ones]

/-- Without its marks a label is the whole dollars and the cents. -/
theorem filter_written (negative : Bool) (cents : Nat) :
    (written negative cents).filter (fun c => !isMark c) =
      digits (cents / 100) ++ fraction cents := by
  have sign : (if negative then ['-'] else []).filter (fun c => !isMark c) = [] := by
    cases negative <;> rfl
  rw [written_eq, List.filter_append, List.filter_append, sign, filter_fraction,
    List.filter_cons_of_neg (by decide), filter_grouped_digits, List.nil_append]

/-- Without its marks a label is the decimal number of its amount. -/
theorem decimal?_written (negative : Bool) (cents : Nat) :
    decimal? ((written negative cents).filter fun c => !isMark c) = some (cents / 100 : ℚ) := by
  have plain : ∀ c ∈ digits (cents / 100), c.isDigit := fun c => isDigit_of_mem_digits
  have some_ := digits_ne_nil (cents / 100)
  rw [filter_written, ← dollars_add_cents, fraction]
  by_cases whole : cents % 100 = 0
  · rw [if_pos whole, List.append_nil, decimal?_of_whole plain some_, value_digits, whole]
    simp
  · have two := padded_two (Nat.mod_lt cents (by decide : 0 < 100))
    have plain' : ∀ c ∈ padded 2 (cents % 100), c.isDigit := by
      rw [two]
      simp [isDigit_digit]
    have some' : padded 2 (cents % 100) ≠ [] := two ▸ List.cons_ne_nil _ _
    have length : (padded 2 (cents % 100)).length = 2 := two ▸ rfl
    rw [if_neg whole, decimal?_of_places plain some_ plain' some', value_digits, value_padded,
      length]
    norm_num

/-- What a label shows of an amount of cents and its sign. -/
structure Shows (negative : Bool) (cents : Nat) (text whole fraction : List Char) : Prop where
  parts : text = (if negative then ['-'] else []) ++ '$' :: whole ++ fraction
  /-- Without its marks the label is a number, and this is the amount. -/
  amount : decimal? (text.filter fun c => !isMark c) = some (cents / 100 : ℚ)
  /-- The commas split the whole dollars into a group of one to three digits and groups of
  three. -/
  groups : ∃ first rest, whole.splitOn ',' = first :: rest ∧ InThrees first rest ∧
    ∀ group ∈ first :: rest, ∀ c ∈ group, c.isDigit
  /-- A zero comes first only where it stands alone. -/
  leading : whole.head? = some '0' → whole = ['0']
  /-- The commas are where a walk by positions puts them, and none of its subtractions fails. -/
  walk : groupedFrom? (digits (cents / 100)).length 0 (digits (cents / 100)) = some whole
  cents_iff : fraction ≠ [] ↔ ¬ 100 ∣ cents
  two_places : fraction ≠ [] → ∃ tens ones, fraction = ['.', tens, ones] ∧ tens.isDigit ∧
    ones.isDigit

/-- The commas of whole dollars split them into groups, which hold digits only. -/
theorem splitOn_grouped_digits (n : Nat) :
    ∃ first rest, (grouped (digits n)).splitOn ',' = first :: rest ∧ InThrees first rest ∧
      ∀ group ∈ first :: rest, ∀ c ∈ group, c.isDigit := by
  obtain ⟨first, rest, inThrees, joined, shown⟩ := exists_inThrees (digits_ne_nil n)
  have plain : ∀ group ∈ first :: rest, ∀ c ∈ group, c.isDigit := by
    intro group among c member
    have inside : c ∈ (first :: rest).flatten := List.mem_flatten.2 ⟨group, among, member⟩
    rw [List.flatten_cons, ← joined] at inside
    exact isDigit_of_mem_digits inside
  have free : ∀ group ∈ first :: rest, ',' ∉ group := fun group among member =>
    absurd (plain group among ',' member) (by decide)
  refine ⟨first, rest, ?_, inThrees, plain⟩
  rw [shown, List.splitOn_intercalate ',' free (List.cons_ne_nil _ _)]

theorem grouped_digits_of_leading_zero {n : Nat}
    (zero : (grouped (digits n)).head? = some '0') : grouped (digits n) = ['0'] := by
  obtain ⟨c, rest, spelled⟩ := List.exists_cons_of_ne_nil (digits_ne_nil n)
  have first : (digits n).head? = some '0' := by
    rw [spelled, grouped_cons] at zero
    rw [spelled]
    exact zero
  have nothing : n = 0 := Nat.eq_zero_of_not_pos fun positive => head?_digits_ne_zero positive first
  rw [nothing, digits, if_pos (by decide)]
  rfl

theorem shows_written (negative : Bool) (cents : Nat) :
    Shows negative cents (written negative cents) (grouped (digits (cents / 100)))
      (fraction cents) where
  parts := written_eq negative cents
  amount := decimal?_written negative cents
  groups := splitOn_grouped_digits (cents / 100)
  leading := grouped_digits_of_leading_zero
  walk := groupedFrom?_length (digits (cents / 100))
  cents_iff := not_congr fraction_eq_nil_iff
  two_places shown :=
    ⟨_, _, fraction_eq_of_ne_nil shown, isDigit_digit _, isDigit_digit _⟩

namespace Shows

variable {negative negative' : Bool} {cents cents' : Nat}
  {text whole whole' fraction fraction' : List Char}

theorem negative_iff (shown : Shows negative cents text whole fraction) :
    negative ↔ text.head? = some '-' := by
  rw [shown.parts]
  cases negative <;> simp

/-- What a label shows can be told from it: the sign from its first character, and the cents from
the number that it is without its marks. -/
theorem unique (first : Shows negative cents text whole fraction)
    (second : Shows negative' cents' text whole' fraction') :
    negative = negative' ∧ cents = cents' := by
  constructor
  · rw [Bool.eq_iff_iff, first.negative_iff, second.negative_iff]
  · have same : (cents / 100 : ℚ) = cents' / 100 :=
      Option.some.inj (first.amount.symm.trans second.amount)
    rw [div_left_inj' (by norm_num), Nat.cast_inj] at same
    exact same

end Shows

/-- **A label shows every cent.**  Any amount of cents, of either sign, is written as a number of
dollars in groups of three, with two places where it is not whole, and no two are written alike.
The label of an award is one of these. -/
theorem labels_show_every_cent :
    (∀ (negative : Bool) (cents : Nat), ∃ whole fraction,
        Shows negative cents (written negative cents) whole fraction) ∧
      (∀ (negative negative' : Bool) (cents cents' : Nat),
        written negative cents = written negative' cents' ↔
          negative = negative' ∧ cents = cents') ∧
      ∀ amount : Binary64, ∃ whole fraction,
        Shows amount.isBelowZero (cents amount) (label amount).toList whole fraction := by
  refine ⟨fun negative cents => ⟨_, _, shows_written negative cents⟩, ?_, fun amount => ?_⟩
  · intro negative negative' cents cents'
    constructor
    · intro same
      have shown := shows_written negative cents
      rw [same] at shown
      exact shown.unique (shows_written negative' cents')
    · rintro ⟨rfl, rfl⟩
      rfl
  · have shown := shows_written amount.isBelowZero (cents amount)
    have same : (label amount).toList = written amount.isBelowZero (cents amount) :=
      String.toList_ofList
    exact ⟨_, _, same ▸ shown⟩

/-- A cent on top of whole dollars has a zero before it. -/
example : String.ofList (written true 123456701) = "-$1,234,567.01" := by cbv

end Dollars

end Screening
