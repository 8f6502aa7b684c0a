/-
# Screening.Json.Token.Number -- numbers in a JSON text

A number is a sign, a whole part without superfluous zeros, and perhaps a fraction
and an exponent.  Without fraction and exponent it is a whole number if it fits 64
bits, with a sign or without one; `-0` is not, so that its sign is kept.

* `decimal_length_lt`: a number takes at least one character.
-/
import Screening.Json.Token.Basic
import Screening.Binary64.Decimal
import Screening.Text.Pattern

namespace Screening.Json

open Text

set_option autoImplicit false

/-- A number as it is written. -/
structure Decimal where
  negative : Bool := false
  whole : List Char
  fraction : List Char := []
  exponent : Option Int := none
  deriving DecidableEq, Repr

/-- At least one digit. -/
def someDigits (text : List Char) : Except Flaw (List Char × List Char) :=
  let digits := text.takeWhile Char.isDigit
  if digits.isEmpty then .error (if text.isEmpty then .cutOff else .malformed)
  else .ok (digits, text.dropWhile Char.isDigit)

def isExponentMark (c : Char) : Bool := c == 'e' || c == 'E'

/-- The sign of an exponent, and what follows it. -/
def exponentSign : List Char → Bool × List Char
  | '-' :: rest => (true, rest)
  | '+' :: rest => (false, rest)
  | rest => (false, rest)

/-- The exponent, if there is one. -/
def exponent? : List Char → Except Flaw (Option Int × List Char)
  | [] => .ok (none, [])
  | c :: rest =>
      if isExponentMark c then
        let (negative, rest) := exponentSign rest
        (someDigits rest).map fun (digits, rest) =>
          (some (if negative then -(value digits : Int) else value digits), rest)
      else .ok (none, c :: rest)

/-- The digits of the fraction, if there is one. -/
def fraction? : List Char → Except Flaw (List Char × List Char)
  | '.' :: rest => someDigits rest
  | rest => .ok ([], rest)

/-- The number without its sign. -/
def unsigned? (negative : Bool) (text : List Char) : Except Flaw (Decimal × List Char) := do
  let (whole, rest) ← someDigits text
  if whole.head? = some '0' ∧ whole ≠ ['0'] then throw .malformed
  let (fraction, rest) ← fraction? rest
  let (exponent, rest) ← exponent? rest
  return (⟨negative, whole, fraction, exponent⟩, rest)

def decimal? : List Char → Except Flaw (Decimal × List Char)
  | '-' :: rest => unsigned? true rest
  | chars => unsigned? false chars

namespace Decimal

/-- The number written, unless it is out of range. -/
def number? (decimal : Decimal) : Option Number :=
  let magnitude := value decimal.whole
  let isWhole := decimal.fraction.isEmpty && decimal.exponent.isNone
  if isWhole && !decimal.negative && magnitude < UInt64.size then some (.integer magnitude)
  else if isWhole && decimal.negative && 0 < magnitude && 2 * magnitude ≤ UInt64.size then
    some (.integer (-magnitude))
  else
    (Binary64.ofDecimal? decimal.negative (decimal.whole.map digitValue)
      (decimal.fraction.map digitValue) (decimal.exponent.getD 0)).map .real

end Decimal

/-- The number at the front of a text. -/
def numberToken (text : List Char) : Token × List Char :=
  match decimal? text with
  | .error flaw => (.brokenNumber flaw, [])
  | .ok (decimal, rest) =>
      match decimal.number? with
      | none => (.wideNumber, rest)
      | some found => (.number found, rest)

theorem dropWhile_length_le {α : Type} (p : α → Bool) (text : List α) :
    (text.dropWhile p).length ≤ text.length :=
  (List.dropWhile_suffix p).length_le

theorem someDigits_length_le {text digits rest : List Char}
    (found : someDigits text = .ok (digits, rest)) : rest.length + 1 ≤ text.length := by
  simp only [someDigits] at found
  split at found
  · cases found
  · next some_ =>
      cases found
      have whole := List.takeWhile_append_dropWhile (p := Char.isDigit) (l := text)
      have := congrArg List.length whole
      have : 0 < (text.takeWhile Char.isDigit).length :=
        List.length_pos_iff.2 (by simpa using some_)
      simp only [List.length_append] at *
      omega

theorem exponentSign_length_le (text : List Char) :
    (exponentSign text).2.length ≤ text.length := by
  unfold exponentSign
  split <;> simp

theorem exponent_length_le {text rest : List Char} {exponent : Option Int}
    (found : exponent? text = .ok (exponent, rest)) : rest.length ≤ text.length := by
  unfold exponent? at found
  split at found
  · cases found; exact Nat.le_refl _
  · next c tail =>
      split at found
      · cases inside : someDigits (exponentSign tail).2 with
        | error flaw => simp [inside, Except.map] at found
        | ok pair =>
            simp only [inside, Except.map, Except.ok.injEq, Prod.mk.injEq] at found
            have := @someDigits_length_le _ pair.1 pair.2 inside
            have := exponentSign_length_le tail
            rw [← found.2, List.length_cons]
            omega
      · cases found; exact Nat.le_refl _

theorem fraction_length_le {text digits rest : List Char}
    (found : fraction? text = .ok (digits, rest)) : rest.length ≤ text.length := by
  unfold fraction? at found
  split at found
  · have := someDigits_length_le found
    rw [List.length_cons]
    omega
  · cases found; exact Nat.le_refl _

theorem unsigned_length_lt {negative : Bool} {text rest : List Char} {decimal : Decimal}
    (found : unsigned? negative text = .ok (decimal, rest)) : rest.length < text.length := by
  unfold unsigned? at found
  cases first : someDigits text with
  | error flaw => simp [first, bind, Except.bind] at found
  | ok pair =>
      obtain ⟨whole, afterWhole⟩ := pair
      simp only [first, bind, Except.bind] at found
      split at found
      · simp [throw, throwThe, MonadExceptOf.throw] at found
      · cases second : fraction? afterWhole with
        | error flaw => simp [second] at found
        | ok pair =>
            obtain ⟨fraction, afterFraction⟩ := pair
            cases third : exponent? afterFraction with
            | error flaw => simp [second, third] at found
            | ok pair =>
                simp only [second, third, pure, Except.pure, Except.ok.injEq,
                  Prod.mk.injEq] at found
                have := someDigits_length_le first
                have := fraction_length_le second
                have := @exponent_length_le _ pair.2 pair.1 third
                rw [← found.2]
                omega

/-- A number takes at least one character. -/
theorem decimal_length_lt {text rest : List Char} {decimal : Decimal}
    (found : decimal? text = .ok (decimal, rest)) : rest.length < text.length := by
  unfold decimal? at found
  split at found
  · have := unsigned_length_lt found
    rw [List.length_cons]
    omega
  · exact unsigned_length_lt found

theorem numberToken_length_le (c : Char) (text : List Char) :
    (numberToken (c :: text)).2.length ≤ text.length := by
  unfold numberToken
  split
  · exact Nat.zero_le _
  · next decimal rest found =>
      have := decimal_length_lt found
      rw [List.length_cons] at this
      split <;> exact Nat.le_of_lt_succ this

end Screening.Json
