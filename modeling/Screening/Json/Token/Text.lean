/-
# Screening.Json.Token.Text -- texts in a JSON text

Between its quotes a text holds characters and escapes.  An escape `\u` gives a
UTF-16 unit; the two halves of a surrogate pair give one character together.  Half
of a pair alone is malformed to read, but skipping passes over it.

* `length_lt_of_piece`: every piece takes at least one character.
-/
import Screening.Json.Token.Basic

namespace Screening.Json

open Text

set_option autoImplicit false

/-- What stands next inside a text. -/
inductive Piece where
  | close
  | char (c : Char)
  | loneHalf
  | flaw (flaw : Flaw)
  deriving Repr

/-- The unit that four hexadecimal digits give.  The text is cut off if fewer than
four bytes are left of it. -/
def unit? : List Char → Except Flaw (Nat × List Char)
  | a :: b :: c :: d :: rest =>
      match hexValue? a, hexValue? b, hexValue? c, hexValue? d with
      | some a, some b, some c, some d => .ok (((a * 16 + b) * 16 + c) * 16 + d, rest)
      | _, _, _, _ => .error .malformed
  | rest => .error (if (String.ofList rest).utf8ByteSize < 4 then .cutOff else .malformed)

def isHighHalf (unit : Nat) : Bool := 0xD800 ≤ unit && unit ≤ 0xDBFF

def isLowHalf (unit : Nat) : Bool := 0xDC00 ≤ unit && unit ≤ 0xDFFF

/-- The character that two halves of a surrogate pair give. -/
def paired (high low : Nat) : Char :=
  Char.ofNat (0x10000 + (high - 0xD800) * 0x400 + (low - 0xDC00))

/-- The piece that starts with the first half of a pair. -/
def afterHighHalf (high : Nat) (text : List Char) : Piece × List Char :=
  match text with
  | [] | ['\\'] => (.flaw .cutOff, [])
  | '\\' :: 'u' :: rest =>
      match unit? rest with
      | .error flaw => (.flaw flaw, [])
      | .ok (low, after) =>
          if isLowHalf low then (.char (paired high low), after) else (.loneHalf, text)
  | _ => (.loneHalf, text)

/-- The character that a letter after a backslash stands for. -/
def escapeLetter? (c : Char) : Option Char :=
  if c = '"' ∨ c = '\\' ∨ c = '/' then some c
  else if c = 'b' then some '\x08'
  else if c = 'f' then some '\x0c'
  else if c = 'n' then some '\n'
  else if c = 'r' then some '\r'
  else if c = 't' then some '\t'
  else none

/-- The piece after a backslash. -/
def escape : List Char → Piece × List Char
  | [] => (.flaw .cutOff, [])
  | 'u' :: rest =>
      match unit? rest with
      | .error flaw => (.flaw flaw, [])
      | .ok (unit, rest) =>
          if isLowHalf unit then (.loneHalf, rest)
          else if isHighHalf unit then afterHighHalf unit rest
          else (.char (Char.ofNat unit), rest)
  | c :: rest =>
      match escapeLetter? c with
      | some meant => (.char meant, rest)
      | none => (.flaw .malformed, [])

/-- The next piece of a text and what follows it. -/
def piece : List Char → Piece × List Char
  | [] => (.flaw .cutOff, [])
  | '"' :: rest => (.close, rest)
  | '\\' :: rest => escape rest
  | c :: rest => if c.toNat < 0x20 then (.flaw .malformed, []) else (.char c, rest)

theorem unit_length_lt {text rest : List Char} {unit : Nat} (found : unit? text = .ok (unit, rest)) :
    rest.length < text.length := by
  unfold unit? at found
  split at found
  · split at found
    · cases found
      simp only [List.length_cons]
      omega
    · cases found
  · cases found

theorem afterHighHalf_length_le (high : Nat) (text : List Char) :
    (afterHighHalf high text).2.length ≤ text.length := by
  unfold afterHighHalf
  split
  · exact Nat.le_refl _
  · exact Nat.zero_le _
  · next rest =>
      split
      · exact Nat.zero_le _
      · next low after found =>
          have := unit_length_lt found
          split
          · simp only [List.length_cons]; omega
          · exact Nat.le_refl _
  · exact Nat.le_refl _

theorem escape_length_le (text : List Char) : (escape text).2.length ≤ text.length := by
  unfold escape
  split
  · exact Nat.le_refl _
  · next rest =>
      split
      · exact Nat.zero_le _
      · next unit after found =>
          have := unit_length_lt found
          have := afterHighHalf_length_le unit after
          rw [List.length_cons]
          split
          · simp only; omega
          · split
            · omega
            · simp only; omega
  · next c rest _ =>
      split
      · simp
      · exact Nat.zero_le _

/-- Every piece takes at least one character. -/
theorem length_lt_of_piece {text rest : List Char} {found : Piece}
    (next : piece text = (found, rest)) (sound : found ≠ .flaw .cutOff) :
    rest.length < text.length := by
  unfold piece at next
  split at next
  · cases next; exact absurd rfl sound
  · cases next; simp
  · next inside =>
      have := escape_length_le inside
      rw [next] at this
      exact Nat.lt_succ_of_le this
  · split at next <;> cases next <;> simp

/-- The text whose inside this is, and what follows its closing quote.  `read` is what
has been read of it, from back to front; it is `none` past half of a pair. -/
def textToken (read : Option (List Char)) (chars : List Char) : Token × List Char :=
  match _next : piece chars with
  | (.close, rest) =>
      match read with
      | some reversed => (.text (String.ofList reversed.reverse), rest)
      | none => (.loneText, rest)
  | (.char c, rest) => textToken (read.map (c :: ·)) rest
  | (.loneHalf, rest) => textToken none rest
  | (.flaw flaw, _) => (.brokenText (if read.isSome then flaw else .malformed) flaw, [])
termination_by chars.length
decreasing_by all_goals exact length_lt_of_piece _next (by simp)

theorem textToken_length_le (read : Option (List Char)) (chars : List Char) :
    (textToken read chars).2.length ≤ chars.length := by
  fun_induction textToken read chars with
  | case1 _ rest next => exact Nat.le_of_lt (length_lt_of_piece next (by simp))
  | case2 _ rest next => exact Nat.le_of_lt (length_lt_of_piece next (by simp))
  | case3 _ _ _ rest next ih =>
      exact Nat.le_trans ih (Nat.le_of_lt (length_lt_of_piece next (by simp)))
  | case4 _ _ rest next ih =>
      exact Nat.le_trans ih (Nat.le_of_lt (length_lt_of_piece next (by simp)))
  | case5 => exact Nat.zero_le _

end Screening.Json
