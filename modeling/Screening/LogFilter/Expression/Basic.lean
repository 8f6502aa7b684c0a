/-
# Screening.LogFilter.Expression.Basic -- the atoms of a regular expression

An atom is a character, a class of characters or a place between two of them.  An
escape names one: a character by a letter or by its code, a class by a letter or by
a category, a place by a letter, and any other ASCII sign stands for itself.

What an atom may be depends on the manner in which its part of the expression is
read.  Usually that is over the characters of every script.  Over bytes, nothing may
stand for a byte beyond ASCII by itself, since what is found must be characters.  An
expression becomes an automaton, and that one knows the borders of words over bytes
only.

* `skip_length_le`, `escape?_length_lt`: readers leave a shorter text.
-/
import Screening.Text.Blank
import Screening.Text.Numeral

namespace Screening.LogFilter.Expression

open Text

set_option autoImplicit false

/-- How a part of an expression is read. -/
structure Manner where
  /-- Whether it is over the characters of every script, and not over bytes. -/
  unicode : Bool := true
  /-- Whether blanks and remarks are left out; a remark is the rest of a line from a
  number sign on. -/
  spaced : Bool := false
  deriving DecidableEq, Repr

/-- The text after the blanks and remarks at its start. -/
def skipSpace (inRemark : Bool) : List Char → List Char
  | [] => []
  | c :: rest =>
      if inRemark then skipSpace (c != '\n') rest
      else if isBlank c then skipSpace false rest
      else if c = '#' then skipSpace true rest
      else c :: rest

/-- The text from the next character that counts. -/
def Manner.skip (manner : Manner) (text : List Char) : List Char :=
  if manner.spaced then skipSpace false text else text

inductive Atom where
  /-- A character; it may be named by two digits, as a byte is. -/
  | character (c : Char) (isByte : Bool)
  /-- A class; over bytes it may hold ASCII only. -/
  | named (isAscii : Bool)
  /-- The border of a word, or a place that is none. -/
  | border
  /-- An end of the text or of a line. -/
  | edge
  deriving DecidableEq, Repr

namespace Atom

/-- Whether an atom may stand by itself. -/
def isUsable (manner : Manner) : Atom → Bool
  | .character c isByte => manner.unicode || !isByte || c.toNat < 0x80
  | .named isAscii => manner.unicode || isAscii
  | .border => !manner.unicode
  | .edge => true

/-- Whether an atom may be a member of a set. -/
def isMember (manner : Manner) : Atom → Bool
  | .character c _ => manner.unicode || c.toNat < 0x80
  | .named isAscii => manner.unicode || isAscii
  | .border | .edge => false

end Atom

/-- The code that this many hexadecimal digits give, after the code so far. -/
def hexCode? (manner : Manner) : Nat → Nat → List Char → Option (Nat × List Char)
  | 0, code, text => some (code, text)
  | count + 1, code, text =>
      match manner.skip text with
      | [] => none
      | c :: rest => (hexValue? c).bind fun d => hexCode? manner count (code * 16 + d) rest

/-- How many digits follow these letters. -/
def codeLength? (c : Char) : Option Nat :=
  if c = 'x' then some 2 else if c = 'u' then some 4 else if c = 'U' then some 8 else none

/-- The letters of controls. -/
def controls : List (Char × Char) :=
  [('a', '\x07'), ('f', '\x0c'), ('n', '\n'), ('r', '\r'), ('t', '\t'), ('v', '\x0b')]

/-- The letters of the general categories, in upper case. -/
def categories : List Char := ['C', 'L', 'M', 'N', 'P', 'S', 'Z']

/-- The atom that an escape names by one character. -/
def named? (c : Char) : Option Atom :=
  match controls.lookup c with
  | some control => some (.character control false)
  | none =>
      if ['d', 's', 'w'].contains c then some (.named true)
      else if ['D', 'S', 'W'].contains c then some (.named false)
      else if ['A', 'z'].contains c then some .edge
      else if ['b', 'B', '<', '>'].contains c then some .border
      else if c.toNat < 0x80 && !c.isAlphanum then some (.character c false)
      else none

/-- The atom that an escape names, after its backslash. -/
def escape? (manner : Manner) : List Char → Option (Atom × List Char)
  | [] => none
  | c :: rest =>
      match codeLength? c with
      | some count =>
          match hexCode? manner count 0 rest with
          | none => none
          | some (code, rest) =>
              if code.isValidChar then some (.character (Char.ofNat code) (count = 2), rest)
              else none
      | none =>
          if c = 'p' || c = 'P' then
            match manner.skip rest with
            | [] => none
            | category :: rest =>
                if categories.contains category.toUpper then some (.named false, rest) else none
          else (named? c).map fun atom => (atom, rest)

/-- How deep a row of parts goes.  A part by itself is no row. -/
def rowDepth : List Nat → Nat
  | [] => 0
  | [depth] => depth
  | depths => depths.foldl max 0 + 1

/-! ## Lengths -/

theorem skipSpace_length_le (inRemark : Bool) (text : List Char) :
    (skipSpace inRemark text).length ≤ text.length := by
  induction text generalizing inRemark with
  | nil => exact Nat.le_refl 0
  | cons c rest ih =>
      have shorter (remark : Bool) : (skipSpace remark rest).length ≤ rest.length + 1 :=
        Nat.le_succ_of_le (ih remark)
      rw [skipSpace, List.length_cons]
      split
      · exact shorter _
      · split
        · exact shorter _
        · split
          · exact shorter _
          · exact Nat.le_refl _

theorem skip_length_le (manner : Manner) (text : List Char) :
    (manner.skip text).length ≤ text.length := by
  unfold Manner.skip
  split
  · exact skipSpace_length_le false text
  · exact Nat.le_refl _

theorem hexCode?_length_le {manner : Manner} {count code code' : Nat} {text rest : List Char}
    (found : hexCode? manner count code text = some (code', rest)) :
    rest.length ≤ text.length := by
  induction count generalizing code text with
  | zero => simp_all [hexCode?]
  | succ count ih =>
      have shorter := skip_length_le manner text
      unfold hexCode? at found
      split at found
      · cases found
      · next c more here =>
        obtain ⟨d, -, found⟩ := Option.bind_eq_some_iff.1 found
        have := ih found
        rw [here, List.length_cons] at shorter
        omega

theorem escape?_length_lt {manner : Manner} {text rest : List Char} {atom : Atom}
    (found : escape? manner text = some (atom, rest)) : rest.length < text.length := by
  unfold escape? at found
  split at found
  · cases found
  · next c more =>
    split at found
    · split at found
      · cases found
      · next code after here =>
        have := hexCode?_length_le here
        split at found <;> cases found
        simp only [List.length_cons]
        omega
    · split at found
      · have shorter := skip_length_le manner more
        split at found
        · cases found
        · next category after here =>
          rw [here, List.length_cons] at shorter
          split at found <;> cases found
          simp only [List.length_cons]
          omega
      · obtain ⟨atom', -, same⟩ := Option.map_eq_some_iff.1 found
        cases same
        simp

end Screening.LogFilter.Expression
