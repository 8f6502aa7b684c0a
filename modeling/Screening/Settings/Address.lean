/-
# Screening.Settings.Address -- the address to listen at

An address is written as four decimal numbers, or as eight groups of hexadecimal
digits of which `::` may stand for one or more that are zero and the last two may be
written as four decimal numbers.  It is shown in one form: the longest stretch of
zero groups, the first of several, is `::` if it has more than one group, and an
address that maps one of the four-number kind shows it.
-/
import Screening.Text.Numeral
import Screening.Text.Search

namespace Screening

open Text

set_option autoImplicit false

inductive Address where
  /-- Four numbers below 256. -/
  | four (a b c d : Nat)
  /-- Eight numbers below 65536. -/
  | six (groups : List Nat)
  deriving DecidableEq, Repr

namespace Address

/-! ## Reading -/

/-- A number below 256 in at most three digits, without a superfluous zero. -/
def octet? (text : List Char) : Option Nat :=
  if text.isEmpty || !text.all Char.isDigit || 3 < text.length then none
  else if text.head? = some '0' ∧ text.length ≠ 1 then none
  else if value text < 256 then some (value text)
  else none

/-- Four numbers with points between them. -/
def octets? (text : List Char) : Option (Nat × Nat × Nat × Nat) :=
  match splitOn ['.'] (by decide) text with
  | [a, b, c, d] => do return (← octet? a, ← octet? b, ← octet? c, ← octet? d)
  | _ => none

/-- A group of at most four hexadecimal digits. -/
def group? (text : List Char) : Option Nat :=
  if text.isEmpty || 4 < text.length then none
  else text.foldlM (fun n c => (hexValue? c).map fun digit => n * 16 + digit) 0

/-- Groups, of which the last two may be written as four decimal numbers. -/
def groups? : List (List Char) → Option (List Nat)
  | [] => some []
  | [last] =>
      match group? last with
      | some group => some [group]
      | none => (octets? last).map fun (a, b, c, d) => [a * 256 + b, c * 256 + d]
  | first :: rest => do return (← group? first) :: (← groups? rest)

/-- The pieces of a text between colons; an empty text has none. -/
def pieces (text : List Char) : List (List Char) :=
  if text.isEmpty then [] else splitOn [':'] (by decide) text

def six? (text : List Char) : Option Address :=
  match cut? "::".toList text with
  | none => do
      let groups ← groups? (pieces text)
      if groups.length = 8 then return .six groups else none
  | some (front, back) => do
      let front ← (pieces front).mapM group?
      let back ← groups? (pieces back)
      if front.length + back.length ≤ 7 then
        return .six (front ++ List.replicate (8 - front.length - back.length) 0 ++ back)
      else none

def ofText? (text : String) : Option Address :=
  match octets? text.toList with
  | some (a, b, c, d) => some (.four a b c d)
  | none => six? text.toList

/-! ## Showing -/

def octetsText (a b c d : Nat) : String :=
  ".".intercalate ([a, b, c, d].map natText)

def groupText (group : Nat) : String := String.ofList (Nat.toDigits 16 group)

def groupsText (groups : List Nat) : String := ":".intercalate (groups.map groupText)

/-- Where the longest stretch of zeros starts, and how long it is. -/
def longestZeros : List Nat → Nat × Nat
  | [] => (0, 0)
  | group :: groups =>
      let here := ((group :: groups).takeWhile (· = 0)).length
      let (start, length) := longestZeros groups
      if length ≤ here then (0, here) else (start + 1, length)

def display : Address → String
  | .four a b c d => octetsText a b c d
  | .six [0, 0, 0, 0, 0, 0xFFFF, high, low] =>
      "::ffff:" ++ octetsText (high / 256) (high % 256) (low / 256) (low % 256)
  | .six groups =>
      let (start, length) := longestZeros groups
      if 1 < length then
        groupsText (groups.take start) ++ "::" ++ groupsText (groups.drop (start + length))
      else groupsText groups

/-- The address with a port. -/
def withPort (address : Address) (port : UInt16) : String :=
  let port := natText port.toNat
  match address with
  | .four _ _ _ _ => address.display ++ ":" ++ port
  | .six _ => "[" ++ address.display ++ "]:" ++ port

end Address

end Screening
