/-
# Screening.LogFilter.Expression.CharacterSet -- sets in square brackets

A set holds characters, ranges of them, classes, POSIX classes such as [:alpha:] and
further sets, and operators between them (`&&`, `--`, `~~`).  A caret at the start
takes the complement, which is not one of ASCII characters and so cannot be had over
bytes.  Hyphens at the start are members, and so is a closing bracket in first place.

A hyphen between two characters makes a range, which must not be empty; before a
closing bracket or another hyphen it does not.

* `readSet?_length_lt`: reading a set leaves a shorter text.
-/
import Screening.LogFilter.Expression.Basic

namespace Screening.LogFilter.Expression

open Text

set_option autoImplicit false

/-- A set whose closing bracket has not been read. -/
structure OpenSet where
  /-- How deep the operand before the last operator goes. -/
  operand : Option Nat := none
  /-- How deep the members after it go. -/
  members : List Nat := []
  /-- Whether nothing but hyphens has been read. -/
  isFresh : Bool := true
  deriving DecidableEq, Repr

namespace OpenSet

def add (set : OpenSet) (depth : Nat) : OpenSet :=
  { set with members := depth :: set.members, isFresh := false }

/-- How deep the set goes as far as it has been read. -/
def depth (set : OpenSet) : Nat :=
  match set.operand with
  | none => rowDepth set.members
  | some operand => rowDepth [operand, rowDepth set.members]

/-- An operator takes all that has been read as its first operand. -/
def operate (set : OpenSet) : OpenSet := ⟨some set.depth, [], false⟩

end OpenSet

/-- The names of the POSIX classes. -/
def posixNames : List String :=
  ["alnum", "alpha", "ascii", "blank", "cntrl", "digit", "graph", "lower", "print", "punct",
    "space", "upper", "word", "xdigit"]

/-- The text after the name of a POSIX class. -/
def posixName? (text : List Char) : Option (List Char) :=
  let name := text.takeWhile (· != ':')
  match text.drop name.length with
  | ':' :: ']' :: rest => if posixNames.contains (String.ofList name) then some rest else none
  | _ => none

/-- Whether a POSIX class is a complement, and the text after it, from the character
after its opening bracket on. -/
def posix? : List Char → Option (Bool × List Char)
  | ':' :: '^' :: rest => (posixName? rest).map fun rest => (true, rest)
  | ':' :: rest => (posixName? rest).map fun rest => (false, rest)
  | _ => none

/-- The set that an opening bracket starts, with the text from its first member on. -/
def openSet? (manner : Manner) (text : List Char) : Option (OpenSet × List Char) :=
  match manner.skip text with
  | '^' :: rest => if manner.unicode then some ({}, rest) else none
  | rest => some ({}, rest)

/-- The character by which a hyphen before this text is told to make a range.  Blanks
and the sign of a remark are passed over, but not the remark. -/
def lookAhead? (manner : Manner) (text : List Char) : Option Char :=
  if manner.spaced then
    match text.dropWhile isBlank with
    | '#' :: rest => (rest.dropWhile isBlank).head?
    | rest => rest.head?
  else text.head?

/-- The text after a hyphen that makes a range, if there is one. -/
def afterHyphen? (manner : Manner) (text : List Char) : Option (List Char) :=
  match manner.skip text with
  | '-' :: rest =>
      let next := lookAhead? manner rest
      if next = some ']' || next = some '-' then none else some (manner.skip rest)
  | _ => none

/-- A character or an escape. -/
def atom? (manner : Manner) : List Char → Option (Atom × List Char)
  | [] => none
  | '\\' :: rest => escape? manner rest
  | c :: rest => some (.character c false, rest)

/-- Whether a range goes from one atom to the other. -/
def isRange (manner : Manner) (first last : Atom) : Bool :=
  match first, last with
  | .character c _, .character d _ => first.isMember manner && last.isMember manner && c ≤ d
  | _, _ => false

/-- The text after a member that is an atom or a range. -/
def member? (manner : Manner) (text : List Char) : Option (List Char) :=
  (atom? manner text).bind fun (first, rest) =>
    match afterHyphen? manner rest with
    | none => if first.isMember manner then some rest else none
    | some more =>
        (atom? manner more).bind fun (last, rest) =>
          if isRange manner first last then some rest else none

/-- Reads a mark or a member of the innermost open set: the depth of the whole set if
that closes it, or else the sets that are open then, and the text after it. -/
def setStep? (manner : Manner) (set : OpenSet) (around : List OpenSet) (text : List Char) :
    Option ((Nat ⊕ OpenSet × List OpenSet) × List Char) :=
  match text with
  | [] => none
  | c :: rest =>
      let operator := c = '&' || c = '-' || c = '~'
      if set.isFresh && (c = '-' || c = ']' && set.members.isEmpty) then
        some (.inr ({ set with members := 0 :: set.members, isFresh := c = '-' }, around), rest)
      else if c = '[' then
        match posix? rest with
        | some (negated, rest) =>
            if negated && !manner.unicode then none else some (.inr (set.add 0, around), rest)
        | none => (openSet? manner rest).map fun (inner, rest) => (.inr (inner, set :: around), rest)
      else if c = ']' then
        match around with
        | [] => some (.inl (set.depth + 1), rest)
        | outer :: around => some (.inr (outer.add (set.depth + 1), around), rest)
      else if operator && rest.head? = some c then some (.inr (set.operate, around), rest.tail)
      else (member? manner text).map fun rest => (.inr (set.add 0, around), rest)

/-! ## Lengths -/

theorem posixName?_length_le {text rest : List Char} (found : posixName? text = some rest) :
    rest.length ≤ text.length := by
  unfold posixName? at found
  dsimp only at found
  split at found
  · next after here =>
    have := congrArg List.length here
    simp only [List.length_drop, List.length_cons] at this
    split at found <;> cases found
    omega
  · cases found

theorem posix?_length_le {text rest : List Char} {negated : Bool}
    (found : posix? text = some (negated, rest)) : rest.length ≤ text.length := by
  unfold posix? at found
  split at found
  case h_3 => cases found
  all_goals
    obtain ⟨after, here, same⟩ := Option.map_eq_some_iff.1 found
    cases same
    have := posixName?_length_le here
    simp only [List.length_cons]
    omega

theorem openSet?_length_le {manner : Manner} {text rest : List Char} {set : OpenSet}
    (found : openSet? manner text = some (set, rest)) : rest.length ≤ text.length := by
  have shorter := skip_length_le manner text
  unfold openSet? at found
  split at found
  · next after here =>
    rw [here, List.length_cons] at shorter
    split at found <;> cases found
    omega
  · cases found
    exact shorter

theorem atom?_length_lt {manner : Manner} {text rest : List Char} {atom : Atom}
    (found : atom? manner text = some (atom, rest)) : rest.length < text.length := by
  unfold atom? at found
  split at found
  · cases found
  · have := escape?_length_lt found
    simp only [List.length_cons]
    omega
  · cases found
    simp

theorem afterHyphen?_length_le {manner : Manner} {text rest : List Char}
    (found : afterHyphen? manner text = some rest) : rest.length ≤ text.length := by
  have skipped := skip_length_le manner text
  unfold afterHyphen? at found
  split at found
  · next more here =>
    have := skip_length_le manner more
    rw [here, List.length_cons] at skipped
    dsimp only at found
    split at found <;> cases found
    omega
  · cases found

theorem member?_length_lt {manner : Manner} {text rest : List Char}
    (found : member? manner text = some rest) : rest.length < text.length := by
  obtain ⟨⟨first, after⟩, here, found⟩ := Option.bind_eq_some_iff.1 found
  have := atom?_length_lt here
  dsimp only at found
  split at found
  · split at found <;> cases found
    exact this
  · next more there =>
    have := afterHyphen?_length_le there
    obtain ⟨⟨last, after'⟩, here', found⟩ := Option.bind_eq_some_iff.1 found
    have := atom?_length_lt here'
    dsimp only at found
    split at found <;> cases found
    omega

theorem setStep?_length_lt {manner : Manner} {set : OpenSet} {around : List OpenSet}
    {text rest : List Char} {next : Nat ⊕ OpenSet × List OpenSet}
    (found : setStep? manner set around text = some (next, rest)) :
    rest.length < text.length := by
  unfold setStep? at found
  split at found
  · cases found
  · next c more =>
    dsimp only at found
    split at found
    · cases found
      simp
    · split at found
      · split at found
        · next negated after here =>
          have := posix?_length_le here
          split at found <;> cases found
          simp only [List.length_cons]
          omega
        · obtain ⟨⟨inner, after⟩, here, same⟩ := Option.map_eq_some_iff.1 found
          cases same
          have := openSet?_length_le here
          simp only [List.length_cons]
          omega
      · split at found
        · split at found <;> cases found <;> simp
        · split at found
          · cases found
            simp only [List.length_tail, List.length_cons]
            omega
          · obtain ⟨after, here, same⟩ := Option.map_eq_some_iff.1 found
            cases same
            exact member?_length_lt here

/-! ## Whole sets -/

/-- How deep a set goes, and the text after its closing bracket. -/
def readSet? (manner : Manner) (set : OpenSet) (around : List OpenSet) (text : List Char) :
    Option (Nat × List Char) :=
  match _found : setStep? manner set around (manner.skip text) with
  | none => none
  | some (.inl depth, rest) => some (depth, rest)
  | some (.inr (set, around), rest) => readSet? manner set around rest
termination_by text.length
decreasing_by exact Nat.lt_of_lt_of_le (setStep?_length_lt _found) (skip_length_le manner text)

theorem readSet?_length_lt {manner : Manner} {set : OpenSet} {around : List OpenSet}
    {text rest : List Char} {depth : Nat}
    (found : readSet? manner set around text = some (depth, rest)) :
    rest.length < text.length := by
  have skipped := skip_length_le manner text
  fun_induction readSet? manner set around text with
  | case1 => cases found
  | case2 set around text depth' rest' here =>
      cases found
      have := setStep?_length_lt here
      omega
  | case3 set around text set' around' rest' here ih =>
      have := setStep?_length_lt here
      have := ih found (skip_length_le manner rest')
      omega

end Screening.LogFilter.Expression
