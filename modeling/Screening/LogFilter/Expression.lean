/-
# Screening.LogFilter.Expression -- regular expressions that can be searched for

An expression is a row of atoms, sets and groups, any of them perhaps repeated, with
bars between alternatives.  A group may be named, by a name of its own, and may say
how it is read (`(?i-u:...)`); such a setting by itself (`(?x)`) holds for what
follows it in the group around it.  Counted repetitions are not known here, since the
text of an expression holds no closing brace.

An expression can be used if every part of it can be read, its groups are closed, and
it is not nested too deep.

* `step?_length_lt`: each step leaves a shorter text.
-/
import Screening.LogFilter.Expression.CharacterSet
import Screening.Text.Alphanumeric

namespace Screening.LogFilter.Expression

open Text

set_option autoImplicit false

/-- A part of a row: how deep it goes, and whether it can be repeated. -/
structure Part where
  depth : Nat := 0
  isRepeatable : Bool := true
  deriving DecidableEq, Repr

/-- A group whose closing parenthesis has not been read, or the whole expression. -/
structure OpenGroup where
  /-- How the text after the group is read. -/
  outside : Manner := {}
  /-- How deep the alternatives before the last bar go. -/
  alternatives : List Nat := []
  /-- The row after it, last part first. -/
  row : List Part := []
  deriving DecidableEq, Repr

namespace OpenGroup

def add (group : OpenGroup) (part : Part) : OpenGroup := { group with row := part :: group.row }

/-- A bar ends an alternative. -/
def branch (group : OpenGroup) : OpenGroup :=
  { group with
    alternatives := rowDepth (group.row.map (·.depth)) :: group.alternatives, row := [] }

/-- How deep the group goes as far as it has been read. -/
def depth (group : OpenGroup) : Nat := rowDepth group.branch.alternatives

/-- The last part is repeated, if there is one that can be. -/
def repeat? (group : OpenGroup) : Option OpenGroup :=
  match group.row with
  | [] => none
  | part :: row =>
      if part.isRepeatable then some { group with row := { depth := part.depth + 1 } :: row }
      else none

end OpenGroup

/-- What a parenthesis opens. -/
inductive Opening where
  /-- Nothing but a setting for what follows. -/
  | setting (manner : Manner)
  | group (inside : Manner) (name : Option (List Char))
  deriving DecidableEq, Repr

/-- The characters that a name may start with. -/
def startsName (c : Char) : Bool := c == '_' || isAlphabetic c

/-- The characters that a name may go on with. -/
def continuesName (c : Char) : Bool :=
  c == '_' || c == '.' || c == '[' || c == ']' || isAlphanumeric c

/-- The name of a group, up to its angle bracket, and the text after that. -/
def name? (text : List Char) : Option (List Char × List Char) :=
  let name := text.takeWhile (· != '>')
  match name, text.drop name.length with
  | c :: more, '>' :: rest =>
      if startsName c && more.all continuesName then some (name, rest) else none
  | _, _ => none

/-- The manner after an option, which is set or taken back. -/
def Manner.set (manner : Manner) (option : Char) (value : Bool) : Manner :=
  if option = 'u' then { manner with unicode := value }
  else if option = 'x' then { manner with spaced := value }
  else manner

/-- The letters of the options. -/
def options : List Char := ['i', 'm', 's', 'U', 'u', 'R', 'x']

/-- The setting at the start of a text, or the group that it opens.  No option is given
twice, nor is the hyphen after which options are taken back; some option follows it, and
some is given where no group is opened.  The signs that have been `seen` come last first. -/
def setting? (manner : Manner) (seen : List Char) : List Char → Option (Opening × List Char)
  | [] => none
  | c :: rest =>
      if c = ':' then if seen.head? = some '-' then none else some (.group manner none, rest)
      else if c = ')' then
        if seen.isEmpty || seen.head? = some '-' then none else some (.setting manner, rest)
      else if seen.contains c then none
      else if c = '-' then setting? manner (c :: seen) rest
      else if options.contains c then
        setting? (manner.set c !(seen.contains '-')) (c :: seen) rest
      else none

/-- What the parenthesis before this text opens, and the text after that. -/
def opening? (manner : Manner) (text : List Char) : Option (Opening × List Char) :=
  match manner.skip text with
  | '?' :: 'P' :: '<' :: rest => (name? rest).map fun (name, rest) => (.group manner name, rest)
  | '?' :: '<' :: rest => (name? rest).map fun (name, rest) => (.group manner name, rest)
  | '?' :: rest => setting? manner [] rest
  | rest => some (.group manner none, rest)

/-- How far an expression has been read. -/
structure Progress where
  /-- How the text from here on is read. -/
  manner : Manner := {}
  /-- The names of its groups. -/
  names : List (List Char) := []
  group : OpenGroup := {}
  around : List OpenGroup := []
  deriving DecidableEq, Repr

namespace Progress

def add (progress : Progress) (part : Part) : Progress :=
  { progress with group := progress.group.add part }

/-- The progress by an opening; a name cannot be given twice. -/
def open? (progress : Progress) : Opening → Option Progress
  | .setting manner => some { progress.add { isRepeatable := false } with manner }
  | .group inside name =>
      if name.any progress.names.contains then none
      else
        some {
          manner := inside
          names := name.toList ++ progress.names
          group := { outside := progress.manner }
          around := progress.group :: progress.around }

/-- The progress by a closing parenthesis. -/
def close? (progress : Progress) : Option Progress :=
  match progress.around with
  | [] => none
  | outer :: around =>
      some { progress with
        manner := progress.group.outside
        group := outer.add { depth := progress.group.depth + 1 }
        around }

/-- How deep an expression may be nested. -/
def depthLimit : Nat := 250

/-- Whether an expression may end here. -/
def isComplete (progress : Progress) : Bool :=
  progress.around.isEmpty && progress.group.depth ≤ depthLimit

end Progress

/-- The atom that a character makes, with the text after it if it is a backslash. -/
def lone? (manner : Manner) (c : Char) (rest : List Char) : Option (Atom × List Char) :=
  if c = '\\' then escape? manner rest
  else if c = '.' then some (.named false, rest)
  else if c = '^' || c = '$' then some (.edge, rest)
  else some (.character c false, rest)

/-- The text after a question mark, which makes a repetition take as little as it can. -/
def skipLazy : List Char → List Char
  | '?' :: rest => rest
  | text => text

/-- The progress by the part or mark at the start of a text, and the text after it. -/
def step? (progress : Progress) (text : List Char) : Option (Progress × List Char) :=
  match text with
  | [] => none
  | c :: rest =>
      if c = '(' then do
        let (opening, rest) ← opening? progress.manner rest
        return (← progress.open? opening, rest)
      else if c = ')' then progress.close?.map fun progress => (progress, rest)
      else if c = '|' then some ({ progress with group := progress.group.branch }, rest)
      else if c = '[' then do
        let (set, rest) ← openSet? progress.manner rest
        let (depth, rest) ← readSet? progress.manner set [] rest
        return (progress.add { depth }, rest)
      else if c = '?' || c = '*' || c = '+' then
        progress.group.repeat?.map fun group => ({ progress with group }, skipLazy rest)
      else if c = '\x7b' then none
      else do
        let (atom, rest) ← lone? progress.manner c rest
        if atom.isUsable progress.manner then return (progress.add {}, rest) else none

/-! ## Lengths -/

theorem name?_length_le {text name rest : List Char} (found : name? text = some (name, rest)) :
    rest.length ≤ text.length := by
  unfold name? at found
  dsimp only at found
  split at found
  · next here =>
    have := congrArg List.length here
    simp only [List.length_drop, List.length_cons] at this
    split at found <;> cases found
    omega
  · cases found

theorem setting?_length_le {manner : Manner} {seen text rest : List Char} {opening : Opening}
    (found : setting? manner seen text = some (opening, rest)) : rest.length ≤ text.length := by
  induction text generalizing manner seen with
  | nil => cases found
  | cons c more ih =>
      unfold setting? at found
      simp only [List.length_cons]
      split at found
      · split at found <;> cases found
        omega
      split at found
      · split at found <;> cases found
        omega
      split at found
      · cases found
      split at found
      · have := ih found
        omega
      split at found
      · have := ih found
        omega
      · cases found

theorem opening?_length_le {manner : Manner} {text rest : List Char} {opening : Opening}
    (found : opening? manner text = some (opening, rest)) : rest.length ≤ text.length := by
  have skipped := skip_length_le manner text
  unfold opening? at found
  split at found
  case h_3 more here =>
    have := setting?_length_le found
    rw [here] at skipped
    simp only [List.length_cons] at skipped
    omega
  case h_4 =>
    cases found
    exact skipped
  all_goals next more here =>
    obtain ⟨⟨name, after⟩, there, same⟩ := Option.map_eq_some_iff.1 found
    cases same
    have := name?_length_le there
    rw [here] at skipped
    simp only [List.length_cons] at skipped
    omega

theorem skipLazy_length_le (text : List Char) : (skipLazy text).length ≤ text.length := by
  unfold skipLazy
  split <;> simp

theorem lone?_length_le {manner : Manner} {c : Char} {text rest : List Char} {atom : Atom}
    (found : lone? manner c text = some (atom, rest)) : rest.length ≤ text.length := by
  unfold lone? at found
  split at found
  · exact Nat.le_of_lt (escape?_length_lt found)
  split at found
  · cases found
    exact Nat.le_refl _
  split at found <;> cases found <;> exact Nat.le_refl _

theorem step?_length_lt {progress next : Progress} {text rest : List Char}
    (found : step? progress text = some (next, rest)) : rest.length < text.length := by
  unfold step? at found
  split at found
  · cases found
  · next c more =>
    simp only [List.length_cons]
    split at found
    · obtain ⟨⟨opening, after⟩, here, found⟩ := Option.bind_eq_some_iff.1 found
      obtain ⟨opened, -, same⟩ := Option.bind_eq_some_iff.1 found
      cases same
      have := opening?_length_le here
      omega
    split at found
    · obtain ⟨closed, -, same⟩ := Option.map_eq_some_iff.1 found
      cases same
      omega
    split at found
    · cases found
      omega
    split at found
    · obtain ⟨⟨set, inside⟩, here, found⟩ := Option.bind_eq_some_iff.1 found
      obtain ⟨⟨depth, after⟩, there, same⟩ := Option.bind_eq_some_iff.1 found
      cases same
      have := openSet?_length_le here
      have := readSet?_length_lt there
      omega
    split at found
    · obtain ⟨group, -, same⟩ := Option.map_eq_some_iff.1 found
      cases same
      have := skipLazy_length_le more
      omega
    split at found
    · cases found
    · obtain ⟨⟨atom, after⟩, here, found⟩ := Option.bind_eq_some_iff.1 found
      dsimp only at found
      have := lone?_length_le here
      split at found <;> cases found
      omega

/-! ## Whole expressions -/

/-- Whether an expression that has been read so far can be read to its end. -/
def Progress.readsOn (progress : Progress) (text : List Char) : Bool :=
  if (progress.manner.skip text).isEmpty then progress.isComplete
  else
    match _found : step? progress (progress.manner.skip text) with
    | none => false
    | some (progress, rest) => progress.readsOn rest
termination_by text.length
decreasing_by exact Nat.lt_of_lt_of_le (step?_length_lt _found) (skip_length_le _ _)

/-- Whether a text is an expression that can be used. -/
def isUsable (text : List Char) : Bool := Progress.readsOn {} text

end Screening.LogFilter.Expression
