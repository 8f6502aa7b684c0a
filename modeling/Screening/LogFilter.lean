/-
# Screening.LogFilter -- whether a log filter can be read

A filter is a list of directives between commas.  A directive is a level, a target
with perhaps a level after an equals sign, or either with a span in brackets, which
may have one field in braces.  A level is a name, in any letter case, or a digit up
to five.  A field may have a value, which is a number or a regular expression.  A
target alone can be almost anything, so most texts are filters; what fails is a level
or a value that is none and a bracket that is not closed.

Blanks around a directive are passed over, but its level and its field are cut out as
if they had not been: by their offsets in bytes.

The filter is taken from a variable of the environment if it can be read there, and
otherwise from the settings.
-/
import Screening.LogFilter.Expression
import Screening.Text.Search

namespace Screening.LogFilter

open Text

set_option autoImplicit false

def levelNames : List String := ["", "off", "error", "warn", "info", "debug", "trace"]

/-- Whether a text is a level. -/
def isLevel (text : List Char) : Bool :=
  let digits :=
    match text with
    | '+' :: digits => digits
    | digits => digits
  if !digits.isEmpty && digits.all Char.isDigit then value digits ≤ 5
  else levelNames.contains (String.ofList (text.map Char.toLower))

/-- The text without a sign in front. -/
def unsigned : List Char → List Char
  | '+' :: text => text
  | '-' :: text => text
  | text => text

/-- Whether a text is a number in decimal, perhaps with a point and an exponent. -/
def isDecimal (text : List Char) : Bool :=
  let whole := text.takeWhile Char.isDigit
  let (fraction, rest) :=
    match text.drop whole.length with
    | '.' :: more => (more.takeWhile Char.isDigit, more.dropWhile Char.isDigit)
    | rest => ([], rest)
  !(whole.isEmpty && fraction.isEmpty) &&
    match rest with
    | [] => true
    | c :: exponent =>
        let digits := unsigned exponent
        (c = 'e' || c = 'E') && !digits.isEmpty && digits.all Char.isDigit

/-- The names of what is no finite number. -/
def infinities : List String := ["inf", "infinity", "nan"]

/-- Whether a text is a number, perhaps with a sign. -/
def isNumber (text : List Char) : Bool :=
  let size := unsigned text
  isDecimal size || infinities.contains (String.ofList (size.map Char.toLower))

/-- Whether a text is a field: a name, perhaps with a value after an equals sign.  What
follows a second equals sign is not looked at. -/
def isField (text : List Char) : Bool :=
  match splitOn ['='] (by decide) text with
  | _ :: value :: _ => isNumber value || Expression.isUsable value
  | _ => !text.isEmpty

/-- The text after this many bytes. -/
def dropBytes (count : Nat) : List Char → List Char
  | [] => []
  | c :: rest => if count = 0 then c :: rest else dropBytes (count - c.utf8Size) rest

/-- The characters that fit into this many bytes. -/
def takeBytes (count : Nat) : List Char → List Char
  | [] => []
  | c :: rest => if count < c.utf8Size then [] else c :: takeBytes (count - c.utf8Size) rest

/-- A place inside a directive; the numbers count the bytes read when it was entered. -/
inductive Place where
  | start
  | levelOrTarget
  | level (entered : Nat)
  | span
  | field (entered : Nat)
  | afterField
  | afterSpan
  deriving DecidableEq, Repr

/-- The characters that a target may start with. -/
def startsTarget (c : Char) : Bool := c == '-' || c == ':' || c == '_' || isAlphanumeric c

namespace Place

/-- Where a character of a piece leads, after `read` bytes. -/
def next? (piece : List Char) (place : Place) (read : Nat) (c : Char) : Option Place :=
  match place with
  | .start => if c = '[' then some .span else if startsTarget c then some .levelOrTarget else none
  | .levelOrTarget =>
      if c = '=' then some (.level (read + 1)) else if c = '[' then some .span
      else some .levelOrTarget
  | .level entered => some (.level entered)
  | .span =>
      if c = ']' then some .afterSpan else if c = '\x7b' then some (.field (read + 1))
      else some .span
  | .field entered =>
      if c = '\x7d' then
        if isField (takeBytes (read - entered) (dropBytes entered piece)) then some .afterField
        else none
      else some (.field entered)
  | .afterField => if c = ']' then some .afterSpan else none
  | .afterSpan => if c = '=' then some (.level (read + 1)) else none

/-- The place after all characters. -/
def after? (piece : List Char) (place : Place) (read : Nat) : List Char → Option Place
  | [] => some place
  | c :: rest =>
      (place.next? piece read c).bind fun place => place.after? piece (read + c.utf8Size) rest

end Place

/-- Whether a piece between commas is a directive. -/
def isDirective (piece : List Char) : Bool :=
  match Place.start.after? piece 0 (trim piece) with
  | some .levelOrTarget => true
  | some .afterSpan => true
  | some (.level entered) => isLevel (dropBytes entered piece)
  | _ => false

/-- Whether a text is a filter. -/
def isFilter (text : String) : Bool :=
  ((splitOn [','] (by decide) text.toList).filter (!·.isEmpty)).all isDirective

/-- The filter that counts: the environment's, if it is one, or the trimmed setting. -/
def chosen? (fromEnvironment : Option String) (setting : String) : Except String String :=
  let setting := String.ofList (trim setting.toList)
  match fromEnvironment with
  | some given =>
      if isFilter given then .ok given
      else if isFilter setting then .ok setting else .error setting
  | none => if isFilter setting then .ok setting else .error setting

end Screening.LogFilter

namespace Screening

/-- Why logging could not be set up. -/
inductive LoggingError where
  | filter (directive : String)
  | alreadyInstalled (cause : String)
  deriving DecidableEq, Repr

namespace LoggingError

def message : LoggingError → String
  | .filter directive => "log filter '" ++ directive ++ "' could not be parsed"
  | .alreadyInstalled cause => "tracing subscriber already installed: " ++ cause

/-- The cause given where logging has been set up before. -/
def alreadySet : String := "a global default trace dispatcher has already been set"

end LoggingError

/-- Sets logging up where that may have been done before. -/
def setUpLogging (done : Bool) (fromEnvironment : Option String) (setting : String) :
    Except LoggingError String :=
  match LogFilter.chosen? fromEnvironment setting with
  | .error directive => .error (.filter directive)
  | .ok filter => if done then .error (.alreadyInstalled LoggingError.alreadySet) else .ok filter

end Screening
