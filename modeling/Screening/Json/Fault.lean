/-
# Screening.Json.Fault -- why a JSON text or value cannot be taken

A text can be flawed: it ends too early, or it is malformed.  A text or value that
is sound can still not be what is wanted; the causes are those of `Mismatch`, and
`Mismatch.message` words them.
-/
import Screening.Json.Value
import Screening.Binary64.Shortest
import Screening.Text.Escaped

namespace Screening.Json

set_option autoImplicit false

/-- A flaw of the text itself. -/
inductive Flaw where
  | cutOff
  | malformed
  deriving DecidableEq, Repr, Inhabited

/-- What was found where something else was wanted. -/
inductive Found where
  | null
  | bool (value : Bool)
  | number (value : Number)
  | text (value : String)
  | sequence
  | map
  deriving DecidableEq, Repr, Inhabited

inductive Mismatch where
  | wrongType (found : Found) (wanted : String)
  | unfitValue (found : Found) (wanted : String)
  | wrongLength (length : Nat) (wanted : String)
  | missingField (name : String)
  | duplicateField (name : String)
  | unknownVariant (name : String) (known : List String)
  | noVariant (kind : String)
  deriving DecidableEq, Repr, Inhabited

inductive Fault where
  | flaw (flaw : Flaw)
  | mismatch (cause : Mismatch)
  deriving DecidableEq, Repr, Inhabited

namespace Found

def display : Found → String
  | .null => "null"
  | .bool true => "boolean `true`"
  | .bool false => "boolean `false`"
  | .number (.integer n) => "integer `" ++ Text.intText n ++ "`"
  | .number (.real x) => "floating point `" ++ x.text ++ "`"
  | .text value => "string " ++ Text.escaped value
  | .sequence => "sequence"
  | .map => "map"

end Found

namespace Mismatch

def message : Mismatch → String
  | .wrongType found wanted => "invalid type: " ++ found.display ++ ", expected " ++ wanted
  | .unfitValue found wanted => "invalid value: " ++ found.display ++ ", expected " ++ wanted
  | .wrongLength length wanted =>
      "invalid length " ++ Text.natText length ++ ", expected " ++ wanted
  | .missingField name => "missing field `" ++ name ++ "`"
  | .duplicateField name => "duplicate field `" ++ name ++ "`"
  | .unknownVariant name known =>
      "unknown variant `" ++ name ++ "`, expected one of "
        ++ ", ".intercalate (known.map fun variant => "`" ++ variant ++ "`")
  | .noVariant kind => "data did not match any variant of untagged enum " ++ kind

end Mismatch

namespace Fault

def malformed : Fault := .flaw .malformed

def message : Fault → String
  | .flaw .cutOff => "the text ends inside a value"
  | .flaw .malformed => "the text is malformed"
  | .mismatch cause => cause.message

/-- The kind of fault, as an answer names it. -/
def category : Fault → String
  | .flaw .cutOff => "eof"
  | .flaw .malformed => "syntax"
  | .mismatch _ => "data"

end Fault

end Screening.Json
