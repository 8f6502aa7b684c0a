/-
# Screening.Json.Token.Basic -- the tokens of a JSON text

A token is a mark, a whole scalar, or the place where the text breaks.  Two scalars
are sound to skip but cannot be read: a number beyond the range, and a text with
half of a surrogate pair.
-/
import Screening.Json.Fault

namespace Screening.Json

set_option autoImplicit false

inductive Token where
  | openArray
  | closeArray
  | openObject
  | closeObject
  | comma
  | colon
  | null
  | bool (value : Bool)
  | number (value : Number)
  | text (value : String)
  | wideNumber
  | loneText
  /-- A text that goes wrong; half of a surrogate pair may have spoilt the reading before. -/
  | brokenText (read skip : Flaw)
  | brokenWord (flaw : Flaw)
  | brokenNumber (flaw : Flaw)
  /-- A character that starts no token. -/
  | stray
  deriving DecidableEq, Repr, Inhabited

end Screening.Json
