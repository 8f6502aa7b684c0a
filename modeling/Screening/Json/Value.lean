/-
# Screening.Json.Value -- JSON values

A number is a whole number that fits 64 bits (with a sign or without one), or a
finite binary64 number.  An object keeps its members in the order in which they are
written.
-/
import Screening.Binary64

namespace Screening

set_option autoImplicit false

namespace Json

inductive Number where
  | integer (n : Int)
  | real (x : Binary64)
  deriving DecidableEq, Repr, Inhabited

end Json

inductive Json where
  | null
  | bool (value : Bool)
  | number (value : Json.Number)
  | text (value : String)
  | array (items : List Json)
  | object (members : List (String × Json))
  deriving Repr, Inhabited

namespace Json

def ofNat (n : Nat) : Json := .number (.integer n)

def real (x : Binary64) : Json := .number (.real x)

def texts (values : List String) : Json := .array (values.map .text)

/-- The member with this name, if the value is an object that has one. -/
def member? (value : Json) (name : String) : Option Json :=
  match value with
  | .object members => (members.find? (·.1 = name)).map (·.2)
  | _ => none

end Json

end Screening
