/-
# Screening.Http.MediaType -- whether a body is said to be JSON

A media type is a type and a subtype, each a run of token characters, and parameters
after a semicolon.  It says JSON if the type is `application` and the subtype is
`json`, or has the suffix `+json`; letter case does not matter.  The parameters only
have to be well formed: a name, an equals sign, and a run of token characters or a
text in double quotes.
-/
import Screening.Text.Search

namespace Screening.Http

set_option autoImplicit false

/-- The characters of a token. -/
def isTokenChar (c : Char) : Bool := c.isAlphanum || "!#$%&'*+-.^_|~".toList.contains c || c == '\x60'

/-- The characters of a header that can be read as text. -/
def isHeaderChar (c : Char) : Bool := (0x20 ≤ c.toNat && c.toNat < 0x7F) || c == '\t'

/-- A place among the parameters. -/
inductive ParameterPlace where
  | between
  | name
  | equals
  | bare
  | opened
  | quoted
  | closed
  deriving DecidableEq, Repr

namespace ParameterPlace

/-- Where the next character leads.  Spaces may stand before a name and after a closing
quote; a quote right after the opening one belongs to the text. -/
def next? (place : ParameterPlace) (c : Char) : Option ParameterPlace :=
  match place with
  | .between => if c = ' ' then some .between else if isTokenChar c then some .name else none
  | .name => if c = '=' then some .equals else if isTokenChar c then some .name else none
  | .equals => if c = '"' then some .opened else if isTokenChar c then some .bare else none
  | .bare => if c = ';' then some .between else if isTokenChar c then some .bare else none
  | .opened => if 0x20 ≤ c.toNat then some .quoted else none
  | .quoted => if c = '"' then some .closed else if 0x20 ≤ c.toNat then some .quoted else none
  | .closed => if c = ';' then some .between else if c = ' ' then some .closed else none

/-- Whether the parameters may end here. -/
def mayEnd : ParameterPlace → Bool
  | .between | .equals | .bare | .closed => true
  | .name | .opened | .quoted => false

end ParameterPlace

/-- Whether what follows the semicolon is well formed. -/
def areParameters (text : List Char) : Bool :=
  match text.foldlM ParameterPlace.next? .between with
  | none => false
  | some place => place.mayEnd

/-- The subtype and its suffix: what stands before and after the last plus, of which
one at the start is no mark. -/
def subtypeParts (subtype : List Char) : List Char × Option (List Char) :=
  let suffix := (subtype.reverse.takeWhile (· ≠ '+')).reverse
  let front := subtype.take (subtype.length - suffix.length - 1)
  if front.isEmpty then (subtype, none) else (front, some suffix)

/-- Whether a Content-Type says that the body is JSON. -/
def saysJson (contentType : String) : Bool :=
  let text := contentType.toList
  let mainType := text.takeWhile isTokenChar
  match text.dropWhile isTokenChar with
  | '/' :: rest =>
      let subtype := rest.takeWhile isTokenChar
      let (name, suffix) := subtypeParts (subtype.map Char.toLower)
      let isJson := mainType.map Char.toLower = "application".toList ∧
        (name = "json".toList ∨ suffix = some "json".toList)
      match rest.dropWhile isTokenChar with
      | [] => isJson
      | ';' :: parameters =>
          isJson && text.all isHeaderChar && areParameters parameters
      | _ => false
  | _ => false

end Screening.Http
