/-
# Screening.Http.Message -- requests and responses on the wire

A request is a line with its method and target, header lines up to an empty one, and
as many bytes of body as a header says.  A response always says how long its body is.
-/
import Screening.Http
import Screening.Json.Printer
import Screening.Text.Blank

namespace Screening.Http

open Text

set_option autoImplicit false

/-- The name of a header in small letters, and its value. -/
def header? (line : String) : Option (String × String) :=
  (cut? [':'] line.toList).map fun (name, value) =>
    (String.ofList (name.map Char.toLower), String.ofList (trim value))

/-- The value of the first header with this name. -/
def headerValue? (lines : List String) (name : String) : Option String :=
  ((lines.filterMap header?).find? (·.1 = name)).map (·.2)

/-- How many bytes of body follow the header lines. -/
def bodyLength (headers : List String) : Nat :=
  match headerValue? headers "content-length" with
  | some length => if length.toList.all Char.isDigit then value length.toList else 0
  | none => 0

/-- The request that a first line, header lines and a body make. -/
def request? (first : String) (headers : List String) (body : String) : Option Request :=
  match splitOn [' '] (by decide) (trim first.toList) with
  | method :: target :: _ =>
      some {
        method := String.ofList method
        target := String.ofList target
        contentType := headerValue? headers "content-type"
        body }
  | _ => none

namespace Response

def bodyText (response : Response) : String :=
  match response.body with
  | none => ""
  | some (.json value) => value.compact
  | some (.text value) => value

/-- The response as it is sent. -/
def written (response : Response) : String :=
  let body := response.bodyText
  let contentType := (response.contentType.toList.map fun type => "content-type: " ++ type ++ "\r\n")
  "HTTP/1.1 " ++ natText response.status ++ "\r\n" ++ String.join contentType
    ++ "content-length: " ++ natText body.utf8ByteSize ++ "\r\n\r\n" ++ body

end Response

end Screening.Http
