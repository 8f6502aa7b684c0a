/-
# Screening.Json.Reading -- taking a value from a text or from a JSON value

A whole text holds one value with nothing but blanks around it.  What follows the
value is looked at last, after the value has been taken.
-/
import Screening.Json.Codec

namespace Screening.Json

set_option autoImplicit false

/-- The value that a text starts with, whatever follows it. -/
def decodeFront {α : Type} (decode : Decoder α) (text : String) : Except Fault α :=
  decode .text (Outline.ofText text).1

/-- The value that is the whole text. -/
def decodeText {α : Type} (decode : Decoder α) (text : String) : Except Fault α := do
  let (outline, rest) := Outline.ofText text
  let value ← decode .text outline
  if rest.isEmpty then return value else throw .malformed

def decodeJson {α : Type} (decode : Decoder α) (value : Json) : Except Fault α :=
  decode .value (.ofJson value)

/-- Any JSON value; the members of its objects are listed by name. -/
def any : Decoder Json := fun _ outline => do
  noFlaw outline.readFlaw?
  return outline.toJson

theorem decodeJson_encode {α : Type} {codec : Codec α} (sound : codec.Sound) (a : α) :
    decodeJson codec.decode (codec.encode a) = .ok a :=
  sound .value a

end Screening.Json
