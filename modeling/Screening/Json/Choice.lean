/-
# Screening.Json.Choice -- names out of a fixed set, and values of several kinds

A choice is written as a name.  It is taken from a text, or from an object whose one
member has the name and the value null.  A value of several kinds has no name: it is
read whole, and then the first kind that it fits decides.
-/
import Screening.Json.Codec

namespace Screening.Json

set_option autoImplicit false

/-- A choice has no value but null. -/
def noContent : Outline → Except Fault Unit
  | .null => .ok ()
  | other => .error (other.instead "unit")

namespace Choice

variable {α : Type}

/-- The choice that an object in a text makes: its first name, with the value null, and
no further member.  An object without a name is malformed, however it ends, unless the
text is cut off there. -/
def ofMembers (ofName : String → Except Mismatch α) :
    List (Option String × Outline) → ObjectEnd → Except Fault α
  | [], ending => .error (.flaw (ending.readFlaw?.getD .malformed))
  | (none, _) :: _, _ => .error .malformed
  | (some name, value) :: others, ending => do
      let chosen ← (ofName name).mapError .mismatch
      noContent value
      match others, ending with
      | [], .closed => return chosen
      | [], .noMark flaw => throw (.flaw flaw)
      | _, _ => throw .malformed

/-- The choice that an object read before makes. -/
def ofSingle (ofName : String → Except Mismatch α) :
    List (Option String × Outline) → Except Fault α
  | [(some name, value)] => do
      let chosen ← (ofName name).mapError .mismatch
      noContent value
      return chosen
  | _ => .error (.mismatch (.unfitValue .map "map with a single key"))

/-- In a text, only a text or an object is looked at; all else is malformed there. -/
def decode (ofName : String → Except Mismatch α) : Decoder α
  | _, .text name => (ofName name).mapError .mismatch
  | .text, .object members ending => ofMembers ofName members ending
  | .text, .broken place => .error (.flaw place.choose)
  | .text, _ => .error .malformed
  | _, .object members _ => ofSingle ofName members
  | _, other => .error (other.instead "string or map")

def codec (label : α → String) (ofName : String → Except Mismatch α) : Codec α where
  encode a := .text (label a)
  decode := decode ofName

theorem codec_sound {label : α → String} {ofName : String → Except Mismatch α}
    (known : ∀ a, ofName (label a) = .ok a) : (codec label ofName).Sound := fun origin a => by
  have read : (ofName (label a)).mapError Fault.mismatch = .ok a := by rw [known]; rfl
  cases origin <;> simp [codec, decode, Outline.ofJson, read]

end Choice

/-- A value of several kinds: it is read whole before its kind is looked for. -/
def anyOfKinds {α : Type} (kind : String) (fits : Outline → Option α) : Decoder α :=
  fun _ outline => do
    noFlaw outline.readFlaw?
    match fits outline with
    | some a => return a
    | none => throw (.mismatch (.noVariant kind))

end Screening.Json
