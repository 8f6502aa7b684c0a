/-
# Screening.Http.Percent -- percent-encoded path segments

In a path a percent sign and two hexadecimal digits stand for a byte; a percent sign
without them stands for itself, and so does a plus.  The bytes have to be UTF-8.
-/
import Screening.Text.Numeral

namespace Screening.Http

open Text

set_option autoImplicit false

/-- The byte that two characters encode, if they are hexadecimal digits. -/
def byte? (high low : Char) : Option UInt8 := do
  let high ← hexValue? high
  let low ← hexValue? low
  return UInt8.ofNat (high * 16 + low)

/-- The bytes that a segment stands for. -/
def bytes : List Char → List UInt8
  | '%' :: high :: low :: rest =>
      match byte? high low with
      | some byte => byte :: bytes rest
      | none => String.utf8EncodeChar '%' ++ bytes (high :: low :: rest)
  | c :: rest => String.utf8EncodeChar c ++ bytes rest
  | [] => []

/-- The text that a segment stands for, if its bytes are UTF-8. -/
def decode? (segment : String) : Option String :=
  String.fromUTF8? (ByteArray.mk (bytes segment.toList).toArray)

end Screening.Http
