/-
# Screening.Text.Escaped -- a text between double quotes

An error message shows a text between double quotes.  Quotes and backslashes get a
backslash before them, the usual control characters have letters, and any other
character that is not printed as itself is shown by its number.
-/
import Screening.Text.Printable

namespace Screening.Text

set_option autoImplicit false

def escapedChar (c : Char) : List Char :=
  if c = '"' then ['\\', '"']
  else if c = '\\' then ['\\', '\\']
  else if c = '\n' then ['\\', 'n']
  else if c = '\r' then ['\\', 'r']
  else if c = '\t' then ['\\', 't']
  else if c.toNat = 0 then ['\\', '0']
  else if isPrintable c then [c]
  else ['\\', 'u', '\x7b'] ++ Nat.toDigits 16 c.toNat ++ ['\x7d']

def escaped (text : String) : String :=
  String.ofList ('"' :: text.toList.flatMap escapedChar ++ ['"'])

end Screening.Text
