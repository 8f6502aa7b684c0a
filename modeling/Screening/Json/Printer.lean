/-
# Screening.Json.Printer -- JSON values as text

A value is written on one line, or with one item or member to a line and two spaces
for each level.  In a text only quotes, backslashes and control characters are
escaped.
-/
import Screening.Json.Value
import Screening.Binary64.Shortest

namespace Screening.Json

set_option autoImplicit false

def escapedChar (c : Char) : List Char :=
  if c = '"' then ['\\', '"']
  else if c = '\\' then ['\\', '\\']
  else if c = '\n' then ['\\', 'n']
  else if c = '\r' then ['\\', 'r']
  else if c = '\t' then ['\\', 't']
  else if c = '\x08' then ['\\', 'b']
  else if c = '\x0c' then ['\\', 'f']
  else if c.toNat < 0x20 then
    ['\\', 'u', '0', '0', Nat.digitChar (c.toNat / 16), Nat.digitChar (c.toNat % 16)]
  else [c]

def quoted (value : String) : String :=
  String.ofList ('"' :: value.toList.flatMap escapedChar ++ ['"'])

def Number.written : Number → String
  | .integer n => Text.intText n
  | .real x => x.text

mutual

/-- The value on one line. -/
def compact : Json → String
  | .null => "null"
  | .bool true => "true"
  | .bool false => "false"
  | .number value => value.written
  | .text value => quoted value
  | .array items => "[" ++ ",".intercalate (compactItems items) ++ "]"
  | .object members => "\x7b" ++ ",".intercalate (compactMembers members) ++ "\x7d"

def compactItems : List Json → List String
  | [] => []
  | item :: items => compact item :: compactItems items

def compactMembers : List (String × Json) → List String
  | [] => []
  | (name, value) :: members => (quoted name ++ ":" ++ compact value) :: compactMembers members

end

/-- Lines within brackets, one level deeper than the line the brackets stand on. -/
def bracketed (opening closing : String) (level : Nat) (lines : List String) : String :=
  if lines.isEmpty then opening ++ closing
  else
    let indent := fun level => "\n" ++ "".pushn ' ' (2 * level)
    opening ++ indent (level + 1) ++ ("," ++ indent (level + 1)).intercalate lines
      ++ indent level ++ closing

mutual

/-- The value with one item or member to a line. -/
def pretty (level : Nat) : Json → String
  | .array items => bracketed "[" "]" level (prettyItems (level + 1) items)
  | .object members => bracketed "\x7b" "\x7d" level (prettyMembers (level + 1) members)
  | scalar => compact scalar

def prettyItems (level : Nat) : List Json → List String
  | [] => []
  | item :: items => pretty level item :: prettyItems level items

def prettyMembers (level : Nat) : List (String × Json) → List String
  | [] => []
  | (name, value) :: members =>
      (quoted name ++ ": " ++ pretty level value) :: prettyMembers level members

end

end Screening.Json
