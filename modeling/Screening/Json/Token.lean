/-
# Screening.Json.Token -- reading the tokens of a JSON text

Blanks between tokens are spaces, tabs and line ends, and no others.  The tokens
end where the text breaks; what stands after that place is never looked at.

* `next_length_le`: every token takes at least its first character.
-/
import Screening.Json.Token.Number
import Screening.Json.Token.Text

namespace Screening.Json

set_option autoImplicit false

def isSeparator (c : Char) : Bool := c == ' ' || c == '\n' || c == '\t' || c == '\r'

/-- What follows a word, of which these letters are still due. -/
def afterLetters? : List Char → List Char → Except Flaw (List Char)
  | [], chars => .ok chars
  | _ :: _, [] => .error .cutOff
  | letter :: letters, c :: chars =>
      if letter = c then afterLetters? letters chars else .error .malformed

def wordToken (letters : List Char) (token : Token) (text : List Char) : Token × List Char :=
  match afterLetters? letters text with
  | .ok rest => (token, rest)
  | .error flaw => (.brokenWord flaw, [])

/-- The token that starts with `c`. -/
def next (c : Char) (text : List Char) : Token × List Char :=
  if c = '"' then textToken (some []) text
  else if c = '[' then (.openArray, text)
  else if c = ']' then (.closeArray, text)
  else if c = '\x7b' then (.openObject, text)
  else if c = '\x7d' then (.closeObject, text)
  else if c = ',' then (.comma, text)
  else if c = ':' then (.colon, text)
  else if c = '-' ∨ c.isDigit then numberToken (c :: text)
  else if c = 'n' then wordToken "ull".toList .null text
  else if c = 't' then wordToken "rue".toList (.bool true) text
  else if c = 'f' then wordToken "alse".toList (.bool false) text
  else (.stray, [])

theorem afterLetters_length_le {letters text rest : List Char}
    (found : afterLetters? letters text = .ok rest) : rest.length ≤ text.length := by
  fun_induction afterLetters? letters text with
  | case1 => cases found; exact Nat.le_refl _
  | case2 => cases found
  | case3 _ _ _ ih => exact Nat.le_succ_of_le (ih found)
  | case4 => cases found

theorem wordToken_length_le (letters : List Char) (token : Token) (text : List Char) :
    (wordToken letters token text).2.length ≤ text.length := by
  unfold wordToken
  split
  · next found => exact afterLetters_length_le found
  · exact Nat.zero_le _

theorem ite_length_le {condition : Prop} [Decidable condition] {found other : Token × List Char}
    {bound : Nat} (first : found.2.length ≤ bound) (second : other.2.length ≤ bound) :
    (if condition then found else other).2.length ≤ bound := by
  split
  · exact first
  · exact second

/-- Every token takes at least its first character. -/
theorem next_length_le (c : Char) (text : List Char) : (next c text).2.length ≤ text.length := by
  have mark (token : Token) : (token, text).2.length ≤ text.length := Nat.le_refl _
  have stray : (Token.stray, ([] : List Char)).2.length ≤ text.length := Nat.zero_le _
  exact
    ite_length_le (textToken_length_le _ _) <| ite_length_le (mark _) <| ite_length_le (mark _) <|
    ite_length_le (mark _) <| ite_length_le (mark _) <| ite_length_le (mark _) <|
    ite_length_le (mark _) <| ite_length_le (numberToken_length_le _ _) <|
    ite_length_le (wordToken_length_le _ _ _) <| ite_length_le (wordToken_length_le _ _ _) <|
    ite_length_le (wordToken_length_le _ _ _) stray

/-- The tokens of a text, up to the place where it breaks. -/
def tokens (chars : List Char) : List Token :=
  match _front : chars.dropWhile isSeparator with
  | [] => []
  | c :: rest =>
      let found := next c rest
      found.1 :: tokens found.2
termination_by chars.length
decreasing_by
  have whole := dropWhile_length_le isSeparator chars
  rw [_front, List.length_cons] at whole
  exact Nat.lt_of_le_of_lt (next_length_le c rest) whole

end Screening.Json
