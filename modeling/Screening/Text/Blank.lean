/-
# Screening.Text.Blank -- white space and trimming

The authors of questionnaires type rules by hand, so a tab, a line break, a
no-break space or an ideographic space may stand wherever a space may.  A blank
is a character with the Unicode property White_Space; `trim` takes the blanks off
both ends of a text.

* `trim_within`: what trimming leaves is a stretch of the text;
* `trimEnd_append_of_not_blank`: trimming takes nothing off an end that is no blank.
-/
namespace Screening.Text

set_option autoImplicit false

/-- The characters with the Unicode property White_Space.  The zero-width space
U+200B is not one of them. -/
def isBlank (c : Char) : Bool :=
  let n := c.toNat
  (0x09 ≤ n && n ≤ 0x0D) || n == 0x20 || n == 0x85 || n == 0xA0 || n == 0x1680
    || (0x2000 ≤ n && n ≤ 0x200A) || n == 0x2028 || n == 0x2029 || n == 0x202F
    || n == 0x205F || n == 0x3000

/-- The text without the blanks at its end. -/
def trimEnd : List Char → List Char
  | [] => []
  | c :: rest =>
      match trimEnd rest with
      | [] => if isBlank c then [] else [c]
      | d :: kept => c :: d :: kept

/-- The text without the blanks at its start. -/
def trimStart (text : List Char) : List Char := text.dropWhile isBlank

/-- The text without the blanks at either end. -/
def trim (text : List Char) : List Char := trimEnd (trimStart text)

theorem trimEnd_starts (text : List Char) : trimEnd text <+: text := by
  induction text with
  | nil => exact List.nil_prefix
  | cons c rest ih =>
      unfold trimEnd
      split
      · split
        · exact List.nil_prefix
        · exact (List.prefix_cons_inj c).2 List.nil_prefix
      · next kept => exact (List.prefix_cons_inj c).2 (kept ▸ ih)

/-- What trimming leaves is a stretch of the text. -/
theorem trim_within (text : List Char) : trim text <:+: text :=
  (trimEnd_starts _).isInfix.trans (List.dropWhile_suffix _).isInfix

theorem trim_length_le (text : List Char) : (trim text).length ≤ text.length :=
  (trim_within text).length_le

/-- A text whose last character is no blank loses nothing at its end. -/
theorem trimEnd_append_of_not_blank (text : List Char) {c : Char} (h : isBlank c = false) :
    trimEnd (text ++ [c]) = text ++ [c] := by
  induction text with
  | nil => simp [trimEnd, h]
  | cons d rest ih =>
      cases rest with
      | nil => simp_all [trimEnd]
      | cons e more =>
          rw [List.cons_append, trimEnd, ih]
          simp

end Screening.Text
