/-
# Screening.Text.Numeral -- whole numbers in decimal

Counts, cents and session numbers are written in decimal without superfluous
zeros, or padded with zeros to a width.

* `value_digits`, `value_padded`: what is written reads back;
* `padded_injective`: different numbers are written differently;
* `head?_digits_ne_zero`: only zero starts with a zero.
-/
namespace Screening.Text

set_option autoImplicit false

/-- The character of a digit below ten. -/
def digit (n : Nat) : Char := Char.ofNat (48 + n % 10)

/-- The number that a character stands for, if it is a decimal digit. -/
def digitValue (c : Char) : Nat := c.toNat - 48

/-- The decimal digits of a number. -/
def digits (n : Nat) : List Char :=
  if n < 10 then [digit n] else digits (n / 10) ++ [digit n]

/-- The decimal digits of a number, with zeros before them up to a width. -/
def padded (width n : Nat) : List Char :=
  List.replicate (width - (digits n).length) '0' ++ digits n

/-- The number that decimal digits stand for. -/
def value (text : List Char) : Nat := text.foldl (fun n c => n * 10 + digitValue c) 0

def natText (n : Nat) : String := String.ofList (digits n)

def intText (n : Int) : String :=
  if n < 0 then "-" ++ natText n.natAbs else natText n.natAbs

/-- The number that a hexadecimal digit of either case stands for. -/
def hexValue? (c : Char) : Option Nat :=
  if c.isDigit then some (c.toNat - 48)
  else if 'a' ≤ c ∧ c ≤ 'f' then some (c.toNat - 87)
  else if 'A' ≤ c ∧ c ≤ 'F' then some (c.toNat - 55)
  else none

theorem toNat_digit (n : Nat) : (digit n).toNat = 48 + n % 10 := by
  have : n % 10 < 10 := Nat.mod_lt n (by decide)
  have valid : (48 + n % 10).isValidChar := Or.inl (by omega)
  rw [digit, Char.ofNat, dif_pos valid]
  rfl

@[simp] theorem digitValue_digit (n : Nat) : digitValue (digit n) = n % 10 := by
  simp [digitValue, toNat_digit]

theorem value_append (front tail : List Char) :
    value (front ++ tail) = value front * Nat.pow 10 tail.length + value tail := by
  have shift : ∀ (text : List Char) (n : Nat),
      text.foldl (fun n c => n * 10 + digitValue c) n =
        n * Nat.pow 10 text.length + value text := by
    intro text
    induction text with
    | nil => intro n; simp [value]
    | cons c text ih =>
        intro n
        have next : Nat.pow 10 (text.length + 1) = Nat.pow 10 text.length * 10 := rfl
        simp only [value, List.foldl_cons, List.length_cons]
        rw [ih, ih (0 * 10 + digitValue c), next]
        grind
  rw [value, List.foldl_append]
  exact shift tail (value front)

/-- What is written reads back. -/
@[simp] theorem value_digits (n : Nat) : value (digits n) = n := by
  fun_induction digits n with
  | case1 n small => simp [value, Nat.mod_eq_of_lt small]
  | case2 n large ih =>
      have last : value [digit n] = n % 10 := by simp [value]
      have ten : Nat.pow 10 1 = 10 := rfl
      rw [value_append, ih, last, List.length_singleton, ten]
      omega

@[simp] theorem value_padded (width n : Nat) : value (padded width n) = n := by
  have zeros : ∀ k : Nat, value (List.replicate k '0') = 0 := by
    intro k
    induction k with
    | zero => rfl
    | succ k ih =>
        rw [List.replicate_succ', value_append, ih]
        decide
  rw [padded, value_append, zeros]
  simp

/-- Different numbers are written differently, also above the width. -/
theorem padded_injective {width m n : Nat} (same : padded width m = padded width n) : m = n := by
  simpa using congrArg value same

theorem digits_ne_nil (n : Nat) : digits n ≠ [] := by
  unfold digits
  split <;> simp

theorem isDigit_of_mem_digits {n : Nat} {c : Char} (member : c ∈ digits n) : c.isDigit := by
  have isDigit : ∀ k : Nat, (digit k).isDigit := by
    intro k
    have : k % 10 < 10 := Nat.mod_lt k (by decide)
    have code : (digit k).val.toNat = 48 + k % 10 := toNat_digit k
    have low : (48 : UInt32) ≤ (digit k).val := by
      rw [UInt32.le_iff_toNat_le, code]
      exact Nat.le_add_right 48 _
    have high : (digit k).val ≤ (57 : UInt32) := by
      rw [UInt32.le_iff_toNat_le, code]
      show 48 + k % 10 ≤ 57
      omega
    simpa [Char.isDigit] using And.intro low high
  fun_induction digits n with
  | case1 n _ => simp_all
  | case2 n _ ih =>
      rcases List.mem_append.1 member with front | last
      · exact ih front
      · simp_all

/-- Only zero starts with a zero. -/
theorem head?_digits_ne_zero {n : Nat} (positive : 0 < n) : (digits n).head? ≠ some '0' := by
  fun_induction digits n with
  | case1 n small =>
      intro first
      have same : digit n = '0' := by simpa using first
      have := toNat_digit n
      rw [same, Nat.mod_eq_of_lt small] at this
      simp at this
      omega
  | case2 n large ih =>
      obtain ⟨c, rest, front⟩ := List.exists_cons_of_ne_nil (digits_ne_nil (n / 10))
      have := ih (by omega)
      rw [front] at this ⊢
      exact this

end Screening.Text
