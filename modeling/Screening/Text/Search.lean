/-
# Screening.Text.Search -- looking for a literal or a pattern in a text

The rule languages of a questionnaire are recognised by searching: a literal or a
pattern counts wherever in the text it stands, and of several places the leftmost
one decides.

* `after?_eq_some_iff`: a text starts with a literal exactly when it is the literal
  followed by what `after?` returns;
* `cut?_eq_some`: the first occurrence of a separator splits the text without loss;
* `firstMatch?_eq_some_iff`: the match taken is one with the fewest characters
  before it.
-/
namespace Screening.Text

set_option autoImplicit false

/-- What follows `literal` in a text that starts with it. -/
def after? : List Char → List Char → Option (List Char)
  | [], text => some text
  | _ :: _, [] => none
  | l :: literal, c :: text => if l = c then after? literal text else none

/-- The text before and after the first occurrence of `separator`. -/
def cut? (separator : List Char) : List Char → Option (List Char × List Char)
  | [] => (after? separator []).map fun tail => ([], tail)
  | c :: rest =>
      match after? separator (c :: rest) with
      | some tail => some ([], tail)
      | none => (cut? separator rest).map fun (before, tail) => (c :: before, tail)

/-- Whether `literal` stands anywhere in the text. -/
def contains (literal text : List Char) : Bool := (cut? literal text).isSome

/-- The leftmost place at which `attempt` accepts the rest of the text decides. -/
def firstMatch? {α : Type} (attempt : List Char → Option α) : List Char → Option α
  | [] => attempt []
  | c :: rest =>
      match attempt (c :: rest) with
      | some found => some found
      | none => firstMatch? attempt rest

theorem after?_eq_some_iff {literal text tail : List Char} :
    after? literal text = some tail ↔ text = literal ++ tail := by
  fun_induction after? literal text with
  | case1 text => simp [eq_comm]
  | case2 l literal => simp
  | case3 literal c text ih => simp [ih]
  | case4 l literal c text different => simp [Ne.symm different]

@[simp] theorem after?_append (literal tail : List Char) :
    after? literal (literal ++ tail) = some tail :=
  after?_eq_some_iff.2 rfl

/-- The first occurrence of a separator splits the text without loss. -/
theorem cut?_eq_some {separator text before tail : List Char}
    (found : cut? separator text = some (before, tail)) :
    text = before ++ separator ++ tail := by
  fun_induction cut? separator text generalizing before tail with
  | case1 =>
      obtain ⟨rest, here, same⟩ := Option.map_eq_some_iff.1 found
      cases same
      simpa using after?_eq_some_iff.1 here
  | case2 c rest tail' here =>
      cases found
      simpa using after?_eq_some_iff.1 here
  | case3 c rest _ ih =>
      obtain ⟨⟨b, t⟩, later, same⟩ := Option.map_eq_some_iff.1 found
      cases same
      simp [ih later]

/-- What follows a separator is shorter than the text it was found in. -/
theorem length_lt_of_cut? {separator text before tail : List Char} (nonempty : separator ≠ [])
    (found : cut? separator text = some (before, tail)) : tail.length < text.length := by
  have := List.length_pos_iff.2 nonempty
  rw [cut?_eq_some found]
  simp only [List.length_append]
  omega

/-- The pieces between the occurrences of `separator`, taken from left to right. -/
def splitOn (separator : List Char) (nonempty : separator ≠ []) (text : List Char) :
    List (List Char) :=
  match _found : cut? separator text with
  | none => [text]
  | some (before, tail) => before :: splitOn separator nonempty tail
termination_by text.length
decreasing_by exact length_lt_of_cut? nonempty ‹_›

theorem length_le_of_mem_splitOn {separator text piece : List Char} {nonempty : separator ≠ []}
    (member : piece ∈ splitOn separator nonempty text) : piece.length ≤ text.length := by
  fun_induction splitOn separator nonempty text with
  | case1 => simp_all
  | case2 text before tail found ih =>
      rw [cut?_eq_some found]
      rcases List.mem_cons.1 member with rfl | later
      · simp only [List.length_append]; omega
      · have := ih later
        simp only [List.length_append]
        omega

/-- Where a separator occurs, every piece is shorter than the whole text. -/
theorem length_lt_of_mem_splitOn {separator text piece : List Char} {nonempty : separator ≠ []}
    (occurs : contains separator text) (member : piece ∈ splitOn separator nonempty text) :
    piece.length < text.length := by
  have size := List.length_pos_iff.2 nonempty
  obtain ⟨⟨before, tail⟩, found⟩ := Option.isSome_iff_exists.1 occurs
  rw [splitOn, found] at member
  rw [cut?_eq_some found]
  rcases List.mem_cons.1 member with rfl | later
  · simp only [List.length_append]; omega
  · have := length_le_of_mem_splitOn later
    simp only [List.length_append]
    omega

/-- The match taken is one with the fewest characters before it. -/
theorem firstMatch?_eq_some_iff {α : Type} {attempt : List Char → Option α} {text : List Char}
    {found : α} :
    firstMatch? attempt text = some found ↔
      ∃ before tail, text = before ++ tail ∧ attempt tail = some found ∧
        ∀ before' tail', text = before' ++ tail' → before'.length < before.length →
          attempt tail' = none := by
  fun_induction firstMatch? attempt text with
  | case1 =>
      constructor
      · intro h
        exact ⟨[], [], rfl, h, by simp⟩
      · rintro ⟨before, tail, whole, h, -⟩
        obtain ⟨rfl, rfl⟩ := List.append_eq_nil_iff.1 whole.symm
        exact h
  | case2 c rest here accepted =>
      constructor
      · intro h
        exact ⟨[], c :: rest, rfl, accepted.trans h, by simp⟩
      · rintro ⟨before, tail, whole, h, least⟩
        cases before with
        | nil =>
            rw [List.nil_append] at whole
            rw [← whole, accepted] at h
            exact h
        | cons b before =>
            have := least [] (c :: rest) rfl (by simp)
            simp [accepted] at this
  | case3 c rest refused ih =>
      rw [ih]
      constructor
      · rintro ⟨before, tail, rfl, h, least⟩
        refine ⟨c :: before, tail, rfl, h, ?_⟩
        intro before' tail' whole shorter
        cases before' with
        | nil => rw [List.nil_append] at whole; rw [← whole]; exact refused
        | cons b before' =>
            obtain ⟨-, whole⟩ := List.cons_eq_cons.1 whole
            exact least before' tail' whole (by simpa using shorter)
      · rintro ⟨before, tail, whole, h, least⟩
        cases before with
        | nil =>
            rw [List.nil_append] at whole
            rw [← whole, refused] at h
            cases h
        | cons b before =>
            obtain ⟨rfl, rfl⟩ := List.cons_eq_cons.1 whole
            refine ⟨before, tail, rfl, h, fun before' tail' whole' shorter => ?_⟩
            exact least (c :: before') tail' (by rw [whole', List.cons_append]) (by simpa using shorter)

end Screening.Text
