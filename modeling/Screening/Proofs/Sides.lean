/-
# Screening.Proofs.Sides -- what stands between the separators of a text

A compound text is a row of sides with a separator between them.  The separators are cut
out from left to right (`Pieces`): each side ends where the separator occurs first in what
is left, and the last side holds none.  A side is read without the blanks at its ends
(`Trimmed`).

* `contains_iff`: a literal is found exactly where it is a stretch of the text;
* `splitOn_eq_iff`: splitting gives the pieces, and nothing else has their form;
* `Pieces.within_of_mem`, `Pieces.free`: a piece is a stretch of the text without a separator;
* `trim_eq_iff`: trimming leaves the stretch that has no blank at either end.
-/
import Mathlib.Data.List.Infix
import Mathlib.Data.List.TakeWhile
import Screening.Text.Pattern

namespace Screening.Text

set_option autoImplicit false

/-! ## Literals -/

theorem after?_eq_none_iff {literal text : List Char} :
    after? literal text = none ↔ ¬ literal <+: text := by
  rw [Option.eq_none_iff_forall_ne_some]
  constructor
  · rintro refused ⟨tail, rfl⟩
    exact refused tail (after?_append literal tail)
  · intro absent tail accepted
    exact absent ⟨tail, (after?_eq_some_iff.1 accepted).symm⟩

/-- A text without the literal has no cut at it. -/
theorem cut?_eq_none_iff {separator text : List Char} :
    cut? separator text = none ↔ ¬ separator <:+: text := by
  fun_induction cut? separator text with
  | case1 => rw [Option.map_eq_none_iff, after?_eq_none_iff, List.infix_nil, List.prefix_nil]
  | case2 c rest tail here =>
      have start : separator <+: c :: rest := ⟨tail, (after?_eq_some_iff.1 here).symm⟩
      simp [start.isInfix]
  | case3 c rest refused ih =>
      rw [Option.map_eq_none_iff, ih, List.infix_cons_iff]
      simp [after?_eq_none_iff.1 refused]

theorem contains_iff {literal text : List Char} : contains literal text ↔ literal <:+: text := by
  rw [contains, ← not_iff_not, ← cut?_eq_none_iff, Bool.not_eq_true, Option.isSome_eq_false_iff,
    Option.isNone_iff_eq_none]

/-! ## Pieces -/

/-- The place of a separator with the fewest characters before it. -/
structure FirstCut (separator text before tail : List Char) : Prop where
  here : text = before ++ separator ++ tail
  least : ∀ before' tail', text = before' ++ separator ++ tail' → before.length ≤ before'.length

/-- The pieces of a text between the occurrences of a separator, from left to right. -/
inductive Pieces (separator : List Char) : List Char → List (List Char) → Prop where
  | whole {text : List Char} (absent : ¬ separator <:+: text) : Pieces separator text [text]
  | cut {text before tail : List Char} {pieces : List (List Char)}
      (first : FirstCut separator text before tail) (rest : Pieces separator tail pieces) :
      Pieces separator text (before :: pieces)

/-- Two first cuts are the same one. -/
theorem FirstCut.unique {separator text before tail before' tail' : List Char}
    (first : FirstCut separator text before tail) (first' : FirstCut separator text before' tail') :
    before = before' ∧ tail = tail' := by
  have same := first.here.symm.trans first'.here
  have size := Nat.le_antisymm (first.least _ _ first'.here) (first'.least _ _ first.here)
  simp only [List.append_assoc] at same
  obtain ⟨front, back⟩ := List.append_inj same size
  exact ⟨front, List.append_cancel_left back⟩

theorem firstCut_of_cut? {separator text before tail : List Char}
    (found : cut? separator text = some (before, tail)) : FirstCut separator text before tail := by
  refine ⟨cut?_eq_some found, ?_⟩
  fun_induction cut? separator text generalizing before tail with
  | case1 =>
      intro before' tail' whole
      obtain ⟨_, -, same⟩ := Option.map_eq_some_iff.1 found
      cases same
      exact Nat.zero_le _
  | case2 c rest tail' here =>
      intro before' tail' whole
      cases found
      exact Nat.zero_le _
  | case3 c rest refused ih =>
      obtain ⟨⟨front, back⟩, later, same⟩ := Option.map_eq_some_iff.1 found
      cases same
      intro before' tail' whole
      cases before' with
      | nil => exact absurd ⟨tail', whole.symm⟩ (after?_eq_none_iff.1 refused)
      | cons b before' =>
          exact Nat.succ_le_succ (ih later before' tail' (List.cons_eq_cons.1 whole).2)

theorem cut?_eq_some_iff {separator text before tail : List Char} :
    cut? separator text = some (before, tail) ↔ FirstCut separator text before tail := by
  constructor
  · exact firstCut_of_cut?
  · intro first
    have occurs : cut? separator text ≠ none := fun none_ =>
      cut?_eq_none_iff.1 none_ ⟨before, tail, first.here.symm⟩
    obtain ⟨⟨front, back⟩, found⟩ := Option.ne_none_iff_exists'.1 occurs
    obtain ⟨rfl, rfl⟩ := (firstCut_of_cut? found).unique first
    exact found

theorem pieces_splitOn {separator : List Char} (nonempty : separator ≠ []) (text : List Char) :
    Pieces separator text (splitOn separator nonempty text) := by
  fun_induction splitOn separator nonempty text with
  | case1 text none_ => exact .whole (cut?_eq_none_iff.1 none_)
  | case2 text before tail found ih => exact .cut (firstCut_of_cut? found) ih

theorem Pieces.splitOn_eq {separator text : List Char} {pieces : List (List Char)}
    (nonempty : separator ≠ []) (cut : Pieces separator text pieces) :
    splitOn separator nonempty text = pieces := by
  induction cut with
  | whole absent => rw [splitOn, cut?_eq_none_iff.2 absent]
  | cut first _ ih =>
      rw [splitOn, cut?_eq_some_iff.2 first]
      exact congrArg _ ih

theorem splitOn_eq_iff {separator text : List Char} {pieces : List (List Char)}
    (nonempty : separator ≠ []) :
    splitOn separator nonempty text = pieces ↔ Pieces separator text pieces := by
  constructor
  · rintro rfl
    exact pieces_splitOn nonempty text
  · exact Pieces.splitOn_eq nonempty

/-- A piece of a text is a stretch of it. -/
theorem Pieces.within_of_mem {separator text piece : List Char} {pieces : List (List Char)}
    (cut : Pieces separator text pieces) (member : piece ∈ pieces) : piece <:+: text := by
  induction cut with
  | whole => rw [List.mem_singleton.1 member]
  | @cut text before tail pieces first rest ih =>
      rw [first.here]
      rcases List.mem_cons.1 member with rfl | later
      · exact ⟨[], separator ++ tail, by simp⟩
      · exact (ih later).trans (List.suffix_append _ tail).isInfix

/-- No separator stands before the first one. -/
theorem FirstCut.free {separator text before tail : List Char} (nonempty : separator ≠ [])
    (first : FirstCut separator text before tail) : ¬ separator <:+: before := by
  rintro ⟨front, back, rfl⟩
  have size := List.length_pos_iff.2 nonempty
  have earlier : text = front ++ separator ++ (back ++ separator ++ tail) := by
    rw [first.here]
    simp only [List.append_assoc]
  have := first.least _ _ earlier
  simp only [List.length_append] at this
  omega

/-- No piece holds a separator, however the separators of the text overlap. -/
theorem Pieces.free {separator text piece : List Char} {pieces : List (List Char)}
    (nonempty : separator ≠ []) (cut : Pieces separator text pieces) (member : piece ∈ pieces) :
    ¬ separator <:+: piece := by
  induction cut with
  | whole absent =>
      rw [List.mem_singleton.1 member]
      exact absent
  | cut first _ ih =>
      rcases List.mem_cons.1 member with rfl | later
      · exact first.free nonempty
      · exact ih later

/-! ## Trimming -/

/-- The stretch of a text that is left without the blanks at its ends. -/
structure Trimmed (text core : List Char) : Prop where
  within : ∃ front back, text = front ++ core ++ back ∧
    (∀ c ∈ front, isBlank c) ∧ ∀ c ∈ back, isBlank c
  first : ∀ c ∈ core.head?, isBlank c = false
  last : ∀ c ∈ core.getLast?, isBlank c = false

theorem Trimmed.core_within {side core : List Char} (trimmed : Trimmed side core) :
    core <:+: side := by
  obtain ⟨front, back, whole, -, -⟩ := trimmed.within
  exact ⟨front, back, whole.symm⟩

/-- Only blanks are taken off the end, and none is left there. -/
theorem trimEnd_leaves (text : List Char) :
    (∃ back, text = trimEnd text ++ back ∧ ∀ c ∈ back, isBlank c) ∧
      ∀ c ∈ (trimEnd text).getLast?, isBlank c = false := by
  induction text with
  | nil => exact ⟨⟨[], rfl, by simp⟩, by simp [trimEnd]⟩
  | cons c rest ih =>
      obtain ⟨⟨back, whole, blanks⟩, last⟩ := ih
      unfold trimEnd
      split
      · next nothing =>
          rw [nothing, List.nil_append] at whole
          subst whole
          split
          · next blank => exact ⟨⟨c :: rest, rfl, by simpa using ⟨blank, blanks⟩⟩, by simp⟩
          · next solid => exact ⟨⟨rest, rfl, blanks⟩, by simpa using solid⟩
      · next d kept left =>
          rw [left] at whole last
          exact ⟨⟨back, by rw [whole]; rfl, blanks⟩, by simpa using last⟩

theorem trimEnd_append_blanks (text : List Char) {back : List Char} (blanks : ∀ c ∈ back, isBlank c) :
    trimEnd (text ++ back) = trimEnd text := by
  induction text with
  | nil =>
      induction back with
      | nil => rfl
      | cons c back ih =>
          have left : trimEnd back = [] := ih fun d member => blanks d (List.mem_cons_of_mem c member)
          simp [trimEnd, left, blanks c List.mem_cons_self]
  | cons c rest ih => rw [List.cons_append, trimEnd, ih, trimEnd]

theorem trimEnd_eq_self {core : List Char} (last : ∀ c ∈ core.getLast?, isBlank c = false) :
    trimEnd core = core := by
  rcases List.eq_nil_or_concat' core with rfl | ⟨front, c, rfl⟩
  · rfl
  · exact trimEnd_append_of_not_blank front (last c (by simp))

theorem trimmed_trim (text : List Char) : Trimmed text (trim text) := by
  have start := List.takeWhile_append_dropWhile (p := isBlank) (l := text)
  obtain ⟨⟨back, whole, blanks⟩, last⟩ := trimEnd_leaves (trimStart text)
  refine ⟨⟨text.takeWhile isBlank, back, ?_, fun c member => of_mem_takeWhile member, blanks⟩, ?_,
    last⟩
  · rw [List.append_assoc, trim, ← whole, trimStart, start]
  · intro c first
    -- what trimming leaves starts as the text does after its blanks
    obtain ⟨more, same⟩ := trimEnd_starts (trimStart text)
    have first' : (text.dropWhile isBlank).head? = some c := by
      rw [← trimStart, ← same, List.head?_append, ← trim, first]
      rfl
    have := List.head?_dropWhile_not isBlank text
    rw [first'] at this
    simpa using this

theorem trim_eq_iff {text core : List Char} : trim text = core ↔ Trimmed text core := by
  constructor
  · rintro rfl
    exact trimmed_trim text
  · rintro ⟨⟨front, back, rfl, blanks, blanks'⟩, first, last⟩
    cases core with
    | nil =>
        have all : ∀ c ∈ front ++ [] ++ back, isBlank c := by
          simpa [or_imp, forall_and] using ⟨blanks, blanks'⟩
        rw [trim, trimStart, List.dropWhile_eq_nil_iff.2 all, trimEnd]
    | cons c core =>
        have stop : ∀ d ∈ ((c :: core) ++ back).head?, isBlank d = false := by simpa using first
        rw [trim, trimStart, List.append_assoc, dropWhile_append_of_stop blanks stop,
          trimEnd_append_blanks _ blanks', trimEnd_eq_self last]

end Screening.Text
