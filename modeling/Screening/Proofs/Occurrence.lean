/-
# Screening.Proofs.Occurrence -- the first occurrences in a list

A log that refuses repeats keeps of every id its first mention.  `List.eraseDups`
keeps the first occurrences of a list in their order; this module says which they
are and in which order they stand.

* `eraseDups_filter`: leaving elements out commutes with keeping first occurrences;
* `nodup_eraseDups`: what is kept does not repeat;
* `eraseDups_pairwise_idxOf`: what is kept stands in the order of first occurrence;
* `pairwise_idxOf`: so does a list without repeats.
-/
import Mathlib.Data.List.Basic

namespace Screening.Occurrence

set_option autoImplicit false

variable {α : Type} [DecidableEq α]

/-- Induction along `eraseDups`, which goes on with what differs from the head. -/
theorem eraseDupsInduction {motive : List α → Prop} (nil : motive [])
    (cons : ∀ (a : α) (rest : List α), motive (rest.filter fun b => !b == a) →
      motive (a :: rest)) (list : List α) : motive list := by
  match list with
  | [] => exact nil
  | a :: rest => exact cons a rest (eraseDupsInduction nil cons _)
termination_by list.length
decreasing_by
  have := List.length_filter_le (fun b => !b == a) rest
  simp only [List.length_cons]
  omega

theorem eraseDups_filter (p : α → Bool) (list : List α) :
    (list.filter p).eraseDups = list.eraseDups.filter p := by
  induction list using eraseDupsInduction with
  | nil => rfl
  | cons a rest ih =>
      have swap : (rest.filter p).filter (fun b => !b == a) =
          (rest.filter fun b => !b == a).filter p := by
        simp only [List.filter_filter, Bool.and_comm]
      rw [List.eraseDups_cons, List.filter_cons, List.filter_cons]
      by_cases kept : p a
      · rw [if_pos kept, if_pos kept, List.eraseDups_cons, swap, ih]
      · have absent : rest.filter p = (rest.filter p).filter fun b => !b == a := by
          refine (List.filter_eq_self.2 fun b member => ?_).symm
          have : b ≠ a := fun same => kept (same ▸ (List.mem_filter.1 member).2)
          simpa using this
        rw [if_neg kept, if_neg kept, absent, swap, ih]

theorem nodup_eraseDups (list : List α) : list.eraseDups.Nodup := by
  induction list using eraseDupsInduction with
  | nil => simp
  | cons a rest ih =>
      rw [List.eraseDups_cons, List.nodup_cons]
      refine ⟨fun member => ?_, ih⟩
      have := List.mem_filter.1 (List.mem_eraseDups.1 member)
      simp at this

/-- First positions after the head are ordered as they are without its repeats. -/
theorem idxOf_filter_ne_lt {a b c : α} {rest : List α} (left : b ≠ a) (right : c ≠ a)
    (before : (rest.filter fun d => !d == a).idxOf b < (rest.filter fun d => !d == a).idxOf c) :
    rest.idxOf b < rest.idxOf c := by
  induction rest with
  | nil => simp at before
  | cons d rest ih => grind

theorem eraseDups_pairwise_idxOf (list : List α) :
    list.eraseDups.Pairwise fun first second => list.idxOf first < list.idxOf second := by
  induction list using eraseDupsInduction with
  | nil => simp
  | cons a rest ih =>
      have differs : ∀ b ∈ (rest.filter fun d => !d == a).eraseDups, b ≠ a := by
        intro b member
        simpa using (List.mem_filter.1 (List.mem_eraseDups.1 member)).2
      rw [List.eraseDups_cons, List.pairwise_cons]
      constructor
      · intro b member
        rw [List.idxOf_cons_self, List.idxOf_cons_ne _ (differs b member).symm]
        exact Nat.succ_pos _
      · refine ih.imp_of_mem fun {b c} first second before => ?_
        rw [List.idxOf_cons_ne _ (differs b first).symm, List.idxOf_cons_ne _ (differs c second).symm]
        exact Nat.succ_lt_succ (idxOf_filter_ne_lt (differs b first) (differs c second) before)

/-- A list without repeats stands in the order of first occurrence. -/
theorem pairwise_idxOf {list : List α} (nodup : list.Nodup) :
    list.Pairwise fun first second => list.idxOf first < list.idxOf second := by
  rw [List.pairwise_iff_getElem]
  intro earlier later _ _ before
  rw [nodup.idxOf_getElem, nodup.idxOf_getElem]
  exact before

end Screening.Occurrence
