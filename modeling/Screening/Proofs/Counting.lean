/-
# Screening.Proofs.Counting -- the counts of the tiers are the counts of the whole

What is shown is counted in three ways.  A tier is looked up by its id, and its stretch of the
sequence is gone through; the overall progress goes through the whole sequence once; and a tier
that is listed has a line for each question, marked if the question is answered.  The three ways
come to the same, because the stretches follow one another from the start of the sequence to its
end and no two tiers have one id: what the tiers show, one after the other, is what the whole
sequence shows, and each question stands in it once.

* `Layout.Built.visibleIn_eq`, `Layout.Built.flatMap_visibleIn`: what a tier shows, and what the
  tiers show one after the other;
* `Run.foldl_count`: one pass counts what the lists count;
* `Progress.proper`: the exact share is between nothing and a hundred, and reaches them only
  where nothing and everything is answered;
* `tier_counts_agree`: all this of every run over every document that loads.
-/
import Mathlib.Algebra.Order.Field.Basic
import Mathlib.Algebra.Order.Ring.Rat
import Mathlib.Tactic.NormNum
import Screening.Proofs.Dependencies
import Screening.Proofs.Layout
import Screening.Proofs.Percentage
import Screening.Proofs.Refusal

namespace Screening

set_option autoImplicit false

/-! ## The exact share -/

namespace Progress

/-- The exact answered share in percent, and 0 where no question is shown. -/
def share (progress : Progress) : ℚ :=
  if progress.total = 0 then 0 else progress.answered / progress.total * 100

/-- What holds of a count that counts no more answered questions than there are. -/
structure Proper (progress : Progress) : Prop where
  bounded : progress.answered ≤ progress.total
  nonneg : 0 ≤ progress.share
  le_hundred : progress.share ≤ 100
  eq_zero_iff : progress.share = 0 ↔ progress.answered = 0
  eq_hundred_iff : progress.share = 100 ↔
    0 < progress.total ∧ progress.answered = progress.total

theorem proper {progress : Progress} (bounded : progress.answered ≤ progress.total) :
    progress.Proper := by
  rcases Nat.eq_zero_or_pos progress.total with vacant | shown
  · have unanswered : progress.answered = 0 := Nat.le_zero.1 (vacant ▸ bounded)
    have share : progress.share = 0 := if_pos vacant
    refine ⟨bounded, share.ge, ?_, iff_of_true share unanswered, ?_⟩
    · rw [share]
      norm_num
    · rw [share]
      exact iff_of_false (by norm_num) fun whole => Nat.ne_of_gt whole.1 vacant
  · have positive : (0 : ℚ) < progress.total := Nat.cast_pos.2 shown
    have share : progress.share = progress.answered / progress.total * 100 :=
      if_neg (Nat.ne_of_gt shown)
    have nonneg : (0 : ℚ) ≤ progress.answered / progress.total :=
      div_nonneg (Nat.cast_nonneg _) positive.le
    have le_one : (progress.answered / progress.total : ℚ) ≤ 1 :=
      (div_le_one positive).2 (Nat.cast_le.2 bounded)
    refine ⟨bounded, ?_, ?_, ?_, ?_⟩
    · rw [share]
      exact mul_nonneg nonneg (by norm_num)
    · rw [share]
      exact mul_le_of_le_one_left (by norm_num) le_one
    · rw [share, mul_eq_zero_iff_right (by norm_num), div_eq_zero_iff,
        or_iff_left positive.ne', Nat.cast_eq_zero]
    · rw [share, mul_eq_right₀ (by norm_num), div_eq_one_iff_eq positive.ne', Nat.cast_inj]
      exact (and_iff_right shown).symm

end Progress

/-- Counts one more shown question. -/
def Progress.count (progress : Progress) (answered : Bool) : Progress where
  answered := if answered then progress.answered + 1 else progress.answered
  total := progress.total + 1

namespace Run

/-! ## One count from several -/

/-- Counting in one pass comes to what the lengths of the lists come to. -/
theorem foldl_count (run : Run) (asked : List ReadQuestion) (progress : Progress) :
    asked.foldl (fun progress question => progress.count (run.isAnswered question)) progress =
      ⟨progress.answered + (run.progressOf asked).answered,
        progress.total + (run.progressOf asked).total⟩ := by
  induction asked generalizing progress with
  | nil => rfl
  | cons question asked ih =>
      rw [List.foldl_cons, ih]
      cases answered : run.isAnswered question <;>
        simp [Progress.count, progressOf, answered] <;> omega

theorem sum_total_progressOf {α : Type} (run : Run) (list : List α)
    (asked : α → List ReadQuestion) :
    (list.map fun a => (run.progressOf (asked a)).total).sum =
      (run.progressOf (list.flatMap asked)).total :=
  List.length_flatMap.symm

theorem sum_answered_progressOf {α : Type} (run : Run) (list : List α)
    (asked : α → List ReadQuestion) :
    (list.map fun a => (run.progressOf (asked a)).answered).sum =
      (run.progressOf (list.flatMap asked)).answered := by
  show _ = ((list.flatMap asked).filter run.isAnswered).length
  rw [List.filter_flatMap, List.length_flatMap]
  rfl

theorem answered_progressOf_le (run : Run) (asked : List ReadQuestion) :
    (run.progressOf asked).answered ≤ (run.progressOf asked).total :=
  List.length_filter_le _ _

/-- Everything that is counted is answered exactly when the counts are the same. -/
theorem answered_progressOf_eq_iff (run : Run) (asked : List ReadQuestion) :
    (run.progressOf asked).answered = (run.progressOf asked).total ↔
      ∀ question ∈ asked, run.isAnswered question :=
  List.length_filter_eq_length_iff

/-! ## Tiers -/

section

variable {document : Questionnaire} {layout : Layout} {run : Run}
variable (built : Layout.Built document layout) (asks : run.catalog = layout.catalog)

include asks

theorem visibleIn_eq (id : String) :
    run.visibleIn id =
      ((layout.tier? id).elim [] fun tier =>
        ((layout.tierQuestions? tier).getD []).filter run.isVisible) := by
  rw [visibleIn, asks, layout.tier?_catalog]
  cases layout.tier? id <;> rfl

/-- An id that no tier has lists nothing. -/
theorem visibleIn_of_unknown {id : String} (unknown : layout.tier? id = none) :
    run.visibleIn id = [] := by
  rw [visibleIn_eq asks, unknown, Option.elim_none]

include built

/-- What is listed for a tier is what its stretch of the sequence shows. -/
theorem visibleIn_stretch {id : String} {tier : LaidTier} (found : layout.tier? id = some tier) :
    (layout.tierQuestions? tier).map (·.filter run.isVisible) = some (run.visibleIn id) := by
  have member : tier ∈ layout.tiers.toList := List.mem_of_find?_eq_some found
  have inside : tier.start ≤ tier.stop ∧ tier.stop ≤ layout.questions.size :=
    (built.tiles.bounds.2 tier member).2
  rw [visibleIn_eq asks, found, Option.elim_some, Layout.tierQuestions?, if_pos inside]
  rfl

variable (distinct : document.declarations.Nodup)

include distinct

/-- What the tiers list, one after the other, is what the whole sequence shows. -/
theorem flatMap_visibleIn :
    (layout.tiers.toList.flatMap fun tier => run.visibleIn tier.tierId) =
      layout.questions.toList.filter run.isVisible := by
  have lookup := built.exactLookup_tier distinct
  have each : ∀ tier ∈ layout.tiers.toList,
      run.visibleIn tier.tierId = (layout.readTier tier).questions.filter run.isVisible := by
    intro tier member
    have found := (lookup.found tier.tierId tier).2 ⟨member, rfl⟩
    rw [visibleIn_eq asks, found, Option.elim_some]
    rfl
  rw [List.flatMap_congr each, ← built.questions_catalog, Catalog.questions, Layout.catalog,
    List.flatMap_map, List.filter_flatMap]

end

/-! ## All counts -/

/-- The ways in which what is shown is counted agree, over this layout. -/
structure CountsAgree (layout : Layout) (run : Run) : Prop where
  sequence : run.catalog.questions = layout.questions.toList
  /-- A tier lists what its stretch of the sequence shows, -/
  stretch : ∀ id tier, layout.tier? id = some tier →
    (layout.tierQuestions? tier).map (·.filter run.isVisible) = some (run.visibleIn id)
  unknown : ∀ id, layout.tier? id = none → run.visibleIn id = []
  /-- and the tiers, one after the other, what the whole sequence shows. -/
  whole : (layout.tiers.toList.flatMap fun tier => run.visibleIn tier.tierId) =
    layout.questions.toList.filter fun asked => asked.visibility.isVisible run.answers
  once : ((layout.tiers.toList.flatMap fun tier => run.visibleIn tier.tierId).map
    (·.questionId)).Nodup
  total : (layout.tiers.toList.map fun tier => (run.tierProgress tier.tierId).total).sum =
    run.progress.total
  answered : (layout.tiers.toList.map fun tier => (run.tierProgress tier.tierId).answered).sum =
    run.progress.answered
  onePass : run.progress = (layout.questions.toList.filter run.isVisible).foldl
    (fun progress asked => progress.count (run.isAnswered asked)) ⟨0, 0⟩
  tier_bounded : ∀ id, (run.tierProgress id).answered ≤ (run.tierProgress id).total
  proper : run.progress.Proper
  eq_zero_iff : run.progress.share = 0 ↔ ∀ asked ∈ layout.questions.toList,
    asked.visibility.isVisible run.answers → run.answers.get? asked.questionId = none
  eq_hundred_iff : run.progress.share = 100 ↔ 0 < run.progress.total ∧
    ∀ asked ∈ layout.questions.toList, asked.visibility.isVisible run.answers →
      run.answers.get? asked.questionId ≠ none
  /-- What is shown of the share is as good as the share. -/
  percent : run.progress.total < UInt64.size → run.progress.PercentTells
  /-- The view of a tier has the counts of the tier and a line for each question in its list, -/
  counts : ∀ id, (TierView.ofRun id run).progress = run.tierProgress id
  lines : ∀ id, (TierView.ofRun id run).questions.map (·.question) =
    (run.visibleIn id).map (·.question)
  /-- and a line is marked where the answers have its question. -/
  marks : ∀ id, (TierView.ofRun id run).questions.map (·.answered) =
    (run.visibleIn id).map fun asked => run.answers.contains asked.questionId
  listed : ∀ id, (TierView.ofRun id run).progress.total = (TierView.ofRun id run).questions.length
  marked : ∀ id, (TierView.ofRun id run).progress.answered =
    ((TierView.ofRun id run).questions.filter (·.answered)).length

/-- Of the lines of a tier those are marked whose questions are answered. -/
theorem length_filter_answered (run : Run) (tierId : String) :
    ((TierView.ofRun tierId run).questions.filter (·.answered)).length =
      (run.tierProgress tierId).answered := by
  rw [TierView.ofRun, List.filter_map, List.length_map]
  rfl

/-- Everything shown is answered exactly where nothing that is shown has no answer. -/
theorem answered_eq_total_iff (run : Run) :
    run.progress.answered = run.progress.total ↔
      ∀ asked ∈ run.catalog.questions, run.isVisible asked →
        run.answers.get? asked.questionId ≠ none := by
  rw [progress, answered_progressOf_eq_iff]
  simp only [List.mem_filter, and_imp, isAnswered, Keyed.contains, Option.isSome_iff_ne_none]

theorem countsAgree {document : Questionnaire} {layout : Layout} {run : Run}
    (distinct : document.declarations.Nodup) (built : Layout.Built document layout)
    (asks : run.catalog = layout.catalog) : run.CountsAgree layout := by
  have sequence : run.catalog.questions = layout.questions.toList := by
    rw [asks, built.questions_catalog]
  have whole := flatMap_visibleIn built asks distinct
  have progress : run.progress = run.progressOf (layout.questions.toList.filter run.isVisible) := by
    rw [Run.progress, sequence]
  have bounded : run.progress.answered ≤ run.progress.total := run.answered_progressOf_le _
  have proper := Progress.proper bounded
  refine {
    sequence, whole, proper
    stretch := fun _ _ => visibleIn_stretch built asks
    unknown := fun _ => visibleIn_of_unknown asks
    once := ?once
    total := ?total
    answered := ?answered
    onePass := ?onePass
    tier_bounded := fun _ => run.answered_progressOf_le _
    eq_zero_iff := ?zero
    eq_hundred_iff := ?hundred
    percent := run.percentTells
    counts := fun _ => rfl
    lines := fun _ => List.map_map
    marks := fun _ => List.map_map
    listed := fun id => (List.length_map _).symm
    marked := fun id => (run.length_filter_answered id).symm }
  case once =>
    have distinctIds := Catalog.questionIds_nodup (built.catalog_eq distinct)
    rw [built.questions_catalog] at distinctIds
    rw [whole]
    exact (List.filter_sublist.map _).nodup distinctIds
  case total =>
    rw [progress, ← whole]
    exact run.sum_total_progressOf _ _
  case answered =>
    rw [progress, ← whole]
    exact run.sum_answered_progressOf _ _
  case onePass =>
    rw [foldl_count, progress, Nat.zero_add, Nat.zero_add]
  case zero =>
    rw [proper.eq_zero_iff, run.answered_eq_zero_iff, sequence]
    rfl
  case hundred =>
    rw [proper.eq_hundred_iff, run.answered_eq_total_iff, sequence]
    rfl

end Run

/-- **The counts of the tiers are the counts of the whole.**  Of every document that loads, after
any events: the tiers list, one after the other, what the sequence of questions shows, each
question once; their counts add up to those of the overall progress; the exact share lies between
0 and 100, is 0 exactly if no shown question is answered, and 100 exactly if questions are shown
and all of them are answered; and a tier that is listed has a line for each question that is
counted, marked if the question counts as answered. -/
theorem tier_counts_agree {document : Questionnaire} {layout : Layout}
    (loaded : Layout.ofQuestionnaire document = .ok layout) (events : List Event) :
    Catalog.ofQuestionnaire document = .ok layout.catalog ∧
      (events.foldl Run.after (.start layout.catalog)).CountsAgree layout := by
  obtain ⟨distinct, built⟩ := Layout.built_of_ok loaded
  refine ⟨built.catalog_eq distinct, Run.countsAgree distinct built ?_⟩
  rw [Run.start, foldl_after]

namespace Sample

/-- A tier with a question that is shown to those only who are enrolled. -/
def branched : Tier := { late with questions := late.questions ++ [field] }

def branching : Questionnaire := { document with tiers := [vacant, branched, early] }

theorem inOrder_branching : Tier.inOrder branching.tiers = [early, vacant, branched] := by
  simp [Tier.inOrder, branching, List.mergeSort, early, vacant, branched, late]

def branchingLayout : Layout where
  metadata := {}
  processingInstructions := none
  scholarships := document.scholarships
  tiers := #[.ofTier 0 early 1, .ofTier 1 vacant 1, .ofTier 1 branched 3]
  questions := (Layout.readQuestions early ++ Layout.readQuestions branched).toArray
  places := .ofList [("enrolled", 0), ("interests", 1), ("field", 2)]
  dangling := #[⟨"R1", "enrolled", "Z"⟩]

theorem laid_branching : Layout.ofQuestionnaire branching = .ok branchingLayout := by
  rw [Layout.ofQuestionnaire, inOrder_branching]
  rfl

/-- Answers to a hidden question, to one that is not asked, and to one that is shown. -/
def scattered : List Event := [
  .answered "enrolled" (.single "yes") none,
  .reset,
  .answered "field" (.single "law") none,
  .answered "hobby" (.single "chess") none,
  .answered "interests" (.multiple ["music"]) none]

end Sample

/-- One of two shown questions is answered; the hidden one that is answered does not count. -/
theorem sample_tier_counts_agree :
    Layout.ofQuestionnaire Sample.branching = .ok Sample.branchingLayout ∧
      (Sample.scattered.foldl Run.after (.start Sample.branchingLayout.catalog)).progress =
        ⟨1, 2⟩ ∧
      (Sample.scattered.foldl Run.after (.start Sample.branchingLayout.catalog)).CountsAgree
        Sample.branchingLayout := by
  refine ⟨Sample.laid_branching, ?_, (tier_counts_agree Sample.laid_branching _).2⟩
  decide +kernel

end Screening
