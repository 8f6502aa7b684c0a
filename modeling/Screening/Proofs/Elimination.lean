/-
# Screening.Proofs.Elimination -- what one rule does to a tally

The actions of a rule remove and log by loops of their own: one empties the eligible
ids first, one looks at each id of its list again before it removes it, one collects
what it drops beforehand.  Here they are brought to one form.  A rule has *targets*,
and whatever its action it eliminates those among the eligible ids, in the order of
its *roll*: the list that it names, or else the eligible ids themselves
(`Tally.act_eq_foldl`).  From this the two halves of the new tally follow for any
tally, also one whose eligible ids repeat or are logged already:

* `Tally.eligible_act`: the targets are gone, and nothing else is;
* `Tally.eliminated_act`: what was logged stays, and after it stand the eliminated ids
  that were not logged, each once and in the order of the roll.
-/
import Screening.Proofs.Occurrence
import Screening.Tally

namespace Screening

set_option autoImplicit false

namespace Rule

/-- Whether a scholarship is among those that the rule removes when it fires. -/
def targets (rule : Rule) (id : String) : Bool :=
  match rule.action with
  | .eliminateAll => true
  | .eliminate => (rule.eliminatedScholarships.getD []).contains id
  | .keepOnly => rule.keptScholarships.any fun kept => !kept.contains id
  | .addPreference | .unknown => false

/-- The ids in the order in which the rule goes through them. -/
def roll (rule : Rule) (eligible : List String) : List String :=
  match rule.action with
  | .eliminate => rule.eliminatedScholarships.getD []
  | _ => eligible

/-- What the rule eliminates of the eligible ids, in the order of its roll. -/
def targetsAmong (rule : Rule) (eligible : List String) : List String :=
  (rule.roll eligible).filter fun id => eligible.contains id && rule.targets id

theorem mem_roll {rule : Rule} {eligible : List String} {id : String} (target : rule.targets id)
    (member : id ∈ eligible) : id ∈ rule.roll eligible := by
  simp only [roll, targets] at target ⊢
  split <;> simp_all

theorem mem_targetsAmong {rule : Rule} {eligible : List String} {id : String} :
    id ∈ rule.targetsAmong eligible ↔ id ∈ eligible ∧ rule.targets id := by
  simp only [targetsAmong, List.mem_filter, List.contains_iff_mem, Bool.and_eq_true]
  constructor
  · exact fun ⟨_, both⟩ => both
  · exact fun ⟨member, target⟩ => ⟨mem_roll target member, member, target⟩

end Rule

attribute [ext] Tally

namespace Tally

variable {reason questionId : String}

/-! ## One elimination after the other -/

theorem isLogged_iff {tally : Tally} {id : String} :
    tally.isLogged id ↔ id ∈ tally.eliminated.map (·.scholarshipId) := by
  simp [isLogged]

@[simp] theorem isLogged_eliminate (tally : Tally) (id other : String) :
    (tally.eliminate reason questionId id).isLogged other =
      (tally.isLogged other || decide (id = other)) := by
  by_cases logged : tally.isLogged id
  · by_cases same : id = other
    · subst same
      simp [eliminate, logged]
      exact logged
    · simp [eliminate, logged, same]
      rfl
  · have appended : (tally.eliminate reason questionId id).eliminated =
        tally.eliminated ++ [⟨id, reason, questionId⟩] := by
      simp [eliminate, logged]
    rw [isLogged, appended]
    simp [isLogged]

/-- Eliminating ids removes them, and nothing else. -/
theorem eligible_foldl_eliminate (ids : List String) (tally : Tally) :
    (ids.foldl (eliminate reason questionId) tally).eligible =
      tally.eligible.filter fun id => !ids.contains id := by
  induction ids generalizing tally with
  | nil => simp
  | cons id ids ih =>
      rw [List.foldl_cons, ih, eliminate, List.filter_filter]
      refine List.filter_congr fun other _ => ?_
      by_cases same : other = id <;> simp [same]

/-- Eliminating ids logs those that were not logged, each once and in order. -/
theorem eliminated_foldl_eliminate (ids : List String) (tally : Tally) :
    (ids.foldl (eliminate reason questionId) tally).eliminated =
      tally.eliminated ++
        ((ids.filter fun id => !tally.isLogged id).eraseDups.map fun id =>
          ⟨id, reason, questionId⟩) := by
  induction ids generalizing tally with
  | nil => simp
  | cons id ids ih =>
      rw [List.foldl_cons, ih, List.filter_cons]
      cases logged : tally.isLogged id with
      | true =>
          have same : ∀ other, (tally.eliminate reason questionId id).isLogged other =
              tally.isLogged other := by
            intro other
            rw [isLogged_eliminate]
            by_cases equal : id = other
            · rw [← equal, logged]
              rfl
            · simp [equal]
          simp only [same]
          simp [eliminate, logged]
      | false =>
          have later : (ids.filter fun other =>
                !(tally.eliminate reason questionId id).isLogged other) =
              (ids.filter fun other => !tally.isLogged other).filter fun other =>
                !other == id := by
            rw [List.filter_filter]
            refine List.filter_congr fun other _ => ?_
            rw [isLogged_eliminate]
            by_cases equal : id = other
            · simp [equal]
            · simp [equal, Ne.symm equal]
          rw [later]
          simp [eliminate, logged, List.eraseDups_cons]

/-- An id that is gone and logged can be eliminated again without effect. -/
theorem foldl_eliminate_filter_ne {id : String} {tally : Tally} (gone : id ∉ tally.eligible)
    (logged : tally.isLogged id) (ids : List String) :
    (ids.filter fun other => decide (other ≠ id)).foldl (eliminate reason questionId) tally =
      ids.foldl (eliminate reason questionId) tally := by
  apply Tally.ext
  · rw [eligible_foldl_eliminate, eligible_foldl_eliminate]
    refine List.filter_congr fun other member => ?_
    have : other ≠ id := fun same => gone (same ▸ member)
    simp [this]
  · rw [eliminated_foldl_eliminate, eliminated_foldl_eliminate, List.filter_filter]
    congr 3
    refine List.filter_congr fun other _ => ?_
    by_cases same : other = id <;> simp [same, logged]

/-- Asking before each elimination whether the id is eligible comes to the same as asking
once beforehand. -/
theorem foldl_eliminateEligible (ids : List String) (tally : Tally) :
    ids.foldl (eliminateEligible reason questionId) tally =
      (ids.filter fun id => tally.eligible.contains id).foldl
        (eliminate reason questionId) tally := by
  induction ids generalizing tally with
  | nil => rfl
  | cons id ids ih =>
      rw [List.foldl_cons, ih, List.filter_cons]
      by_cases member : tally.eligible.contains id
      · have gone : id ∉ (tally.eliminate reason questionId id).eligible := by
          simp [eliminate]
        have logged : (tally.eliminate reason questionId id).isLogged id := by simp
        have still : (ids.filter fun other =>
              (tally.eliminate reason questionId id).eligible.contains other) =
            (ids.filter fun other => tally.eligible.contains other).filter fun other =>
              decide (other ≠ id) := by
          rw [List.filter_filter]
          refine List.filter_congr fun other _ => ?_
          simp [eliminate, and_comm]
        rw [if_pos member, eliminateEligible, if_pos member, still,
          foldl_eliminate_filter_ne gone logged, List.foldl_cons]
      · rw [if_neg member, eliminateEligible, if_neg member]

/-! ## One rule -/

/-- Whatever its action, a rule eliminates its targets one after the other. -/
theorem act_eq_foldl (rule : Rule) (questionId : String) (tally : Tally) :
    tally.act rule questionId =
      (rule.targetsAmong tally.eligible).foldl (eliminate rule.eliminationMessage questionId)
        tally := by
  cases action : rule.action with
  | eliminateAll =>
      have all : rule.targetsAmong tally.eligible = tally.eligible := by
        simp [Rule.targetsAmong, Rule.roll, Rule.targets, action]
      simp only [act, action, all]
      apply Tally.ext
      · simp [eligible_foldl_eliminate]
      · rw [eliminated_foldl_eliminate, eliminated_foldl_eliminate]
        rfl
  | eliminate =>
      have listed : rule.targetsAmong tally.eligible =
          (rule.eliminatedScholarships.getD []).filter fun id => tally.eligible.contains id := by
        simp only [Rule.targetsAmong, Rule.roll, Rule.targets, action]
        refine List.filter_congr fun id member => ?_
        simp [member]
      simp only [act, action, listed]
      exact foldl_eliminateEligible _ tally
  | keepOnly =>
      cases kept : rule.keptScholarships with
      | none => simp [act, Rule.targetsAmong, Rule.targets, action, kept]
      | some kept' =>
          have dropped : rule.targetsAmong tally.eligible =
              tally.eligible.filter fun id => !kept'.contains id := by
            simp only [Rule.targetsAmong, Rule.roll, Rule.targets, action, kept]
            refine List.filter_congr fun id member => ?_
            simp [member]
          simp only [act, action, kept, dropped]
  | addPreference => simp [act, Rule.targetsAmong, Rule.targets, action]
  | unknown => simp [act, Rule.targetsAmong, Rule.targets, action]

/-- The targets of a rule are gone, and nothing else is. -/
theorem eligible_act (rule : Rule) (questionId : String) (tally : Tally) :
    (tally.act rule questionId).eligible = tally.eligible.filter fun id => !rule.targets id := by
  rw [act_eq_foldl, eligible_foldl_eliminate]
  refine List.filter_congr fun id member => ?_
  have : (rule.targetsAmong tally.eligible).contains id = rule.targets id := by
    rw [Bool.eq_iff_iff, List.contains_iff_mem, Rule.mem_targetsAmong]
    exact and_iff_right member
  rw [this]

/-- What was logged stays, and after it stand the targets that were not logged. -/
theorem eliminated_act (rule : Rule) (questionId : String) (tally : Tally) :
    (tally.act rule questionId).eliminated =
      tally.eliminated ++
        (((rule.targetsAmong tally.eligible).filter fun id => !tally.isLogged id).eraseDups.map
          fun id => ⟨id, rule.eliminationMessage, questionId⟩) := by
  rw [act_eq_foldl, eliminated_foldl_eliminate]

end Tally

end Screening
