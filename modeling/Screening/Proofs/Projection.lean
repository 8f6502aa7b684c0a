/-
# Screening.Proofs.Projection -- every view of a run shows the same scholarships

A run keeps a list of who is eligible and a log of who is not.  What is shown of it is
made anew each time: the entries are looked up in the registry, the view of a session and
the report turn them into lines, the log is told with the names on the registry's records,
and a completed run hands ids off.  After any events these all show the one account that the
state gives.

The entries stand in the registry's order and the ids of the state in the order that was left
by removals; these are one order, since the state's list is a sublist of a registry in which no
id occurs twice (`Run.ids_entries`).  A log entry is about a scholarship of the registry, so its
record is found and its line never falls back on the id (`Report.tells_eliminationLine`).

* `Run.showsOneAccount_of_accounted`: a run whose state accounts for the registry shows that
  account everywhere;
* `showsOneAccount_of_events`: so does every run that events have led to.
-/
import Screening.Proofs.Accounting
import Screening.Proofs.Isolation
import Screening.Report

namespace Screening

set_option autoImplicit false

/-- The line tells of the log entry, under the name on the registry's record. -/
structure EliminationLine.Tells (catalog : Catalog) (entry : Elimination)
    (line : EliminationLine) : Prop where
  scholarshipId : line.scholarshipId = entry.scholarshipId
  reason : line.reason = entry.reason
  questionId : line.questionId = entry.questionId
  recorded : ∃ record, catalog.scholarship? entry.scholarshipId = some record ∧
    line.scholarshipName = record.scholarshipName

/-- All that is shown of the run is the account that its state gives. -/
structure Run.ShowsOneAccount (run : Run) : Prop where
  entries : run.entries.map (·.scholarshipId) = run.state.eligible
  session : ∀ sessionId, (SessionView.ofRun sessionId run).eligible.map (·.scholarshipId) =
    run.state.eligible
  report : ∀ skipped showQuestions,
    (Report.ofRun run skipped showQuestions).eligible.map (·.scholarshipId) = run.state.eligible
  handoff : ∀ handoff, run.complete = .ok handoff → handoff.eligible = run.state.eligible
  log : ∀ skipped showQuestions, List.Forall₂ (EliminationLine.Tells run.catalog)
    run.state.eliminated (Report.ofRun run skipped showQuestions).eliminated
  registry_nodup : run.catalog.scholarshipIds.Nodup
  everyone : ∀ skipped showQuestions,
    ((Report.ofRun run skipped showQuestions).eligible.map (·.scholarshipId) ++
      (Report.ofRun run skipped showQuestions).eliminated.map (·.scholarshipId)).Perm
        run.catalog.scholarshipIds

/-! ## The eligible -/

/-- Without repeats, a list filtered by a sublist of it is that sublist. -/
theorem filter_contains_of_sublist {kept all : List String} (within : kept.Sublist all)
    (once : all.Nodup) : all.filter kept.contains = kept := by
  have whole : kept.filter kept.contains = kept := List.filter_eq_self.2 (by simp)
  have below := within.filter kept.contains
  rw [whole] at below
  have same : kept.Perm (all.filter kept.contains) := by
    refine (List.perm_ext_iff_of_nodup (once.sublist within) (once.filter _)).2 fun id => ?_
    simpa using fun member => within.subset member
  exact (below.eq_of_length same.length_eq).symm

namespace Run

variable {run : Run}

/-- Looking the eligible up in the registry keeps them, and their order. -/
theorem ids_entries (accounted : Accounted run.catalog run.state)
    (once : run.catalog.scholarshipIds.Nodup) :
    run.entries.map (·.scholarshipId) = run.state.eligible := by
  have looked_up : run.entries.map (·.scholarshipId) =
      run.catalog.scholarshipIds.filter run.state.eligible.contains := by
    rw [Catalog.scholarshipIds, List.filter_map]
    rfl
  rw [looked_up, filter_contains_of_sublist accounted.eligible_sublist once]

theorem ids_lines (run : Run) :
    run.lines.map (·.scholarshipId) = run.entries.map (·.scholarshipId) := by
  rw [lines, List.map_map]
  rfl

end Run

/-! ## The log -/

theorem Catalog.exists_scholarship?_of_mem {catalog : Catalog} {id : String}
    (registered : id ∈ catalog.scholarshipIds) :
    ∃ record, catalog.scholarship? id = some record := by
  obtain ⟨record, inRegistry, same⟩ := List.mem_map.1 registered
  have found : (catalog.scholarship? id).isSome :=
    List.find?_isSome.2 ⟨record, inRegistry, by simpa using same⟩
  exact Option.isSome_iff_exists.1 found

theorem Accounted.registered {catalog : Catalog} {state : Eligibility}
    (accounted : Accounted catalog state) {entry : Elimination}
    (logged : entry ∈ state.eliminated) : entry.scholarshipId ∈ catalog.scholarshipIds :=
  accounted.partition.subset (List.mem_append_right _ (List.mem_map_of_mem logged))

namespace Report

/-- The line of an entry about a registered scholarship has the name on its record. -/
theorem tells_eliminationLine {catalog : Catalog} {entry : Elimination}
    (registered : entry.scholarshipId ∈ catalog.scholarshipIds) :
    EliminationLine.Tells catalog entry (eliminationLine catalog entry) := by
  obtain ⟨record, found⟩ := Catalog.exists_scholarship?_of_mem registered
  refine ⟨rfl, rfl, rfl, record, found, ?_⟩
  rw [eliminationLine, found]

theorem ids_eliminated (run : Run) (skipped : List String) (showQuestions : Bool) :
    (ofRun run skipped showQuestions).eliminated.map (·.scholarshipId) =
      run.state.eliminated.map (·.scholarshipId) := by
  rw [ofRun, List.map_map]
  rfl

end Report

/-! ## Every view -/

theorem Run.showsOneAccount_of_accounted {run : Run}
    (accounted : Accounted run.catalog run.state)
    (once : run.catalog.scholarshipIds.Nodup) : run.ShowsOneAccount where
  entries := ids_entries accounted once
  session := by
    intro _
    exact run.ids_lines.trans (ids_entries accounted once)
  report := by
    intro _ _
    exact run.ids_lines.trans (ids_entries accounted once)
  handoff := by
    intro _ completed
    exact complete_eligible completed
  log := by
    intro _ _
    refine List.forall₂_map_right_iff.2 (List.forall₂_same.2 fun entry logged => ?_)
    exact Report.tells_eliminationLine (accounted.registered logged)
  registry_nodup := once
  everyone := by
    intro skipped showQuestions
    rw [Report.ids_eliminated]
    have eligible := run.ids_lines.trans (ids_entries accounted once)
    exact eligible ▸ accounted.partition

/-- **All views agree.**  Whatever events a run has been through, its entries, the view of its
session, its report and its handoff show the eligible scholarships of its state in the order of
the registry.  The report tells the log entry by entry under the names on record, and lists
every scholarship of the registry once. -/
theorem showsOneAccount_of_events {document : Questionnaire} {catalog : Catalog}
    (accepted : Catalog.ofQuestionnaire document = .ok catalog) (events : List Event) :
    (events.foldl Run.after (.start catalog)).catalog = catalog ∧
      (events.foldl Run.after (.start catalog)).ShowsOneAccount := by
  have accounted := (accounted_ofAnswers accepted filed_empty).foldl_reduce accepted events
  rw [Run.start, foldl_after]
  exact ⟨rfl, Run.showsOneAccount_of_accounted accounted (Catalog.scholarshipIds_nodup accepted)⟩

namespace Sample

/-- The applicant is not enrolled, after saying the opposite. -/
def corrected : List Event := [
  .answered "enrolled" (.single "yes") none,
  .cleared "enrolled",
  .answered "enrolled" (.single "no") none]

theorem corrected_state :
    let run := corrected.foldl Run.after (.start catalog)
    run.state.eligible = ["A", "C"] ∧
      run.state.eliminated = [⟨"B", "Enrolment required", "enrolled"⟩] ∧ run.canComplete := by
  simp only [catalog, inOrder_tiers]
  decide +kernel

end Sample

theorem sample_showsOneAccount :
    Catalog.ofQuestionnaire Sample.document = .ok Sample.catalog ∧
      (Sample.corrected.foldl Run.after (.start Sample.catalog)).state.eliminated =
        [⟨"B", "Enrolment required", "enrolled"⟩] ∧
      (Sample.corrected.foldl Run.after (.start Sample.catalog)).canComplete ∧
      (Sample.corrected.foldl Run.after (.start Sample.catalog)).ShowsOneAccount ∧
      (Sample.corrected.foldl Run.after (.start Sample.catalog)).entries.map (·.scholarshipId) =
        ["A", "C"] := by
  obtain ⟨eligible, eliminated, completes⟩ := Sample.corrected_state
  obtain ⟨-, shows⟩ := showsOneAccount_of_events Sample.accepted Sample.corrected
  exact ⟨Sample.accepted, eliminated, completes, shows, shows.entries.trans eligible⟩

end Screening
