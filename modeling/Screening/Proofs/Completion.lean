/-
# Screening.Proofs.Completion -- what the view of a session promises

A view says whether its session can be completed.  This is not a forecast: the view, the check
of the run and the step that takes the session out of the roster look at the same things, so the
flag is set exactly where a completion called next succeeds, and that is where somebody is left
to apply to and a shown question is answered.  A completion that succeeds passes on what the
view shows, answers to hidden questions included, takes its own session out and leaves every
other as it was; one that does not succeed leaves everything.  As long as the questions are
counted in 64 bits, the percentage in the view says of the answers what the flag says.

* `Run.canComplete_iff_shown`: what the flag says of a run;
* `Host.serve_complete_of_ready`, `Host.serve_complete_of_unready`: the two outcomes;
* `view_predicts_completion`: all this of every live session after any run.
-/
import Screening.Proofs.Dependencies
import Screening.Proofs.Percentage
import Screening.Proofs.Refusal

namespace Screening

set_option autoImplicit false

/-! ## Runs -/

/-- The handoff passes on what the state holds. -/
structure Handoff.PassesOn (handoff : Handoff) (state : Eligibility) : Prop where
  eligible : handoff.eligible = state.eligible
  somebody : handoff.eligible ≠ []
  keys : handoff.answers.keys = state.answers.keys
  values : ∀ question, handoff.answers.get? question = (state.answers.get? question).map (·.value)

namespace Run

/-- What a run passes on if it is completed. -/
def handoff (run : Run) : Handoff where
  eligible := run.state.eligible
  answers := run.answers.map (·.value)

theorem complete_of_canComplete {run : Run} (ready : run.canComplete) :
    run.complete = .ok run.handoff := by
  rw [canComplete, Option.isNone_iff_eq_none] at ready
  rw [complete, ready]
  rfl

theorem exists_complete_eq_error {run : Run} (unready : ¬run.canComplete) :
    ∃ reason, run.complete = .error reason := by
  rw [canComplete, Option.isNone_iff_eq_none] at unready
  obtain ⟨reason, obstacle⟩ := Option.ne_none_iff_exists'.1 unready
  exact ⟨reason, complete_eq_error_iff.2 obstacle⟩

/-- A run can be completed where somebody is left and a shown question is answered. -/
theorem canComplete_iff_shown (run : Run) :
    run.canComplete ↔ run.state.eligible ≠ [] ∧
      ∃ asked ∈ run.catalog.questions, asked.visibility.isVisible run.state.answers ∧
        run.state.answers.get? asked.questionId ≠ none := by
  have some_answered : run.progress.answered ≠ 0 ↔
      ∃ asked ∈ run.catalog.questions, asked.visibility.isVisible run.state.answers ∧
        run.state.answers.get? asked.questionId ≠ none := by
    rw [ne_eq, answered_eq_zero_iff]
    simp only [not_forall, exists_prop]
    rfl
  rw [canComplete_iff, Nat.pos_iff_ne_zero, some_answered]

theorem passesOn_handoff {run : Run} (somebody : run.state.eligible ≠ []) :
    run.handoff.PassesOn run.state where
  eligible := rfl
  somebody
  keys := List.map_map
  values := Keyed.get?_map _ run.answers

end Run

/-! ## One call -/

namespace Host

variable {host : Host} (reached : host.roster.outage = none) {id : String} {run : Run}
variable (found : host.roster.live.get? id = some run)

include reached found

theorem serve_snapshot :
    host.serve (.snapshot id) = (.ok (.session (.ofRun id run)), host) := by
  rw [serve, snapshot, run_eq reached, found]
  rfl

theorem serve_complete_of_ready (ready : run.canComplete) :
    host.serve (.complete id) =
      (.ok (.handoff run.handoff), host.withLive (host.roster.live.erase id)) := by
  rw [serve, complete_eq reached, found]
  simp only [Run.complete_of_canComplete ready]
  rfl

theorem serve_complete_of_unready (unready : ¬run.canComplete) :
    ∃ reason, host.serve (.complete id) = (.error (.incomplete reason), host) := by
  obtain ⟨reason, incomplete⟩ := Run.exists_complete_eq_error unready
  refine ⟨reason, ?_⟩
  rw [serve, complete_eq reached, found]
  simp only [incomplete]
  rfl

/-- A completion that is answered was of a run that is ready, and hands it off. -/
theorem serve_complete_of_ok {told : Reply} (answered : (host.serve (.complete id)).1 = .ok told) :
    run.canComplete ∧ told = .handoff run.handoff := by
  by_cases ready : run.canComplete
  · rw [serve_complete_of_ready reached found ready, Except.ok.injEq] at answered
    exact ⟨ready, answered.symm⟩
  · obtain ⟨reason, refused⟩ := serve_complete_of_unready reached found ready
    rw [refused] at answered
    cases answered

end Host

/-! ## After any run -/

/-- What a view of a session that is live here says of its completion. -/
structure SessionView.Predicts (view : SessionView) (host : Host) (id : String) : Prop where
  canComplete_iff : view.canComplete ↔ view.state.eligible ≠ [] ∧
    ∃ asked ∈ host.catalog.questions, asked.visibility.isVisible view.state.answers ∧
      view.state.answers.get? asked.questionId ≠ none
  succeeds_iff : view.canComplete ↔ ∃ told, (host.serve (.complete id)).1 = .ok told
  percentage : host.catalog.questions.length < UInt64.size →
    (view.canComplete ↔ view.state.eligible ≠ [] ∧ view.progress.units ≠ 0)
  passesOn : ∀ told, (host.serve (.complete id)).1 = .ok told →
    ∃ handoff, told = .handoff handoff ∧ handoff.PassesOn view.state
  gone : ∀ told, (host.serve (.complete id)).1 = .ok told →
    (host.serve (.complete id)).2.roster.live.get? id = none
  others : ∀ other, other ≠ id →
    (host.serve (.complete id)).2.roster.live.get? other = host.roster.live.get? other
  unready : ¬view.canComplete →
    ∃ reason, host.serve (.complete id) = (.error (.incomplete reason), host)

theorem SessionView.predicts_ofRun {host : Host} (reached : host.roster.outage = none) {id : String}
    {run : Run} (found : host.roster.live.get? id = some run) (asks : run.catalog = host.catalog) :
    (SessionView.ofRun id run).Predicts host id where
  canComplete_iff := by
    rw [← asks]
    exact run.canComplete_iff_shown
  succeeds_iff := by
    constructor
    · intro ready
      exact ⟨_, congrArg Prod.fst (Host.serve_complete_of_ready reached found ready)⟩
    · rintro ⟨told, answered⟩
      exact (Host.serve_complete_of_ok reached found answered).1
  percentage := by
    intro counted
    rw [← asks] at counted
    exact run.canComplete_iff_percent (Nat.lt_of_le_of_lt (List.length_filter_le _ _) counted)
  passesOn := by
    intro told answered
    obtain ⟨ready, passed⟩ := Host.serve_complete_of_ok reached found answered
    have somebody := (run.canComplete_iff.1 ready).1
    exact ⟨run.handoff, passed, Run.passesOn_handoff somebody⟩
  gone := by
    intro told answered
    have ready := (Host.serve_complete_of_ok reached found answered).1
    rw [Host.serve_complete_of_ready reached found ready, Host.withLive_live, Keyed.get?_erase,
      if_pos rfl]
  others := by
    intro other apart
    have served : Served host (.complete id) _ _ := Host.served reached (by simp)
    refine served.get?_other fun same => apart ?_
    exact (Option.some.inj same).symm
  unready := Host.serve_complete_of_unready reached found

variable {catalog : Catalog} {number : UInt64} {trace : List Move} {desk : Desk}

/-- **A view predicts the completion of its session.**  After any run, a snapshot of a live
session shows a view and changes nothing, and the view can be completed exactly if a completion
called next succeeds, which is if somebody is eligible in it and a question that is shown under
its answers is answered.  The handoff then has the eligible ids of the view and, under the same
question ids, the values of its answers; the session is gone and every other is as it was. -/
theorem view_predicts_completion (ran : Execution (.fresh catalog number) trace desk) {id : String}
    (live : desk.host.roster.live.contains id) :
    ∃ view, desk.host.serve (.snapshot id) = (.ok (.session view), desk.host) ∧
      desk.host.catalog = catalog ∧ view.Predicts desk.host id := by
  have told := retold_of_execution ran
  obtain ⟨run, found⟩ := Option.isSome_iff_exists.1 live
  refine ⟨.ofRun id run, Host.serve_snapshot told.reached found, told.asks, ?_⟩
  exact SessionView.predicts_ofRun told.reached found (told.catalog_of_live id run found)

namespace Sample

/-- One question that is always shown, and one that is shown to those who are enrolled. -/
def gated : Catalog := { plain with tiers := linked.catalog.tiers }

/-- The hidden question answered, -/
def hinted : Run := (Run.start gated).after (.answered "field" (.single "law") none)

/-- and then the other one so that the first stays hidden. -/
def declined : Run := hinted.after (.answered "enrolled" (.single "no") none)

def sidelong : List Move := [
  .allocated "session-000001",
  .allocated "session-000002",
  .opened "session-000001" (.ok (.ofRun "session-000001" (.start gated))),
  .opened "session-000002" (.ok (.ofRun "session-000002" (.start gated))),
  .served (.answer "session-000001" "field" { value := .single "law" })
    (.ok (.session (.ofRun "session-000001" hinted))),
  .served (.answer "session-000001" "enrolled" { value := .single "no" })
    (.ok (.session (.ofRun "session-000001" declined)))]

def gatedDesk (live : Keyed Run) (pending : List String) : Desk where
  host := { catalog := gated, next := 3, roster := { live } }
  pending

/-- The sessions that this leaves. -/
def sidelongLive : Keyed Run :=
  ((((Keyed.empty.insert "session-000001" (.start gated)).insert "session-000002"
    (.start gated)).insert "session-000001" hinted).insert "session-000001" declined)

theorem allocated_gated :
    Execution (.fresh gated 1) [.allocated "session-000001", .allocated "session-000002"]
      (gatedDesk .empty ["session-000002", "session-000001"]) := by
  rw [← numbered_one, ← numbered_two]
  exact Execution.cons_iff.2 ⟨_, .allocate, Execution.singleton_iff.2 .allocate⟩

theorem execution_sidelong : Execution (.fresh gated 1) sidelong (gatedDesk sidelongLive []) := by
  refine allocated_gated.append ?_
  refine Execution.cons_iff.2 ⟨_, .openSession (by decide), ?_⟩
  refine Execution.cons_iff.2 ⟨_, .openSession (by decide), ?_⟩
  refine Execution.cons_iff.2 ⟨_, .serve (by simp), ?_⟩
  exact Execution.singleton_iff.2 (.serve (by simp))

end Sample

/-- A session with an answer to a hidden question and one to a shown question is ready, and a
session without answers is not. -/
theorem sample_view_predicts_completion :
    Execution (.fresh Sample.gated 1) Sample.sidelong (Sample.gatedDesk Sample.sidelongLive []) ∧
      Sample.sidelongLive.contains "session-000001" ∧
      (SessionView.ofRun "session-000001" Sample.declined).Predicts
        (Sample.gatedDesk Sample.sidelongLive []).host "session-000001" ∧
      (SessionView.ofRun "session-000001" Sample.declined).canComplete ∧
      Sample.declined.isVisible (.ofQuestion "early" Sample.field) = false ∧
      Sample.sidelongLive.contains "session-000002" ∧
      (SessionView.ofRun "session-000002" (.start Sample.gated)).Predicts
        (Sample.gatedDesk Sample.sidelongLive []).host "session-000002" ∧
      (SessionView.ofRun "session-000002" (.start Sample.gated)).canComplete = false := by
  have ready : Sample.sidelongLive.contains "session-000001" := by decide
  have other : Sample.sidelongLive.contains "session-000002" := by decide
  obtain ⟨view, shown, -, predicts⟩ := view_predicts_completion Sample.execution_sidelong ready
  obtain ⟨view', shown', -, predicts'⟩ := view_predicts_completion Sample.execution_sidelong other
  cases shown
  cases shown'
  exact ⟨Sample.execution_sidelong, ready, predicts, by decide +kernel, by decide +kernel, other,
    predicts', by decide +kernel⟩

end Screening
