/-
# Screening.Proofs.Refusal -- which calls are refused, and why

A call is refused for one reason, and the reason is read off the catalog and the live
sessions alone (`Refusal`): a call on an unknown question names it, whether its session is
live or not; any other call on a session that is not live does not find it; a completion
is refused while nobody is left, and else while no question that is shown is answered.  A
refused call leaves the sessions as they were, every other call is answered, and a start
is never refused as long as numbers last.  Whether something is answered is told by the
count; that the percentage tells the same is `Run.obstacle?_eq_of_percent`.

* `Served.refusal`, `Served.reply_of_refusal`: the reply to a call on a session is an error
  exactly for one of the reasons, and then nothing has changed;
* `Orderly.start_eq`: a start opens a session;
* `refused_calls_change_nothing`: the same over every reachable host.
-/
import Screening.Proofs.Isolation

namespace Screening

set_option autoImplicit false

/-! ## Completion -/

namespace Run

/-- There is no progress exactly where no shown question is answered. -/
theorem answered_eq_zero_iff (run : Run) :
    run.progress.answered = 0 ↔
      ∀ asked ∈ run.catalog.questions, run.isVisible asked →
        run.answers.get? asked.questionId = none := by
  simp only [progress, progressOf, List.length_eq_zero_iff, List.filter_eq_nil_iff,
    List.mem_filter, isAnswered, Keyed.contains, Bool.not_eq_true, Option.isSome_eq_false_iff,
    Option.isNone_iff_eq_none, and_imp]

theorem complete_eq_error_iff {run : Run} {reason : Incompletion} :
    run.complete = .error reason ↔ run.obstacle? = some reason := by
  cases obstacle : run.obstacle? <;> simp [complete, obstacle]

theorem complete_eq_nothingEligible_iff {run : Run} :
    run.complete = .error .nothingEligible ↔ run.state.eligible = [] := by
  rw [complete_eq_error_iff, obstacle?]
  split
  · simp_all
  · split <;> simp_all

theorem complete_eq_noAnswers_iff {run : Run} :
    run.complete = .error .noAnswers ↔
      run.state.eligible ≠ [] ∧
        ∀ asked ∈ run.catalog.questions, run.isVisible asked →
          run.answers.get? asked.questionId = none := by
  rw [complete_eq_error_iff, ← answered_eq_zero_iff, obstacle?]
  split
  · simp_all
  · split <;> simp_all

end Run

/-! ## Reasons -/

/-- Why a call is refused, with these sessions live. -/
inductive Refusal (catalog : Catalog) (live : Keyed Run) : Call → HostError → Prop where
  | unknownQuestion {call : Call} {question : String} (asks : call.question? = some question)
      (absent : catalog.question? question = none) :
      Refusal catalog live call (.unknownQuestion question)
  | notFound {call : Call} {session : String} (known : call.Known catalog)
      (on : call.session? = some session) (gone : live.get? session = none) :
      Refusal catalog live call (.roster .notFound)
  | nothingEligible {session : String} {run : Run} (found : live.get? session = some run)
      (nobody : run.state.eligible = []) :
      Refusal catalog live (.complete session) (.incomplete .nothingEligible)
  | noAnswers {session : String} {run : Run} (found : live.get? session = some run)
      (somebody : run.state.eligible ≠ [])
      (unanswered : ∀ asked ∈ catalog.questions, asked.visibility.isVisible run.state.answers →
        run.state.answers.get? asked.questionId = none) :
      Refusal catalog live (.complete session) (.incomplete .noAnswers)

/-- A completion is refused for what stands in the way of the run. -/
theorem Refusal.of_incomplete {catalog : Catalog} {live : Keyed Run} {session : String} {run : Run}
    {reason : Incompletion} (found : live.get? session = some run) (asks : run.catalog = catalog)
    (incomplete : run.complete = .error reason) :
    Refusal catalog live (.complete session) (.incomplete reason) := by
  cases reason with
  | nothingEligible => exact .nothingEligible found (Run.complete_eq_nothingEligible_iff.1 incomplete)
  | noAnswers =>
      obtain ⟨somebody, unanswered⟩ := Run.complete_eq_noAnswers_iff.1 incomplete
      exact .noAnswers found somebody (asks ▸ unanswered)

/-- A start is never refused. -/
theorem Refusal.not_start {catalog : Catalog} {live : Keyed Run} {error : HostError} :
    ¬ Refusal catalog live .start error := by
  rintro (⟨asks, -⟩ | ⟨-, on, -⟩)
  · cases asks
  · cases on

/-! ## One call -/

namespace Served

variable {host after : Host} {call : Call} {reply : Except HostError Reply} {error : HostError}

/-- An error has one of the reasons, and then nothing has changed. -/
theorem refusal (served : Served host call (.error error) after)
    (asks : ∀ id run, host.roster.live.get? id = some run → run.catalog = host.catalog) :
    Refusal host.catalog host.roster.live call error ∧ after = host := by
  cases served with
  | unknown asked absent => exact ⟨.unknownQuestion asked absent, rfl⟩
  | missing on known gone => exact ⟨.notFound known on gone, rfl⟩
  | refused found incomplete => exact ⟨.of_incomplete found (asks _ _ found) incomplete, rfl⟩

/-- A run that cannot be completed is not. -/
theorem reply_of_incomplete {session : String} (served : Served host (.complete session) reply after)
    {run : Run} {reason : Incompletion} (found : host.roster.live.get? session = some run)
    (incomplete : run.complete = .error reason) : reply = .error (.incomplete reason) := by
  cases served with
  | unknown asked => cases asked
  | missing on _ gone =>
      cases on
      rw [found] at gone
      cases gone
  | changed _ happens => cases happens
  | refused found' incomplete' =>
      rw [found, Option.some.injEq] at found'
      rw [← found', incomplete, Except.error.injEq] at incomplete'
      rw [incomplete']
  | handedOff found' completed =>
      rw [found, Option.some.injEq] at found'
      rw [← found', incomplete] at completed
      cases completed

/-- Where there is a reason, the reply is that error. -/
theorem reply_of_refusal (served : Served host call reply after)
    (asks : ∀ id run, host.roster.live.get? id = some run → run.catalog = host.catalog)
    (refusal : Refusal host.catalog host.roster.live call error) : reply = .error error := by
  cases refusal with
  | @unknownQuestion _ question asked absent =>
      cases served with
      | unknown asked' =>
          rw [asked, Option.some.injEq] at asked'
          rw [asked']
      | missing _ known => exact absurd absent (known question asked)
      | changed _ _ known => exact absurd absent (known question asked)
      | shown | listed | refused | handedOff => cases asked
  | notFound known on gone => exact served.reply_of_gone on known gone
  | nothingEligible found nobody =>
      exact served.reply_of_incomplete found (Run.complete_eq_nothingEligible_iff.2 nobody)
  | noAnswers found somebody unanswered =>
      rw [← asks _ _ found] at unanswered
      exact served.reply_of_incomplete found
        (Run.complete_eq_noAnswers_iff.2 ⟨somebody, unanswered⟩)

end Served

/-! ## Starts -/

namespace Orderly

variable {catalog : Catalog} {number : UInt64} {trace : List Move} {desk : Desk}

/-- As long as numbers last, a start opens a session. -/
theorem start_eq (orderly : Orderly catalog number trace desk)
    (few : (allocatedIds trace).length < UInt64.size) :
    desk.host.start =
      (.ok (.ofRun desk.host.allocate.1 (.start catalog)),
        desk.host.allocate.2.withLive
          (desk.host.roster.live.insert desk.host.allocate.1 (.start catalog))) := by
  have taken := orderly.allocate
  have enough : (allocatedIds (trace ++ [.allocated desk.host.allocate.1])).length ≤ UInt64.size := by
    rw [allocatedIds_concat, List.length_append]
    exact few
  have free := taken.not_live_of_pending enough List.mem_cons_self
  have opened := Host.openSession_eq taken.reached free
  rw [taken.asks] at opened
  exact opened

end Orderly

/-! ## Every call, after any run -/

variable {catalog : Catalog} {number : UInt64} {trace : List Move} {desk : Desk}

/-- A start is answered. -/
theorem not_start_of_error (ran : Execution (.fresh catalog number) trace desk)
    (few : (allocatedIds trace).length < UInt64.size) {call : Call} {error : HostError}
    (refused : (desk.host.serve call).1 = .error error) : call ≠ .start := by
  rintro rfl
  have opened := (orderly_of_execution ran (Nat.le_of_lt few)).start_eq few
  rw [Host.serve, opened] at refused
  cases refused

/-- An error has one of the reasons, and then nothing has changed. -/
theorem refusal_of_error (ran : Execution (.fresh catalog number) trace desk)
    (few : (allocatedIds trace).length < UInt64.size) {call : Call} {error : HostError}
    (refused : (desk.host.serve call).1 = .error error) :
    Refusal catalog desk.host.roster.live call error ∧ (desk.host.serve call).2 = desk.host := by
  have told := retold_of_execution ran
  have served := Host.served told.reached (not_start_of_error ran few refused)
  rw [refused] at served
  rw [← told.asks]
  exact served.refusal told.catalog_of_live

/-- Where there is a reason, the reply is that error. -/
theorem error_of_refusal (ran : Execution (.fresh catalog number) trace desk) {call : Call}
    {error : HostError} (refusal : Refusal catalog desk.host.roster.live call error) :
    (desk.host.serve call).1 = .error error := by
  have told := retold_of_execution ran
  have other : call ≠ .start := by
    rintro rfl
    exact Refusal.not_start refusal
  rw [← told.asks] at refusal
  exact (Host.served told.reached other).reply_of_refusal told.catalog_of_live refusal

/-- **A refused call changes nothing, and the reason is the right one.**  After any run, a
call is refused exactly for the reasons listed, with the error that goes with the reason,
and leaves the roster as it was; every other call is answered, and so is every start that
has its id and has still to open its session. -/
theorem refused_calls_change_nothing (ran : Execution (.fresh catalog number) trace desk)
    (few : (allocatedIds trace).length < UInt64.size) :
    (∀ call error, (desk.host.serve call).1 = .error error →
      (desk.host.serve call).2.roster = desk.host.roster) ∧
    (∀ call error, (desk.host.serve call).1 = .error error ↔
      Refusal catalog desk.host.roster.live call error) ∧
    (∀ call, (∃ told, (desk.host.serve call).1 = .ok told) ↔
      ∀ error, ¬ Refusal catalog desk.host.roster.live call error) ∧
    ∀ id ∈ desk.pending, ∃ view, (desk.host.openSession id).1 = .ok view := by
  refine ⟨?unchanged, ?reasons, ?answered, ?opened⟩
  case unchanged =>
    intro call error refused
    rw [(refusal_of_error ran few refused).2]
  case reasons =>
    intro call error
    exact ⟨fun refused => (refusal_of_error ran few refused).1, error_of_refusal ran⟩
  case answered =>
    intro call
    constructor
    · rintro ⟨told, answered⟩ error refusal
      rw [error_of_refusal ran refusal] at answered
      cases answered
    · intro allowed
      cases reply : (desk.host.serve call).1 with
      | ok told => exact ⟨told, rfl⟩
      | error error => exact absurd (refusal_of_error ran few reply).1 (allowed error)
  case opened =>
    intro id waits
    have enough := Nat.le_of_lt few
    have orderly := orderly_of_execution ran enough
    rw [Host.openSession_eq orderly.reached (orderly.not_live_of_pending enough waits)]
    exact ⟨_, rfl⟩

/-- Where two sessions are live, one of them cleared: a completion without answers, a call
on a question that nobody asks in a session that was never opened, and a call on that
session. -/
theorem sample_refused_calls_change_nothing :
    Execution (.fresh Sample.plain 1) Sample.crossing (Sample.desk Sample.crossed []) ∧
      (allocatedIds Sample.crossing).length < UInt64.size ∧
      ((Sample.desk Sample.crossed []).host.serve (.complete "session-000001")).1 =
        .error (.incomplete .noAnswers) ∧
      ((Sample.desk Sample.crossed []).host.serve (.complete "session-000001")).2.roster =
        { live := Sample.crossed } ∧
      ((Sample.desk Sample.crossed []).host.serve (.clear "session-000003" "major")).1 =
        .error (.unknownQuestion "major") ∧
      ((Sample.desk Sample.crossed []).host.serve (.clear "session-000003" "enrolled")).1 =
        .error (.roster .notFound) := by
  have few : (allocatedIds Sample.crossing).length < UInt64.size := by decide
  obtain ⟨unchanged, reasons, -, -⟩ := refused_calls_change_nothing Sample.execution_crossing few
  have unanswered := (reasons (.complete "session-000001") _).2
    (.noAnswers rfl (by decide) (by decide))
  have unheard := (reasons (.clear "session-000003" "major") _).2 (.unknownQuestion rfl rfl)
  have known : (Call.clear "session-000003" "enrolled").Known Sample.plain :=
    Call.known_of_question? rfl rfl
  have unopened := (reasons (.clear "session-000003" "enrolled") _).2 (.notFound known rfl rfl)
  exact ⟨Sample.execution_crossing, few, unanswered, unchanged _ _ unanswered, unheard, unopened⟩

end Screening
