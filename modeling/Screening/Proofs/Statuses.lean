/-
# Screening.Proofs.Statuses -- the status of every response

Requests reach a site one after the other, from an empty roster on.  The status of each
response follows from the exchanges before it alone.  A session is live from the start that
named it until the completion that handed it off (`Live`), and its state is what the recorded
events make of a new one (`stateOf`).  A start answers 201.  Any other call answers 404 where it
is on an unknown question or on a session that is not live, else 422 where it completes a
session with nobody left or with no shown question answered, and else 200 (`StatusDue`).

That no call meets a conflict rests on the session ids: as long as their numbers last, an id
is taken for one session only.  Errors come for the reasons of `Refusal`, so what is left is to
read these reasons off the exchanges.

* `live_iff_of_execution`: what is live is what was opened and not handed off;
* `Played.notFound_iff`, `Played.incomplete_iff`: the reasons, read off the exchanges;
* `status_due_of_requests`: the status of every response, and that a refused request leaves
  the site as it was.
-/
import Screening.Proofs.Exchange
import Screening.Proofs.Refusal

namespace Screening

set_option autoImplicit false

/-! ## What is live -/

/-- A call leaves a session live, unless it hands that session off. -/
theorem Served.live_after {host after : Host} {call : Call} {reply : Except HostError Reply}
    (served : Served host call reply after) {id : String}
    (live : host.roster.live.get? id ≠ none)
    (kept : (Move.served call reply).handedOff? ≠ some id) :
    after.roster.live.get? id ≠ none := by
  cases served with
  | unknown | missing | shown | listed | refused => exact live
  | changed =>
      rw [Host.withLive_live, Keyed.get?_insert]
      split
      · exact Option.some_ne_none _
      · exact live
  | @handedOff session =>
      have other : session ≠ id := fun same => kept (congrArg some same)
      rw [Host.withLive_live, Keyed.get?_erase, if_neg other]
      exact live

section

variable {catalog : Catalog} {number : UInt64} {trace : List Move} {last : Desk}

/-- A session that was opened stays live until it is handed off. -/
theorem live_of_opened (ran : Execution (.fresh catalog number) trace last)
    (few : (allocatedIds trace).length ≤ UInt64.size) {id : String} (opened : id ∈ openedIds trace)
    (kept : id ∉ handedOffIds trace) : last.host.roster.live.get? id ≠ none := by
  induction ran with
  | idle => cases opened
  | @step trace desk next move ran moved earlier =>
      rw [allocatedIds_concat, List.length_append] at few
      have enough := Nat.le_trans (Nat.le_add_right _ _) few
      have orderly := orderly_of_execution ran enough
      rw [openedIds_concat, List.mem_append, Option.mem_toList] at opened
      rw [handedOffIds_concat, List.mem_append, not_or, Option.mem_toList] at kept
      have before (was_open : id ∈ openedIds trace) := earlier enough was_open kept.1
      -- only a move that opens a session adds to the ids that were opened
      cases moved with
      | allocate => exact before (opened.resolve_right nofun)
      | @openSession fresh waits =>
          have free := orderly.not_live_of_pending enough waits
          rw [Host.openSession_eq orderly.reached free, Host.withLive_live, Keyed.get?_insert]
          split
          · exact Option.some_ne_none _
          · next other =>
              exact before (opened.resolve_right fun now => other (Option.some.inj now))
      | serve call =>
          have served := Host.served orderly.reached call
          exact served.live_after (before (opened.resolve_right nofun)) kept.2

/-- What is live is what was started and not handed off. -/
theorem live_iff_of_execution (ran : Execution (.fresh catalog number) trace last)
    (few : (allocatedIds trace).length ≤ UInt64.size) (id : String) :
    last.host.roster.live.get? id ≠ none ↔ id ∈ startedIds trace ∧ id ∉ handedOffIds trace := by
  have orderly := orderly_of_execution ran few
  rw [orderly.startedIds_eq]
  constructor
  · intro live
    exact ⟨orderly.live id live, fun passed => live (orderly.passed id passed).2⟩
  · rintro ⟨opened, kept⟩
    exact live_of_opened ran few opened kept

end

namespace Http

/-! ## What the exchanges tell -/

/-- A start has named the session, and no completion has handed it off. -/
def Live (history : List Exchange) (id : String) : Prop :=
  id ∈ history.filterMap Exchange.started? ∧ id ∉ history.filterMap Exchange.handedOff?

/-- What the recorded events make of a new session. -/
def stateOf (catalog : Catalog) (history : List Exchange) (id : String) : Eligibility :=
  (history.filterMap (Exchange.recorded? id)).foldl (Eligibility.reduce catalog)
    (.initial catalog)

/-- The call is on a question that nobody asks, or on a session that is not live. -/
def NotFound (catalog : Catalog) (history : List Exchange) (call : Call) : Prop :=
  (∃ question, call.question? = some question ∧ catalog.question? question = none) ∨
    ∃ id, call.session? = some id ∧ ¬ Live history id

/-- The call completes a session in which nobody is eligible or no shown question is answered. -/
def Incomplete (catalog : Catalog) (history : List Exchange) (call : Call) : Prop :=
  ∃ id, call = .complete id ∧
    ((stateOf catalog history id).eligible = [] ∨
      ∀ asked ∈ catalog.questions,
        asked.visibility.isVisible (stateOf catalog history id).answers →
          (stateOf catalog history id).answers.get? asked.questionId = none)

/-- The status that is due for a call after these exchanges. -/
structure StatusDue (catalog : Catalog) (history : List Exchange) (call : Call) (status : Nat) :
    Prop where
  created : call = .start → status = 201
  not_found : call ≠ .start → (status = 404 ↔ NotFound catalog history call)
  incomplete : call ≠ .start →
    (status = 422 ↔ ¬ NotFound catalog history call ∧ Incomplete catalog history call)
  answered : call ≠ .start →
    (status = 200 ↔ ¬ NotFound catalog history call ∧ ¬ Incomplete catalog history call)
  no_conflict : status ≠ 409
  available : status ≠ 500

namespace Played

variable {catalog : Catalog} {number : UInt64} {requests : List Request} {journal : Journal}
  {trace : List Move} {call : Call}

theorem live_iff (played : Played catalog number requests journal trace)
    (few : requests.countP Request.isStart ≤ UInt64.size) (id : String) :
    Live journal.history id ↔ journal.site.host.roster.live.get? id ≠ none := by
  rw [Live, played.started, played.handedOff]
  exact (live_iff_of_execution played.ran (played.starts ▸ few) id).symm

/-- A live session is in the state that the exchanges tell. -/
theorem state_eq (played : Played catalog number requests journal trace)
    (few : requests.countP Request.isStart ≤ UInt64.size) {id : String} {run : Run}
    (found : journal.site.host.roster.live.get? id = some run) :
    run.state = stateOf catalog journal.history id := by
  rw [stateOf, played.recorded id, ← eventsOn_sinceOpened played.ran (played.starts ▸ few),
    (retold_of_execution played.ran).held id run found, retold_eq]

/-- The reasons for 404. -/
theorem notFound_iff (played : Played catalog number requests journal trace)
    (few : requests.countP Request.isStart ≤ UInt64.size) :
    NotFound catalog journal.history call ↔
      ∃ error, Refusal catalog journal.site.host.roster.live call error ∧
        refusalStatus error = 404 := by
  constructor
  · intro missing
    by_cases known : call.Known catalog
    · obtain ⟨question, asks, absent⟩ | ⟨id, on, gone⟩ := missing
      · exact absurd absent (known question asks)
      · rw [played.live_iff few, not_not] at gone
        exact ⟨_, .notFound known on gone, rfl⟩
    · obtain ⟨question, unknown⟩ := not_forall.1 known
      obtain ⟨asks, absent⟩ := Classical.not_imp.1 unknown
      exact ⟨_, .unknownQuestion asks (not_not.1 absent), rfl⟩
  · rintro ⟨_, refusal, status⟩
    cases refusal with
    | unknownQuestion asks absent => exact .inl ⟨_, asks, absent⟩
    | notFound known on gone => exact .inr ⟨_, on, fun live => (played.live_iff few _).1 live gone⟩
    | nothingEligible | noAnswers => cases status

/-- A completion of a live session is found. -/
theorem found_of_live (played : Played catalog number requests journal trace)
    (few : requests.countP Request.isStart ≤ UInt64.size) {id : String} {run : Run}
    (found : journal.site.host.roster.live.get? id = some run) :
    ¬ NotFound catalog journal.history (.complete id) := by
  rintro (⟨question, asks, -⟩ | ⟨_, ⟨⟩, gone⟩)
  · cases asks
  · rw [played.live_iff few, found] at gone
    exact gone (Option.some_ne_none run)

/-- The reasons for 422. -/
theorem incomplete_iff (played : Played catalog number requests journal trace)
    (few : requests.countP Request.isStart ≤ UInt64.size) :
    ¬ NotFound catalog journal.history call ∧ Incomplete catalog journal.history call ↔
      ∃ error, Refusal catalog journal.site.host.roster.live call error ∧
        refusalStatus error = 422 := by
  constructor
  · rintro ⟨heard, id, rfl, stuck⟩
    have live : Live journal.history id := by
      by_contra gone
      exact heard (.inr ⟨id, rfl, gone⟩)
    obtain ⟨run, found⟩ := Option.ne_none_iff_exists'.1 ((played.live_iff few id).1 live)
    rw [← played.state_eq few found] at stuck
    by_cases nobody : run.state.eligible = []
    · exact ⟨_, .nothingEligible found nobody, rfl⟩
    · exact ⟨_, .noAnswers found nobody (stuck.resolve_left nobody), rfl⟩
  · rintro ⟨_, refusal, status⟩
    cases refusal with
    | unknownQuestion | notFound => cases status
    | nothingEligible found nobody =>
        exact ⟨played.found_of_live few found, _, rfl, .inl (played.state_eq few found ▸ nobody)⟩
    | noAnswers found somebody unanswered =>
        exact ⟨played.found_of_live few found, _, rfl,
          .inr (played.state_eq few found ▸ unanswered)⟩

end Played

/-! ## Statuses -/

/-- A refusal is a 404 or a 422. -/
theorem status_of_refusal {catalog : Catalog} {live : Keyed Run} {call : Call} {error : HostError}
    (refusal : Refusal catalog live call error) :
    refusalStatus error = 404 ∨ refusalStatus error = 422 := by
  cases refusal with
  | unknownQuestion | notFound => exact .inl rfl
  | nothingEligible | noAnswers => exact .inr rfl

theorem StatusDue.of_start (catalog : Catalog) (history : List Exchange) :
    StatusDue catalog history .start 201 where
  created := fun _ => rfl
  not_found := fun other => absurd rfl other
  incomplete := fun other => absurd rfl other
  answered := fun other => absurd rfl other
  no_conflict := by decide
  available := by decide

namespace Played

variable {catalog : Catalog} {number : UInt64} {requests : List Request} {journal : Journal}
  {trace : List Move} {call : Call}

/-- A call that is answered was found, and completes nothing that cannot be completed. -/
theorem due_of_answered (played : Played catalog number requests journal trace)
    (few : requests.countP Request.isStart ≤ UInt64.size) (other : call ≠ .start)
    (allowed : ∀ error, ¬ Refusal catalog journal.site.host.roster.live call error) :
    StatusDue catalog journal.history call 200 := by
  have found : ¬ NotFound catalog journal.history call := by
    intro missing
    obtain ⟨error, refusal, -⟩ := (played.notFound_iff few).1 missing
    exact allowed error refusal
  have completable : ¬ Incomplete catalog journal.history call := by
    intro stuck
    obtain ⟨error, refusal, -⟩ := (played.incomplete_iff few).1 ⟨found, stuck⟩
    exact allowed error refusal
  exact ⟨fun start => absurd start other, by simp [found], by simp [completable],
    by simp [found, completable], by decide, by decide⟩

/-- A call that is refused has the status that goes with its one reason. -/
theorem due_of_refused (played : Played catalog number requests journal trace)
    (few : requests.countP Request.isStart < UInt64.size) (other : call ≠ .start)
    {error : HostError} (refusal : Refusal catalog journal.site.host.roster.live call error) :
    StatusDue catalog journal.history call (refusalStatus error) := by
  -- the reply is one error, so there is one reason
  have only (reason : HostError)
      (refused : Refusal catalog journal.site.host.roster.live call reason) : reason = error := by
    have first := error_of_refusal played.ran refused
    rw [error_of_refusal played.ran refusal] at first
    exact (Except.error.inj first).symm
  have missing : NotFound catalog journal.history call ↔ refusalStatus error = 404 := by
    rw [played.notFound_iff (Nat.le_of_lt few)]
    exact ⟨fun ⟨reason, refused, status⟩ => only reason refused ▸ status,
      fun status => ⟨error, refusal, status⟩⟩
  have stuck : ¬ NotFound catalog journal.history call ∧ Incomplete catalog journal.history call ↔
      refusalStatus error = 422 := by
    rw [played.incomplete_iff (Nat.le_of_lt few)]
    exact ⟨fun ⟨reason, refused, status⟩ => only reason refused ▸ status,
      fun status => ⟨error, refusal, status⟩⟩
  refine ⟨fun start => absurd start other, fun _ => missing.symm, fun _ => stuck.symm,
    fun _ => ?answered, ?no_conflict, ?available⟩
  case answered =>
    rcases status_of_refusal refusal with status | status
    · simp [status, missing.2 status]
    · simp [status, (stuck.2 status).2]
  case no_conflict => rcases status_of_refusal refusal with status | status <;> simp [status]
  case available => rcases status_of_refusal refusal with status | status <;> simp [status]

end Played

variable (catalog : Catalog) (number : UInt64) (ready : Bool) (earlier : List Request)
  {request : Request} {call : Call}

/-- **The status of every response.**  Whatever requests came before, a request that makes a
call is answered with the status that is due after the exchanges so far, and where it is
refused the site is left as it was. -/
theorem status_due_of_requests (reaches : request.call? = some call)
    (few : (earlier ++ [request]).countP Request.isStart < UInt64.size) :
    let journal := Journal.ofRequests (.fresh catalog number ready) earlier
    StatusDue catalog journal.history call (handle journal.site request).1.status ∧
      ((handle journal.site request).1.status = 404 ∨
        (handle journal.site request).1.status = 422 →
          (handle journal.site request).2 = journal.site) := by
  intro journal
  obtain ⟨trace, played⟩ := exists_played catalog number ready earlier
  have fewer : earlier.countP Request.isStart < UInt64.size := by
    rw [List.countP_append] at few
    exact Nat.lt_of_le_of_lt (Nat.le_add_right _ _) few
  have numbered : (allocatedIds trace).length < UInt64.size := played.starts ▸ fewer
  obtain ⟨status, -, next⟩ := handle_of_call? reaches journal.site
  by_cases start : call = .start
  · subst start
    have opened := (orderly_of_execution played.ran (Nat.le_of_lt numbered)).start_eq numbered
    have created : (handle journal.site request).1.status = 201 := by
      rw [status, Host.serve, opened]
      rfl
    rw [created]
    exact ⟨.of_start catalog journal.history, by simp⟩
  · rw [successStatus_of_ne_start start] at status
    cases reply : (journal.site.host.serve call).1 with
    | ok told =>
        have done : (handle journal.site request).1.status = 200 := by
          rw [status, reply]
          rfl
        rw [done]
        have allowed (error : HostError)
            (refusal : Refusal catalog journal.site.host.roster.live call error) : False := by
          have refused := error_of_refusal played.ran refusal
          rw [reply] at refused
          cases refused
        exact ⟨played.due_of_answered (Nat.le_of_lt fewer) start allowed, by simp⟩
    | error error =>
        have done : (handle journal.site request).1.status = refusalStatus error := by
          rw [status, reply]
          rfl
        obtain ⟨refusal, same⟩ := refusal_of_error played.ran numbered reply
        rw [done, next]
        refine ⟨played.due_of_refused fewer start refusal, fun _ => ?_⟩
        exact congrArg (fun host => { journal.site with host }) same

namespace Sample

def opening : Request where
  method := "POST"
  target := "/api/v1/eligibility/sessions"

def answering : Request where
  method := "PUT"
  target := "/api/v1/eligibility/sessions/session-000001/answers/enrolled"
  contentType := some "application/json"
  body := "\x7b\"value\":\"yes\"\x7d"

def completing : Request where
  method := "POST"
  target := "/api/v1/eligibility/sessions/session-000001/complete"

/-- A completion that comes too early, and one that is in time. -/
def visit : List Request := [opening, completing, answering, completing]

theorem call_completing : completing.call? = some (.complete "session-000001") :=
  Request.call?_eq_some_iff.2 ⟨.completion "session-000001", .post, .completion "session-000001",
    by decide +kernel, rfl, rfl, by decide +kernel, rfl⟩

/-- The journal of the first requests of the visit. -/
def sofar (count : Nat) : Journal :=
  .ofRequests (.fresh Screening.Sample.plain 1 true) (visit.take count)

theorem few_starts (count : Nat) :
    (visit.take count ++ [completing]).countP Request.isStart < UInt64.size := by
  refine Nat.lt_of_le_of_lt List.countP_le_length ?_
  have short := List.length_take_le' count visit
  have four : visit.length = 4 := rfl
  rw [List.length_append, List.length_singleton, UInt64.size]
  omega

theorem refused_twice :
    (handle (sofar 1).site completing).1.status = 422 ∧
      (handle (sofar 4).site completing).1.status = 404 := by
  decide +kernel

end Sample

theorem sample_status_due :
    Sample.completing.call? = some (.complete "session-000001") ∧
      (∀ count, (Sample.visit.take count ++ [Sample.completing]).countP Request.isStart <
        UInt64.size) ∧
      Incomplete Screening.Sample.plain (Sample.sofar 1).history (.complete "session-000001") ∧
      (handle (Sample.sofar 1).site Sample.completing).2 = (Sample.sofar 1).site ∧
      NotFound Screening.Sample.plain (Sample.sofar 4).history (.complete "session-000001") ∧
      (handle (Sample.sofar 4).site Sample.completing).2 = (Sample.sofar 4).site := by
  obtain ⟨early, late⟩ := Sample.refused_twice
  obtain ⟨due, unchanged⟩ := status_due_of_requests Screening.Sample.plain 1 true
    (Sample.visit.take 1) Sample.call_completing (Sample.few_starts 1)
  obtain ⟨due', unchanged'⟩ := status_due_of_requests Screening.Sample.plain 1 true
    (Sample.visit.take 4) Sample.call_completing (Sample.few_starts 4)
  exact ⟨Sample.call_completing, Sample.few_starts, ((due.incomplete nofun).1 early).2,
    unchanged (.inr early), (due'.not_found nofun).1 late, unchanged' (.inl late)⟩

end Http

end Screening
