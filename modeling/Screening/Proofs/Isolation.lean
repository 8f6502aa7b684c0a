/-
# Screening.Proofs.Isolation -- a session is what its own calls made it

Many clients call one host, on many sessions, in any interleaving.  What a live session
holds is nevertheless a matter of that session alone: the events of the calls on it that
were answered, applied one after the other to a run that has just been started
(`retold`).  Calls on other sessions, reads and refused calls leave no trace in it, and
no answered call is lost.

The run is retold from where the session was last opened.  As long as the numbers of the
sessions have not come round, an id is opened once, and no call on it was answered before
that, so this is the whole run.

* `Served.found_after`: what one call leaves of each session;
* `Retold.step`, `retold_of_execution`: a move keeps the sessions as they are retold, and
  so does a run;
* `eventsOn_sinceOpened`: nothing is told of a session from before it was opened.
-/
import Mathlib.Data.List.DropRight
import Screening.Proofs.Handoff

namespace Screening

set_option autoImplicit false

/-! ## What is told of a session -/

namespace Move

/-- The event that the move lets happen in a session: that of a call on it that was
answered. -/
def recorded? (id : String) : Move → Option Event
  | .served call (.ok _) => if call.session? = some id then call.event? else none
  | _ => none

/-- Whether the move opens a session under the id. -/
def opens (id : String) : Move → Bool
  | .opened other (.ok _) => other = id
  | _ => false

theorem recorded?_eq_some_iff {id : String} {move : Move} {event : Event} :
    move.recorded? id = some event ↔
      ∃ call reply, move = .served call (.ok reply) ∧ call.session? = some id ∧
        call.event? = some event := by
  cases move with
  | allocated | opened => simp [recorded?]
  | served call reply => cases reply <;> simp [recorded?]

theorem opens_iff {id : String} {move : Move} :
    move.opens id ↔ ∃ view, move = .opened id (.ok view) := by
  cases move with
  | allocated | served => simp [opens]
  | opened other reply => cases reply <;> simp [opens]

end Move

/-- The events of the answered calls on a session, in their order. -/
def eventsOn (id : String) (trace : List Move) : List Event := trace.filterMap (Move.recorded? id)

/-- The moves since a session was last opened under the id. -/
def sinceOpened (id : String) (trace : List Move) : List Move :=
  trace.rtakeWhile fun move => !move.opens id

/-- The run that the answered calls on a session make of a new one. -/
def retold (catalog : Catalog) (id : String) (trace : List Move) : Run :=
  (eventsOn id (sinceOpened id trace)).foldl Run.after (.start catalog)

@[simp] theorem eventsOn_concat (id : String) (trace : List Move) (move : Move) :
    eventsOn id (trace ++ [move]) = eventsOn id trace ++ (move.recorded? id).toList := by
  cases told : move.recorded? id <;> simp [eventsOn, told]

theorem sinceOpened_concat (id : String) (trace : List Move) (move : Move) :
    sinceOpened id (trace ++ [move]) =
      if move.opens id then [] else sinceOpened id trace ++ [move] := by
  cases opened : move.opens id <;> simp [sinceOpened, opened]

theorem retold_concat (catalog : Catalog) (id : String) (trace : List Move) (move : Move) :
    retold catalog id (trace ++ [move]) =
      if move.opens id then .start catalog
      else (move.recorded? id).toList.foldl Run.after (retold catalog id trace) := by
  rw [retold, sinceOpened_concat]
  split
  · rfl
  · rw [eventsOn_concat, List.foldl_append]
    rfl

/-- A run goes through the states of its catalog. -/
theorem foldl_after (catalog : Catalog) (state : Eligibility) (events : List Event) :
    events.foldl Run.after ⟨catalog, state⟩ =
      ⟨catalog, events.foldl (Eligibility.reduce catalog) state⟩ := by
  induction events generalizing state with
  | nil => rfl
  | cons event events ih => exact ih (state.reduce catalog event)

theorem retold_eq (catalog : Catalog) (id : String) (trace : List Move) :
    retold catalog id trace =
      ⟨catalog, (eventsOn id (sinceOpened id trace)).foldl (Eligibility.reduce catalog)
        (.initial catalog)⟩ :=
  foldl_after catalog _ _

/-! ## One call -/

namespace Served

variable {host after : Host} {call : Call} {reply : Except HostError Reply}

/-- What is live after a call was live before it, and the call has let happen there at most
its own event. -/
theorem found_after (served : Served host call reply after) {id : String} {run : Run}
    (found : after.roster.live.get? id = some run) :
    ∃ prior, host.roster.live.get? id = some prior ∧
      run = ((Move.served call reply).recorded? id).toList.foldl Run.after prior := by
  cases served with
  | unknown | missing | refused => exact ⟨run, found, rfl⟩
  | shown | listed => exact ⟨run, found, by simp [Move.recorded?, Call.event?]⟩
  | @changed call session event prior on happens known before =>
      rw [Host.withLive_live, Keyed.get?_insert] at found
      by_cases same : session = id
      · rw [if_pos same, Option.some.injEq] at found
        rw [same] at on before
        refine ⟨prior, before, ?_⟩
        rw [Move.recorded?_eq_some_iff.2 ⟨call, _, rfl, on, happens⟩]
        exact found.symm
      · rw [if_neg same] at found
        exact ⟨run, found, by simp [Move.recorded?, on, same]⟩
  | @handedOff session =>
      rw [Host.withLive_live, Keyed.get?_erase] at found
      by_cases same : session = id
      · rw [if_pos same] at found
        cases found
      · rw [if_neg same] at found
        exact ⟨run, found, by simp [Move.recorded?, Call.event?]⟩

/-- An event happens in a live session only. -/
theorem live_of_recorded (served : Served host call reply after) {id : String} {event : Event}
    (told : (Move.served call reply).recorded? id = some event) :
    host.roster.live.get? id ≠ none := by
  obtain ⟨_, _, same, on, happens⟩ := Move.recorded?_eq_some_iff.1 told
  cases same
  cases served with
  | shown | listed | handedOff => cases happens
  | changed on' _ _ found =>
      rw [on, Option.some.injEq] at on'
      rw [on', found]
      exact Option.some_ne_none _

/-- The view that a change returns is the one that a snapshot gives afterwards. -/
theorem snapshot_after {told : Reply} (served : Served host call (.ok told) after)
    (reached : host.roster.outage = none) {id : String} {event : Event}
    (on : call.session? = some id) (happens : call.event? = some event) :
    (after.serve (.snapshot id)).1 = .ok told := by
  cases served with
  | shown | listed | handedOff => cases happens
  | @changed _ session _ run on' =>
      rw [on, Option.some.injEq] at on'
      rw [on', Host.serve, Host.snapshot, Host.run_eq (by exact reached), Host.withLive_live,
        Keyed.get?_insert, if_pos rfl]
      rfl

end Served

/-- A session is not opened under an id that is live. -/
theorem Host.openSession_of_live {host : Host} (reached : host.roster.outage = none) {id : String}
    {run : Run} (found : host.roster.live.get? id = some run) :
    host.openSession id = (.error (.roster .conflict), host) := by
  have taken : host.roster.live.contains id = true := by
    simp [Keyed.contains, found]
  simp only [openSession, Roster.insert_eq reached, taken, if_true]

theorem Step.served {desk next : Desk} {call : Call} {reply : Except HostError Reply}
    (moved : Step desk (.served call reply) next) (reached : desk.host.roster.outage = none) :
    Served desk.host call reply next.host := by
  cases moved with
  | serve other => exact Host.served reached other

/-- An event happens in a live session only. -/
theorem Step.live_of_recorded {desk next : Desk} {move : Move} (moved : Step desk move next)
    (reached : desk.host.roster.outage = none) {id : String} {event : Event}
    (told : move.recorded? id = some event) : desk.host.roster.live.get? id ≠ none := by
  cases moved with
  | allocate | openSession => cases told
  | serve other => exact (Host.served reached other).live_of_recorded told

/-- A session is opened under an id that waits for one. -/
theorem Step.pending_of_opens {desk next : Desk} {move : Move} (moved : Step desk move next)
    {id : String} (opened : move.opens id) : id ∈ desk.pending := by
  cases moved with
  | allocate | serve => cases opened
  | openSession waits =>
      obtain ⟨view, same⟩ := Move.opens_iff.1 opened
      injection same with here
      exact here ▸ waits

/-! ## Runs -/

/-- Every live session is what the moves tell of it. -/
structure Retold (catalog : Catalog) (trace : List Move) (desk : Desk) : Prop where
  reached : desk.host.roster.outage = none
  asks : desk.host.catalog = catalog
  held : ∀ id run, desk.host.roster.live.get? id = some run → run = retold catalog id trace

namespace Retold

theorem catalog_of_live {catalog : Catalog} {trace : List Move} {desk : Desk}
    (told : Retold catalog trace desk) (id : String) (run : Run)
    (found : desk.host.roster.live.get? id = some run) : run.catalog = desk.host.catalog := by
  rw [told.held id run found, retold_eq, told.asks]

theorem fresh (catalog : Catalog) (number : UInt64) : Retold catalog [] (.fresh catalog number) where
  reached := rfl
  asks := rfl
  held := by
    intro id run found
    cases found

variable {catalog : Catalog} {trace : List Move} {desk : Desk}

theorem allocate (told : Retold catalog trace desk) :
    Retold catalog (trace ++ [.allocated desk.host.allocate.1])
      { host := desk.host.allocate.2, pending := desk.host.allocate.1 :: desk.pending } where
  reached := told.reached
  asks := told.asks
  held := by
    intro id run found
    rw [retold_concat]
    exact told.held id run found

/-- Opening a session, or being refused one because the id is taken. -/
theorem openSession (told : Retold catalog trace desk) (id : String) :
    Retold catalog (trace ++ [.opened id (desk.host.openSession id).1])
      { host := (desk.host.openSession id).2, pending := desk.pending.erase id } := by
  cases taken : desk.host.roster.live.get? id with
  | some run =>
      rw [Host.openSession_of_live told.reached taken]
      refine ⟨told.reached, told.asks, fun other run found => ?_⟩
      rw [retold_concat]
      exact told.held other run found
  | none =>
      rw [Host.openSession_eq told.reached taken]
      refine ⟨told.reached, told.asks, fun other run found => ?_⟩
      rw [retold_concat]
      rw [Host.withLive_live, Keyed.get?_insert, told.asks] at found
      by_cases same : id = other
      · rw [if_pos same, Option.some.injEq] at found
        rw [if_pos (by simpa [Move.opens] using same), found]
      · rw [if_neg same] at found
        rw [if_neg (by simpa [Move.opens] using same)]
        exact told.held other run found

theorem served (told : Retold catalog trace desk) {call : Call} {reply : Except HostError Reply}
    {after : Host} (served : Served desk.host call reply after) :
    Retold catalog (trace ++ [.served call reply]) { desk with host := after } := by
  obtain ⟨same_catalog, -, same_outage⟩ := served.frame
  refine ⟨same_outage.trans told.reached, same_catalog.trans told.asks, fun id run found => ?_⟩
  obtain ⟨prior, before, rfl⟩ := served.found_after found
  rw [retold_concat, told.held id prior before]
  rfl

/-- **A move keeps the sessions as they are retold.** -/
theorem step (told : Retold catalog trace desk) {move : Move} {next : Desk}
    (moved : Step desk move next) : Retold catalog (trace ++ [move]) next := by
  cases moved with
  | allocate => exact told.allocate
  | openSession => exact told.openSession _
  | serve other => exact told.served (Host.served told.reached other)

end Retold

variable {catalog : Catalog} {number : UInt64} {trace : List Move} {last : Desk}

/-- So does a run, however many sessions it opens. -/
theorem retold_of_execution (ran : Execution (.fresh catalog number) trace last) :
    Retold catalog trace last := by
  induction ran with
  | idle => exact .fresh catalog number
  | step _ moved earlier => exact earlier.step moved

/-- As long as the numbers have not come round, no call on a session was answered before it
was opened. -/
theorem eventsOn_of_not_opened (ran : Execution (.fresh catalog number) trace last)
    (few : (allocatedIds trace).length ≤ UInt64.size) {id : String}
    (unopened : id ∉ openedIds trace) : eventsOn id trace = [] := by
  induction ran with
  | idle => rfl
  | step ran moved earlier =>
      rw [allocatedIds_concat, List.length_append] at few
      have enough := Nat.le_trans (Nat.le_add_right _ _) few
      have orderly := orderly_of_execution ran enough
      rw [openedIds_concat, List.mem_append, not_or] at unopened
      rw [eventsOn_concat, earlier enough unopened.1, List.nil_append, Option.toList_eq_nil_iff]
      by_contra told
      obtain ⟨event, told⟩ := Option.ne_none_iff_exists'.1 told
      exact unopened.1 (orderly.live id (moved.live_of_recorded orderly.reached told))

/-- So what is told of a session since it was opened is all that is told of it. -/
theorem eventsOn_sinceOpened (ran : Execution (.fresh catalog number) trace last)
    (few : (allocatedIds trace).length ≤ UInt64.size) (id : String) :
    eventsOn id (sinceOpened id trace) = eventsOn id trace := by
  induction ran with
  | idle => rfl
  | @step trace desk next move ran moved earlier =>
      rw [allocatedIds_concat, List.length_append] at few
      have enough := Nat.le_trans (Nat.le_add_right _ _) few
      rw [sinceOpened_concat, eventsOn_concat]
      split
      · next opened =>
          -- the id was waiting for its session, so no session had it before
          have waits := moved.pending_of_opens opened
          have orderly := orderly_of_execution ran enough
          have unused := orderly.not_opened_of_pending enough waits
          obtain ⟨view, rfl⟩ := Move.opens_iff.1 opened
          rw [eventsOn_of_not_opened ran enough unused]
          rfl
      · rw [eventsOn_concat, earlier enough]

/-- **Session isolation.**  Whatever clients do at once, a live session holds what the answered
calls on it make of a new one, and nothing else.  (A run up to any of its moves is a run, so
this holds at every point.)  Where the numbers have not come round, that is every answered
call on its id.  The view that a change returns is the one that a snapshot gives right after
it. -/
theorem session_holds_its_own_events (ran : Execution (.fresh catalog number) trace last) :
    (∀ id run, last.host.roster.live.get? id = some run →
      run.catalog = catalog ∧
        run.state = (eventsOn id (sinceOpened id trace)).foldl (Eligibility.reduce catalog)
          (.initial catalog)) ∧
    ((allocatedIds trace).length ≤ UInt64.size →
      ∀ id run, last.host.roster.live.get? id = some run →
        run.state = (eventsOn id trace).foldl (Eligibility.reduce catalog) (.initial catalog)) ∧
    ∀ before after call told id event,
      trace = before ++ .served call (.ok told) :: after →
      call.session? = some id → call.event? = some event →
      ∃ desk, Execution (.fresh catalog number) (before ++ [.served call (.ok told)]) desk ∧
        Execution desk after last ∧ (desk.host.serve (.snapshot id)).1 = .ok told := by
  have held : ∀ id run, last.host.roster.live.get? id = some run →
      run = ⟨catalog, (eventsOn id (sinceOpened id trace)).foldl (Eligibility.reduce catalog)
        (.initial catalog)⟩ := by
    intro id run found
    rw [← retold_eq]
    exact (retold_of_execution ran).held id run found
  refine ⟨?since, ?whole, ?views⟩
  case since =>
    intro id run found
    rw [held id run found]
    exact ⟨rfl, rfl⟩
  case whole =>
    intro few id run found
    rw [held id run found, eventsOn_sinceOpened ran few]
  case views =>
    intro before after call told id event cut on happens
    rw [cut, ← List.singleton_append] at ran
    obtain ⟨desk, sofar, onward⟩ := Execution.append_iff.1 ran
    obtain ⟨next, moved, later⟩ := Execution.append_iff.1 onward
    refine ⟨next, sofar.append moved, later, ?_⟩
    have reached := (retold_of_execution sofar).reached
    have served := (Execution.singleton_iff.1 moved).served reached
    exact served.snapshot_after reached on happens

namespace Sample

/-- Two sessions whose calls cross, one of them on a question that nobody asks. -/
def crossing : List Move := visits.take 5 ++ [
  .served (.clear "session-000001" "enrolled")
    (.ok (.session (.ofRun "session-000001" ((Run.start plain).after (.cleared "enrolled"))))),
  .served (.answer "session-000002" "major" { value := .single "law" })
    (.error (.unknownQuestion "major")),
  .served (.snapshot "session-000002") (.ok (.session (.ofRun "session-000002" answered)))]

/-- The sessions that this leaves. -/
def crossed : Keyed Run :=
  (((Keyed.empty.insert "session-000002" (.start plain)).insert "session-000001"
    (.start plain)).insert "session-000002" answered).insert "session-000001"
      ((Run.start plain).after (.cleared "enrolled"))

theorem execution_crossing : Execution (.fresh plain 1) crossing (desk crossed []) := by
  refine execution_answered.append ?_
  refine Execution.cons_iff.2 ⟨_, .serve (by simp), ?_⟩
  refine Execution.cons_iff.2 ⟨_, .serve (by simp), ?_⟩
  exact Execution.singleton_iff.2 (.serve (by simp))

end Sample

theorem sample_session_holds_its_own_events :
    Execution (.fresh Sample.plain 1) Sample.crossing (Sample.desk Sample.crossed []) ∧
      (allocatedIds Sample.crossing).length ≤ UInt64.size ∧
      Sample.crossed.get? "session-000002" = some Sample.answered ∧
      eventsOn "session-000002" Sample.crossing =
        [.answered "enrolled" (.single "yes") none] ∧
      Sample.answered.state =
        (eventsOn "session-000002" Sample.crossing).foldl (Eligibility.reduce Sample.plain)
          (.initial Sample.plain) ∧
      ∃ desk, Execution (.fresh Sample.plain 1) (Sample.crossing.take 6) desk ∧
        (desk.host.serve (.snapshot "session-000001")).1 =
          .ok (.session (.ofRun "session-000001"
            ((Run.start Sample.plain).after (.cleared "enrolled")))) := by
  have few : (allocatedIds Sample.crossing).length ≤ UInt64.size := by decide
  obtain ⟨-, whole, views⟩ := session_holds_its_own_events Sample.execution_crossing
  refine ⟨Sample.execution_crossing, few, rfl, rfl, whole few _ _ rfl, ?_⟩
  obtain ⟨desk, sofar, -, same⟩ :=
    views (Sample.crossing.take 5) _ (.clear "session-000001" "enrolled") _ "session-000001" _
      rfl rfl rfl
  exact ⟨desk, sofar, same⟩

end Screening
