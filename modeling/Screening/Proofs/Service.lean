/-
# Screening.Proofs.Service -- what one call can do

A host whose sessions are within reach answers each call in one step.  `Served` lists
what can come of a call on a session, with the reply and the host afterwards: first the
catalog is asked for the question, then the roster for the session, and only a session
that is found is shown, changed, or handed off.  Every error leaves the host as it was,
and no call on a session touches another session or opens a new one.

* `Host.served`: a call does one of these things;
* `Served.frame`: what no call on a session changes;
* `Served.get?_other`: no call touches a session other than its own;
* `Served.not_live`: a session that is not live stays so.
-/
import Screening.Host

namespace Screening

set_option autoImplicit false

namespace Call

/-- The session that the call is on; a start is on none yet. -/
def session? : Call → Option String
  | .start => none
  | .snapshot session => some session
  | .answer session _ _ => some session
  | .clear session _ => some session
  | .reset session => some session
  | .questions session _ => some session
  | .complete session => some session

/-- The question that the call is on, if it is on one. -/
def question? : Call → Option String
  | .answer _ question _ => some question
  | .clear _ question => some question
  | _ => none

/-- The event that the call lets happen in its session, if it does. -/
def event? : Call → Option Event
  | .answer _ question submission =>
      some (.answered question submission.value submission.subAnswers)
  | .clear _ question => some (.cleared question)
  | .reset _ => some .reset
  | _ => none

/-- The call is on no question, or on one that the catalog has. -/
def Known (catalog : Catalog) (call : Call) : Prop :=
  ∀ question, call.question? = some question → catalog.question? question ≠ none

theorem known_of_none {catalog : Catalog} {call : Call} (silent : call.question? = none) :
    call.Known catalog := by
  intro question on
  rw [silent] at on
  cases on

theorem known_of_question? {catalog : Catalog} {call : Call} {question : String}
    {asked : ReadQuestion} (on : call.question? = some question)
    (found : catalog.question? question = some asked) : call.Known catalog := by
  intro other other_on
  rw [on, Option.some.injEq] at other_on
  rw [← other_on, found]
  exact Option.some_ne_none asked

end Call

namespace Host

/-- The host with these sessions live. -/
def withLive (host : Host) (live : Keyed Run) : Host :=
  { host with roster := { host.roster with live } }

@[simp] theorem withLive_live (host : Host) (live : Keyed Run) :
    (host.withLive live).roster.live = live := rfl

@[simp] theorem withLive_next (host : Host) (live : Keyed Run) :
    (host.withLive live).next = host.next := rfl

end Host

/-- What can come of a call on a session: the reply, and the host afterwards. -/
inductive Served (host : Host) : Call → Except HostError Reply → Host → Prop where
  | unknown {call : Call} {question : String} (on : call.question? = some question)
      (absent : host.catalog.question? question = none) :
      Served host call (.error (.unknownQuestion question)) host
  | missing {call : Call} {session : String} (on : call.session? = some session)
      (known : call.Known host.catalog) (gone : host.roster.live.get? session = none) :
      Served host call (.error (.roster .notFound)) host
  | shown {session : String} {run : Run} (found : host.roster.live.get? session = some run) :
      Served host (.snapshot session) (.ok (.session (.ofRun session run))) host
  | listed {session tier : String} {run : Run}
      (found : host.roster.live.get? session = some run) :
      Served host (.questions session tier) (.ok (.tier (.ofRun tier run))) host
  | changed {call : Call} {session : String} {event : Event} {run : Run}
      (on : call.session? = some session) (happens : call.event? = some event)
      (known : call.Known host.catalog) (found : host.roster.live.get? session = some run) :
      Served host call (.ok (.session (.ofRun session (run.after event))))
        (host.withLive (host.roster.live.insert session (run.after event)))
  | refused {session : String} {run : Run} {reason : Incompletion}
      (found : host.roster.live.get? session = some run) (incomplete : run.complete = .error reason) :
      Served host (.complete session) (.error (.incomplete reason)) host
  | handedOff {session : String} {run : Run} {handoff : Handoff}
      (found : host.roster.live.get? session = some run) (completed : run.complete = .ok handoff) :
      Served host (.complete session) (.ok (.handoff handoff))
        (host.withLive (host.roster.live.erase session))

/-! ## The operations of the roster -/

namespace Roster

variable {roster : Roster} (reached : roster.outage = none)

include reached

theorem reach_eq : roster.reach = .ok roster.live := by
  rw [reach, reached]

theorem find_eq (id : String) :
    roster.find id =
      match roster.live.get? id with
      | none => .error .notFound
      | some run => .ok run := by
  simp only [find, reach_eq reached, bind, Except.bind]
  cases roster.live.get? id <;> rfl

theorem fetch_eq (id : String) : roster.fetch id = .ok (roster.live.get? id) := by
  rw [fetch, reach_eq reached]
  rfl

theorem update_eq (id : String) (change : Run → Run) :
    roster.update id change =
      match roster.live.get? id with
      | none => .error .notFound
      | some run =>
          .ok (change run, { roster with live := roster.live.insert id (change run) }) := by
  rw [update, find_eq reached]
  cases roster.live.get? id <;> rfl

theorem claim_eq {ε α : Type} (id : String) (accept : Run → Except ε α) :
    roster.claim id accept =
      match roster.live.get? id with
      | none => .error .notFound
      | some run =>
          match accept run with
          | .error reason => .ok (.error reason, roster)
          | .ok taken => .ok (.ok taken, { roster with live := roster.live.erase id }) := by
  rw [claim, find_eq reached]
  cases roster.live.get? id with
  | none => rfl
  | some run =>
      simp only [bind, Except.bind]
      cases accept run <;> rfl

theorem insert_eq (id : String) (run : Run) :
    roster.insert id run =
      if roster.live.contains id then .error .conflict
      else .ok { roster with live := roster.live.insert id run } := by
  simp only [insert, reach_eq reached, bind, Except.bind]
  cases roster.live.contains id <;> rfl

end Roster

/-! ## The calls -/

namespace Host

/-- A call on a question gets as far as the session when the catalog has the question. -/
theorem recordOn_eq (host : Host) (id question : String) (event : Event) :
    host.recordOn id question event =
      match host.catalog.question? question with
      | none => (.error (.unknownQuestion question), host)
      | some _ => host.record id event := by
  rw [recordOn, ensureQuestion]
  cases host.catalog.question? question <;> rfl

variable {host : Host} (reached : host.roster.outage = none)

include reached

theorem run_eq (id : String) :
    host.run id =
      match host.roster.live.get? id with
      | none => .error (.roster .notFound)
      | some run => .ok run := by
  simp only [Host.run, Roster.fetch_eq reached]
  cases host.roster.live.get? id <;> rfl

theorem record_eq (id : String) (event : Event) :
    host.record id event =
      match host.roster.live.get? id with
      | none => (.error (.roster .notFound), host)
      | some run =>
          (.ok (.ofRun id (run.after event)),
            host.withLive (host.roster.live.insert id (run.after event))) := by
  rw [record, Roster.update_eq reached]
  cases host.roster.live.get? id <;> rfl

theorem complete_eq (id : String) :
    host.complete id =
      match host.roster.live.get? id with
      | none => (.error (.roster .notFound), host)
      | some run =>
          match run.complete with
          | .error reason => (.error (.incomplete reason), host)
          | .ok handoff => (.ok handoff, host.withLive (host.roster.live.erase id)) := by
  rw [Host.complete, Roster.claim_eq reached]
  cases host.roster.live.get? id with
  | none => rfl
  | some run =>
      cases completed : run.complete with
      | error reason => simp only [completed]
      | ok handoff =>
          simp only [completed]
          rfl

/-- Opening a session under an id that is not live. -/
theorem openSession_eq {id : String} (fresh : host.roster.live.get? id = none) :
    host.openSession id =
      (.ok (.ofRun id (Run.start host.catalog)),
        host.withLive (host.roster.live.insert id (Run.start host.catalog))) := by
  have absent : host.roster.live.contains id = false := by
    simp [Keyed.contains, fresh]
  simp only [openSession, Roster.insert_eq reached, absent]
  rfl

/-- Letting the event of a call happen is to miss the session or to change it. -/
theorem served_record {call : Call} {session : String} {event : Event}
    (on : call.session? = some session) (happens : call.event? = some event)
    (known : call.Known host.catalog) :
    Served host call ((host.record session event).1.map .session) (host.record session event).2 := by
  rw [record_eq reached]
  cases found : host.roster.live.get? session with
  | none => exact .missing on known found
  | some run => exact .changed on happens known found

/-- Letting the event of a call on a question happen, once the question is looked up. -/
theorem served_recordOn {call : Call} {session question : String} {event : Event}
    (on : call.session? = some session) (asks : call.question? = some question)
    (happens : call.event? = some event) :
    Served host call ((host.recordOn session question event).1.map .session)
      (host.recordOn session question event).2 := by
  rw [recordOn_eq]
  cases looked : host.catalog.question? question with
  | none => exact .unknown asks looked
  | some asked => exact served_record reached on happens (Call.known_of_question? asks looked)

/-- A call on a session does one of the things listed. -/
theorem served {call : Call} (other : call ≠ .start) :
    Served host call (host.serve call).1 (host.serve call).2 := by
  cases call with
  | start => exact absurd rfl other
  | snapshot id =>
      simp only [serve, snapshot, run_eq reached]
      cases found : host.roster.live.get? id with
      | none => exact .missing rfl (Call.known_of_none rfl) found
      | some run => exact .shown found
  | answer id question submission => exact served_recordOn reached rfl rfl rfl
  | clear id question => exact served_recordOn reached rfl rfl rfl
  | reset id => exact served_record reached rfl rfl (Call.known_of_none rfl)
  | questions id tier =>
      simp only [serve, tierView, run_eq reached]
      cases found : host.roster.live.get? id with
      | none => exact .missing rfl (Call.known_of_none rfl) found
      | some run => exact .listed found
  | complete id =>
      simp only [serve, complete_eq reached]
      cases found : host.roster.live.get? id with
      | none => exact .missing rfl (Call.known_of_none rfl) found
      | some run =>
          cases completed : run.complete with
          | error reason =>
              simp only [completed]
              exact .refused found completed
          | ok handoff =>
              simp only [completed]
              exact .handedOff found completed

end Host

namespace Served

variable {host after : Host} {call : Call} {reply : Except HostError Reply}

/-- No call on a session changes the catalog, numbers a session, or puts the roster out of
reach. -/
theorem frame (served : Served host call reply after) :
    after.catalog = host.catalog ∧ after.next = host.next ∧
      after.roster.outage = host.roster.outage := by
  cases served <;> exact ⟨rfl, rfl, rfl⟩

/-- No call touches a session other than its own. -/
theorem get?_other (served : Served host call reply after) {session : String}
    (other : call.session? ≠ some session) :
    after.roster.live.get? session = host.roster.live.get? session := by
  cases served with
  | unknown | missing | shown | listed | refused => rfl
  | changed on =>
      rw [Host.withLive_live, Keyed.get?_insert]
      have apart : _ ≠ session := fun same => other (same ▸ on)
      rw [if_neg apart]
  | handedOff =>
      rw [Host.withLive_live, Keyed.get?_erase]
      have apart : _ ≠ session := fun same => other (same ▸ rfl)
      rw [if_neg apart]

/-- A session that is not live stays so. -/
theorem not_live (served : Served host call reply after) {session : String}
    (gone : host.roster.live.get? session = none) : after.roster.live.get? session = none := by
  cases served with
  | unknown | missing | shown | listed | refused => exact gone
  | @changed _ changed _ _ _ _ _ found =>
      rw [Host.withLive_live, Keyed.get?_insert]
      have other : changed ≠ session := by
        rintro rfl
        rw [gone] at found
        cases found
      rw [if_neg other, gone]
  | handedOff =>
      rw [Host.withLive_live, Keyed.get?_erase]
      split
      · rfl
      · exact gone

/-- A call on a session that is not live finds none, unless it is on an unknown question. -/
theorem reply_of_gone (served : Served host call reply after) {session : String}
    (on : call.session? = some session) (known : call.Known host.catalog)
    (gone : host.roster.live.get? session = none) : reply = .error (.roster .notFound) := by
  have unfound : ∀ {other : String} {run : Run}, call.session? = some other →
      host.roster.live.get? other ≠ some run := by
    intro other run other_on
    rw [on, Option.some.injEq] at other_on
    rw [← other_on, gone]
    simp
  cases served with
  | unknown asks absent => exact absurd absent (known _ asks)
  | missing => rfl
  | shown found | listed found | refused found | handedOff found => exact absurd found (unfound rfl)
  | changed other_on _ _ found => exact absurd found (unfound other_on)

end Served

end Screening
