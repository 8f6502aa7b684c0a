/-
# Screening.Host -- sessions over one catalog

A host starts sessions, numbers them, and answers calls on them.  A call on a
question first asks whether the catalog has it, and only then for the session.  A
session that is handed off is gone.

* `numbered_injective`: no two numbers give one session id;
* `catalog_record`, `catalog_recordOn`: recording an event does not change the catalog.
-/
import Screening.Roster
import Screening.Run.View

namespace Screening

open Json

set_option autoImplicit false

structure Host where
  catalog : Catalog
  roster : Roster := {}
  /-- The number of the next session. -/
  next : UInt64 := 1

inductive HostError where
  | unknownQuestion (id : String)
  | incomplete (reason : Incompletion)
  | roster (error : RosterError)
  deriving DecidableEq, Repr

namespace HostError

def message : HostError → String
  | .unknownQuestion id => "question " ++ id ++ " is not part of this questionnaire"
  | .incomplete reason => reason.message
  | .roster error => error.message

end HostError

/-- What can be asked of a host. -/
inductive Call where
  | start
  | snapshot (session : String)
  | answer (session question : String) (submission : Submission)
  | clear (session question : String)
  | reset (session : String)
  | questions (session tier : String)
  | complete (session : String)

inductive Reply where
  | session (view : SessionView)
  | tier (view : TierView)
  | handoff (handoff : Handoff)

namespace Reply

def toJson : Reply → Json
  | .session view => view.toJson
  | .tier view => view.toJson
  | .handoff passed => Handoff.codec.encode passed

end Reply

namespace Host

/-- The id of the session with this number. -/
def numbered (number : UInt64) : String :=
  String.ofList ("session-".toList ++ Text.padded 6 number.toNat)

/-- Takes the next session id, which no later session gets. -/
def allocate (host : Host) : String × Host :=
  (numbered host.next, { host with next := host.next + 1 })

/-- Opens a session under an id. -/
def openSession (host : Host) (id : String) : Except HostError SessionView × Host :=
  let run := Run.start host.catalog
  match host.roster.insert id run with
  | .error error => (.error (.roster error), host)
  | .ok roster => (.ok (.ofRun id run), { host with roster })

def start (host : Host) : Except HostError SessionView × Host :=
  let (id, host) := host.allocate
  host.openSession id

/-- The run of a session. -/
def run (host : Host) (id : String) : Except HostError Run := do
  let found ← (host.roster.fetch id).mapError .roster
  match found with
  | none => throw (.roster .notFound)
  | some run => return run

def snapshot (host : Host) (id : String) : Except HostError SessionView :=
  (host.run id).map (.ofRun id)

def tierView (host : Host) (id tierId : String) : Except HostError TierView :=
  (host.run id).map (.ofRun tierId)

/-- Whether the catalog has a question. -/
def ensureQuestion (host : Host) (id : String) : Except HostError Unit :=
  match host.catalog.question? id with
  | none => .error (.unknownQuestion id)
  | some _ => .ok ()

/-- Lets an event happen in a session. -/
def record (host : Host) (id : String) (event : Event) : Except HostError SessionView × Host :=
  match host.roster.update id (·.after event) with
  | .error error => (.error (.roster error), host)
  | .ok (run, roster) => (.ok (.ofRun id run), { host with roster })

/-- Lets an event on a question happen in a session. -/
def recordOn (host : Host) (id questionId : String) (event : Event) :
    Except HostError SessionView × Host :=
  match host.ensureQuestion questionId with
  | .error error => (.error error, host)
  | .ok () => host.record id event

def answer (host : Host) (id questionId : String) (submission : Submission) :
    Except HostError SessionView × Host :=
  host.recordOn id questionId (.answered questionId submission.value submission.subAnswers)

def clear (host : Host) (id questionId : String) : Except HostError SessionView × Host :=
  host.recordOn id questionId (.cleared questionId)

def reset (host : Host) (id : String) : Except HostError SessionView × Host :=
  host.record id .reset

/-- Hands a session off.  It is checked and taken out in one step. -/
def complete (host : Host) (id : String) : Except HostError Handoff × Host :=
  match host.roster.claim id (·.complete) with
  | .error error => (.error (.roster error), host)
  | .ok (.error reason, roster) => (.error (.incomplete reason), { host with roster })
  | .ok (.ok handoff, roster) => (.ok handoff, { host with roster })

/-- Answers a call. -/
def serve (host : Host) : Call → Except HostError Reply × Host
  | .start => (host.start).map (·.map .session) id
  | .snapshot session => ((host.snapshot session).map .session, host)
  | .answer session question submission =>
      (host.answer session question submission).map (·.map .session) id
  | .clear session question => (host.clear session question).map (·.map .session) id
  | .reset session => (host.reset session).map (·.map .session) id
  | .questions session tier => ((host.tierView session tier).map .tier, host)
  | .complete session => (host.complete session).map (·.map .handoff) id

theorem catalog_record (host : Host) (id : String) (event : Event) :
    (host.record id event).2.catalog = host.catalog := by
  simp only [record]
  split <;> rfl

theorem catalog_recordOn (host : Host) (id questionId : String) (event : Event) :
    (host.recordOn id questionId event).2.catalog = host.catalog := by
  simp only [recordOn]
  split
  · rfl
  · exact catalog_record host id event

/-- No two numbers give one session id. -/
theorem numbered_injective {first second : UInt64} (same : numbered first = numbered second) :
    first = second := by
  have chars := String.ofList_injective same
  have := Text.padded_injective (List.append_cancel_left chars)
  exact UInt64.toNat_inj.1 this

end Host

end Screening
