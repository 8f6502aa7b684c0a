/-
# Screening.Roster -- the live sessions

A roster keeps the runs that have been started and not yet handed off, each under
its session id.  Every operation is one step, so of several calls on one session
each sees what the one before it left.  A roster that is out of reach, or whose
session was abandoned in the middle of a change, refuses every operation.
-/
import Screening.Run

namespace Screening

set_option autoImplicit false

structure Roster where
  live : Keyed Run := .empty
  /-- Why no operation is possible, if none is. -/
  outage : Option String := none

inductive RosterError where
  | conflict
  | notFound
  | unavailable (reason : String)
  deriving DecidableEq, Repr

namespace RosterError

def message : RosterError → String
  | .conflict => "session already exists"
  | .notFound => "session not found"
  | .unavailable reason => "session registry unavailable: " ++ reason

end RosterError

namespace Roster

/-- The live sessions, if they are within reach. -/
def reach (roster : Roster) : Except RosterError (Keyed Run) :=
  match roster.outage with
  | none => .ok roster.live
  | some reason => .error (.unavailable reason)

def insert (roster : Roster) (id : String) (run : Run) : Except RosterError Roster := do
  let live ← roster.reach
  if live.contains id then throw .conflict
  return { roster with live := live.insert id run }

def fetch (roster : Roster) (id : String) : Except RosterError (Option Run) := do
  let live ← roster.reach
  return live.get? id

/-- The run of a live session. -/
def find (roster : Roster) (id : String) : Except RosterError Run := do
  let live ← roster.reach
  match live.get? id with
  | none => throw .notFound
  | some run => return run

/-- Changes a live session and returns what it has become. -/
def update (roster : Roster) (id : String) (change : Run → Run) :
    Except RosterError (Run × Roster) := do
  let run ← roster.find id
  return (change run, { roster with live := roster.live.insert id (change run) })

/-- Takes a live session out of the roster if it is accepted; else it stays. -/
def claim {ε α : Type} (roster : Roster) (id : String) (accept : Run → Except ε α) :
    Except RosterError (Except ε α × Roster) := do
  let run ← roster.find id
  match accept run with
  | .error reason => return (.error reason, roster)
  | .ok taken => return (.ok taken, { roster with live := roster.live.erase id })

/-- What a roster says after a session was abandoned in the middle of a change. -/
def abandonedReason : String := "session mutex poisoned"

/-- Leaves a live session in the middle of a change. -/
def abandon (roster : Roster) (id : String) : Except RosterError Roster := do
  let _ ← roster.find id
  return { roster with outage := some abandonedReason }

end Roster

end Screening
