/-
# Screening.Http.Route -- what a path names

A path names a resource by its segments, letter for letter.  A segment that stands
for an id may be empty inside a path but not at its end.  What follows a question
mark or a number sign does not belong to the path.  Ids are percent-decoded only
after the resource has been found.

The target of a request is its path, or a whole address, whose path comes after the
scheme and the authority.  An authority alone, or an asterisk, has no path.
-/
import Screening.Http.Percent
import Screening.Text.Search

namespace Screening.Http

open Text

set_option autoImplicit false

inductive Resource where
  | health
  | readiness
  | metrics
  | summary
  | sessions
  | session (id : String)
  | answer (session question : String)
  | reset (session : String)
  | tier (session tier : String)
  | completion (session : String)
  deriving DecidableEq, Repr

inductive Method where
  | get
  | head
  | post
  | put
  | delete
  deriving DecidableEq, Repr

namespace Method

/-- The methods that some resource knows. -/
def ofName? (name : String) : Option Method :=
  if name = "GET" then some .get
  else if name = "HEAD" then some .head
  else if name = "POST" then some .post
  else if name = "PUT" then some .put
  else if name = "DELETE" then some .delete
  else none

end Method

namespace Resource

def isPathChar (c : Char) : Bool := c != '?' && c != '#'

/-- The path in the target of a request, with what follows it. -/
def afterAuthority (target : List Char) : List Char :=
  match target with
  | '/' :: _ => target
  | _ =>
      match cut? "://".toList target with
      | none => []
      | some (_, address) => address.dropWhile fun c => c != '/' && isPathChar c

/-- The segments of the path in a target; the first one is before its first slash. -/
def segments (target : String) : List String :=
  let path := (afterAuthority target.toList).takeWhile isPathChar
  (splitOn ['/'] (by decide) path).map String.ofList

/-- The resource below the address of the sessions that these segments name. -/
def ofSessionSegments? : List String → Option Resource
  | [id] => if id.isEmpty then none else some (.session id)
  | [id, step] =>
      if step = "reset" then some (.reset id)
      else if step = "complete" then some (.completion id)
      else none
  | [id, "answers", question] => if question.isEmpty then none else some (.answer id question)
  | [id, "tiers", tierId, "questions"] => some (.tier id tierId)
  | _ => none

/-- The resource that a path names, with its ids as they are written. -/
def ofTarget? (target : String) : Option Resource :=
  match segments target with
  | ["", "health"] => some .health
  | ["", "ready"] => some .readiness
  | ["", "metrics"] => some .metrics
  | ["", "api", "v1", "eligibility", "catalog"] => some .summary
  | ["", "api", "v1", "eligibility", "sessions"] => some .sessions
  | "" :: "api" :: "v1" :: "eligibility" :: "sessions" :: below => ofSessionSegments? below
  | _ => none

/-- The same resource with its ids decoded, if all of them can be. -/
def decoded? : Resource → Option Resource
  | .session id => (decode? id).map .session
  | .answer id questionId => do return .answer (← decode? id) (← decode? questionId)
  | .reset id => (decode? id).map .reset
  | .tier id tierId => do return .tier (← decode? id) (← decode? tierId)
  | .completion id => (decode? id).map .completion
  | fixed => some fixed

/-- What is written for a resource can be read and asked about; the others are acted on. -/
def allows (resource : Resource) (method : Method) : Bool :=
  match resource with
  | .health | .readiness | .metrics | .summary | .session _ | .tier _ _ =>
      method = .get || method = .head
  | .sessions | .reset _ | .completion _ => method = .post
  | .answer _ _ => method = .put || method = .delete

end Resource

end Screening.Http
