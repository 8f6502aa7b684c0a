/-
# Screening.Proofs.Exchange -- requests served one after the other

A site is asked over HTTP, one request after the other, from an empty roster on.  A request
that reaches the host makes one call there, and the call with its response is an exchange; a
request that does not reach it makes none and leaves the site as it is.  What a client knows of
the sessions it reads off the exchanges: a start names the session that it opened, a completion
that succeeds hands its session off, and an event is recorded by the call that brought it if the
response says so.

The same requests are moves at a desk (`Played`), where a start takes its id and opens its
session with nothing in between.  What the exchanges tell is what the moves tell, so what is
known of every run of moves can be said of requests and responses.

* `handle_of_call?`, `handle_of_no_call`: what a request does to the site;
* `Played.after`, `exists_played`: one more request is one more move, or two, or none, and so
  every sequence of requests is a run.
-/
import Mathlib.Data.List.Induction
import Screening.Http
import Screening.Proofs.Isolation

namespace Screening.Http

set_option autoImplicit false

/-! ## Requests that reach the host -/

namespace Request

/-- The call that the request makes on the host, if its target names a resource that knows
the method, the ids in it can be decoded, and the body is what the call needs. -/
def call? (request : Request) : Option Call :=
  match Resource.ofTarget? request.target, Method.ofName? request.method with
  | some named, some method =>
      if named.allows method then
        match named.decoded?.bind fun resource => callOf? resource method request with
        | some (.ok call) => some call
        | _ => none
      else none
  | _, _ => none

theorem call?_eq_some_iff {request : Request} {call : Call} :
    request.call? = some call ↔
      ∃ named method resource, Resource.ofTarget? request.target = some named ∧
        Method.ofName? request.method = some method ∧ named.allows method ∧
          named.decoded? = some resource ∧ callOf? resource method request = some (.ok call) := by
  have made (found : Option (Except Response Call)) :
      (match found with | some (.ok call) => some call | _ => none) = some call ↔
        found = some (.ok call) := by
    rcases found with _ | _ | _ <;> simp
  unfold call?
  split
  · next named method target known =>
      rw [Option.ite_none_right_eq_some, made, Option.bind_eq_some_iff, target, known]
      simp
  · next unnamed =>
      refine ⟨nofun, ?_⟩
      rintro ⟨named, method, -, target, known, -⟩
      exact absurd known (unnamed named method target)

/-- Whether the request starts a session. -/
def isStart (request : Request) : Bool :=
  match request.call? with
  | some .start => true
  | _ => false

theorem isStart_iff {request : Request} : request.isStart ↔ request.call? = some .start := by
  rcases made : request.call? with _ | (_ | _ | _ | _ | _ | _ | _) <;> simp [isStart, made]

end Request

/-- Only a request to the sessions themselves starts one, and not one that merely asks what
would be answered. -/
theorem Resource.eq_post_of_start {named resource : Resource} {method : Method} {request : Request}
    (allowed : named.allows method) (read : named.decoded? = some resource)
    (made : callOf? resource method request = some (.ok .start)) : method = .post := by
  cases resource with
  | sessions =>
      cases named <;> simp [decoded?, Option.bind_eq_some_iff] at read
      simpa [allows] using allowed
  | answer session question =>
      simp only [callOf?] at made
      split at made
      · cases made
      · cases body : submission request <;> simp [body, Except.map] at made
  | _ => cases made

variable {request : Request} {call : Call}

/-- A request that makes a call is answered with what comes of it. -/
theorem handle_of_call? (reaches : request.call? = some call) (site : Site) :
    (handle site request).1.status =
        (answered (successStatus call) (site.host.serve call).1).status ∧
      (call = .start → (handle site request).1 = answered 201 (site.host.serve call).1) ∧
      (handle site request).2 = { site with host := (site.host.serve call).2 } := by
  obtain ⟨named, method, resource, target, known, allowed, read, made⟩ :=
    Request.call?_eq_some_iff.1 reaches
  simp only [handle, target, known, if_pos allowed, read, serve, made]
  refine ⟨?status, ?start, trivial⟩
  case status => split <;> rfl
  case start =>
    rintro rfl
    rw [Resource.eq_post_of_start allowed read made]
    rfl

/-- A request that makes no call leaves the site as it is. -/
theorem handle_of_no_call (unheard : request.call? = none) (site : Site) :
    (handle site request).2 = site := by
  simp only [handle]
  cases target : Resource.ofTarget? request.target with
  | none => rfl
  | some named =>
      cases known : Method.ofName? request.method with
      | none => rfl
      | some method =>
          by_cases allowed : named.allows method
          · simp only [if_pos allowed]
            cases read : named.decoded? with
            | none => rfl
            | some resource =>
                simp only [serve]
                rcases made : callOf? resource method request with _ | response | call
                · rfl
                · rfl
                · have reaches := Request.call?_eq_some_iff.2
                    ⟨named, method, resource, target, known, allowed, read, made⟩
                  rw [unheard] at reaches
                  cases reaches
          · simp only [if_neg allowed]

/-! ## Exchanges -/

/-- A call that a request made, and the response. -/
structure Exchange where
  call : Call
  response : Response

namespace Exchange

/-- The session that the response to a start names. -/
def started? (exchange : Exchange) : Option String :=
  match exchange.call, exchange.response.body with
  | .start, some (.json told) =>
      match told.member? "sessionId" with
      | some (.text id) => some id
      | _ => none
  | _, _ => none

/-- The session that a completion handed off. -/
def handedOff? (exchange : Exchange) : Option String :=
  match exchange.call with
  | .complete session => if exchange.response.status = 200 then some session else none
  | _ => none

/-- The event that the response says has happened in a session. -/
def recorded? (id : String) (exchange : Exchange) : Option Event :=
  if exchange.call.session? = some id ∧ exchange.response.status = 200 then exchange.call.event?
  else none

end Exchange

/-- A site, and the exchanges that it has had from the first one on. -/
structure Journal where
  site : Site
  history : List Exchange := []

/-- A site without sessions, whose first one gets this number. -/
def Site.fresh (catalog : Catalog) (number : UInt64) (ready : Bool) : Site where
  host := { catalog, next := number }
  ready

namespace Journal

def after (journal : Journal) (request : Request) : Journal where
  site := (handle journal.site request).2
  history := journal.history ++
    (request.call?.map fun call => ⟨call, (handle journal.site request).1⟩).toList

/-- The journal of requests that are served one after the other. -/
def ofRequests (site : Site) (requests : List Request) : Journal :=
  requests.foldl Journal.after { site }

@[simp] theorem ofRequests_concat (site : Site) (requests : List Request) (request : Request) :
    ofRequests site (requests ++ [request]) = (ofRequests site requests).after request := by
  simp [ofRequests]

end Journal

/-! ## What a response tells of the reply -/

/-- No refusal looks like a success. -/
theorem status_answered_eq_iff (reply : Except HostError Reply) :
    (answered 200 reply).status = 200 ↔ ∃ told, reply = .ok told := by
  rcases reply with (_ | _ | (_ | _ | _)) | told <;>
    simp [answered, refusal, refusalStatus, Response.ofJson]

theorem successStatus_of_ne_start (other : call ≠ .start) : successStatus call = 200 := by
  cases call with
  | start => exact absurd rfl other
  | _ => rfl

namespace Exchange

variable {response : Response} {reply : Except HostError Reply}

/-- A start is told by the session in the response. -/
theorem started?_start (id : String) (reply : Except HostError SessionView) :
    started? ⟨.start, answered 201 (reply.map .session)⟩ = (Move.opened id reply).started? := by
  cases reply with
  | error => rfl
  | ok view => rfl

theorem started?_of_ne_start (other : call ≠ .start) : started? ⟨call, response⟩ = none := by
  cases call with
  | start => exact absurd rfl other
  | _ => rfl

theorem handedOff?_eq (status : response.status = (answered 200 reply).status) :
    handedOff? ⟨call, response⟩ = (Move.served call reply).handedOff? := by
  have success := status_answered_eq_iff reply
  rw [← status] at success
  cases call with
  | complete session => cases reply <;> simp_all [handedOff?, Move.handedOff?]
  | _ => rfl

theorem recorded?_eq (status : response.status = (answered 200 reply).status) (id : String) :
    recorded? id ⟨call, response⟩ = (Move.served call reply).recorded? id := by
  have success := status_answered_eq_iff reply
  rw [← status] at success
  cases reply <;> simp_all [recorded?, Move.recorded?]

end Exchange

/-! ## Requests as moves -/

/-- These moves are made by these requests, and the exchanges tell what the moves tell. -/
structure Played (catalog : Catalog) (number : UInt64) (requests : List Request) (journal : Journal)
    (trace : List Move) : Prop where
  ran : Execution (.fresh catalog number) trace ⟨journal.site.host, []⟩
  starts : (allocatedIds trace).length = requests.countP Request.isStart
  started : journal.history.filterMap Exchange.started? = startedIds trace
  handedOff : journal.history.filterMap Exchange.handedOff? = handedOffIds trace
  recorded : ∀ id, journal.history.filterMap (Exchange.recorded? id) = eventsOn id trace

theorem filterMap_one {α β : Type} (read : α → Option β) (a : α) :
    [a].filterMap read = (read a).toList := by
  cases told : read a <;> simp [told]

/-- What an exchange tells beyond the history is what its moves tell beyond the trace. -/
theorem filterMap_concat_eq {α : Type} {read : Exchange → Option α} {told : Move → Option α}
    {history : List Exchange} {trace : List Move}
    (same : history.filterMap read = trace.filterMap told) {exchange : Exchange}
    {moves : List Move} (here : (read exchange).toList = moves.filterMap told) :
    (history ++ [exchange]).filterMap read = (trace ++ moves).filterMap told := by
  rw [List.filterMap_append, List.filterMap_append, same, ← here, filterMap_one]

theorem Journal.history_after (reaches : request.call? = some call) (journal : Journal) :
    (journal.after request).history =
      journal.history ++ [⟨call, (handle journal.site request).1⟩] := by
  rw [after, reaches]
  rfl

namespace Played

variable {catalog : Catalog} {number : UInt64} {requests : List Request} {journal : Journal}
  {trace : List Move}

theorem fresh (catalog : Catalog) (number : UInt64) (ready : Bool) :
    Played catalog number [] (.ofRequests (.fresh catalog number ready) []) [] where
  ran := .idle
  starts := rfl
  started := rfl
  handedOff := rfl
  recorded := fun _ => rfl

/-- A request that makes no call is no move. -/
theorem after_unheard (played : Played catalog number requests journal trace)
    (unheard : request.call? = none) :
    Played catalog number (requests ++ [request]) (journal.after request) trace := by
  have same : journal.after request = journal := by
    simp [Journal.after, unheard, handle_of_no_call unheard]
  have uncounted : ¬ request.isStart := by simp [Request.isStart_iff, unheard]
  rw [same]
  refine { played with starts := ?_ }
  rw [List.countP_append, List.countP_singleton, if_neg uncounted]
  exact played.starts

/-- A start takes an id and opens its session at once. -/
theorem after_start (played : Played catalog number requests journal trace)
    (reaches : request.call? = some .start) :
    Played catalog number (requests ++ [request]) (journal.after request)
      (trace ++ [.allocated journal.site.host.allocate.1,
        .opened journal.site.host.allocate.1 journal.site.host.start.1]) := by
  obtain ⟨-, response, next⟩ := handle_of_call? reaches journal.site
  have counted := Request.isStart_iff.2 reaches
  have history := Journal.history_after reaches journal
  rw [response rfl] at history
  refine ⟨?ran, ?starts, ?started, ?handedOff, ?recorded⟩
  case ran =>
    rw [Journal.after, next]
    exact played.ran.append (execution_start journal.site.host [])
  case starts =>
    rw [List.countP_append, List.countP_singleton, if_pos counted, ← played.starts,
      allocatedIds_append, List.length_append]
    rfl
  case started =>
    have told := Exchange.started?_start journal.site.host.allocate.1 journal.site.host.start.1
    rw [history]
    refine filterMap_concat_eq played.started ((congrArg Option.toList told).trans ?_)
    cases journal.site.host.start.1 <;> rfl
  case handedOff =>
    rw [history]
    exact filterMap_concat_eq played.handedOff rfl
  case recorded =>
    intro id
    rw [history]
    refine filterMap_concat_eq (played.recorded id) ?_
    rw [Exchange.recorded?, if_neg (by simp [Call.session?])]
    rfl

/-- Any other call is one move. -/
theorem after_served (played : Played catalog number requests journal trace)
    (reaches : request.call? = some call) (other : call ≠ .start) :
    Played catalog number (requests ++ [request]) (journal.after request)
      (trace ++ [.served call (journal.site.host.serve call).1]) := by
  obtain ⟨status, -, next⟩ := handle_of_call? reaches journal.site
  rw [successStatus_of_ne_start other] at status
  have uncounted : ¬ request.isStart := by simpa [Request.isStart_iff, reaches] using other
  have history := Journal.history_after reaches journal
  refine ⟨?ran, ?starts, ?started, ?handedOff, ?recorded⟩
  case ran =>
    rw [Journal.after, next]
    exact .step played.ran (.serve other)
  case starts =>
    rw [List.countP_append, List.countP_singleton, if_neg uncounted, allocatedIds_concat]
    simpa [Move.allocated?] using played.starts
  case started =>
    rw [history]
    refine filterMap_concat_eq played.started ?_
    rw [Exchange.started?_of_ne_start other]
    rfl
  case handedOff =>
    rw [history]
    refine filterMap_concat_eq played.handedOff ?_
    rw [Exchange.handedOff?_eq status, filterMap_one]
  case recorded =>
    intro id
    rw [history]
    refine filterMap_concat_eq (played.recorded id) ?_
    rw [Exchange.recorded?_eq status, filterMap_one]

/-- **One more request is one more move, or two, or none.** -/
theorem after (played : Played catalog number requests journal trace) (request : Request) :
    ∃ moves, Played catalog number (requests ++ [request]) (journal.after request)
      (trace ++ moves) := by
  cases reaches : request.call? with
  | none => exact ⟨[], by simpa using played.after_unheard reaches⟩
  | some call =>
      by_cases start : call = .start
      · rw [start] at reaches
        exact ⟨_, played.after_start reaches⟩
      · exact ⟨_, played.after_served reaches start⟩

end Played

/-- So every sequence of requests is a run. -/
theorem exists_played (catalog : Catalog) (number : UInt64) (ready : Bool)
    (requests : List Request) :
    ∃ trace, Played catalog number requests
      (.ofRequests (.fresh catalog number ready) requests) trace := by
  induction requests using List.reverseRecOn with
  | nil => exact ⟨[], .fresh catalog number ready⟩
  | append_singleton requests request ih =>
      obtain ⟨trace, played⟩ := ih
      obtain ⟨moves, next⟩ := played.after request
      rw [Journal.ofRequests_concat]
      exact ⟨_, next⟩

end Screening.Http
