/-
# Screening.Http -- sessions over HTTP

A site serves the sessions of a host together with a summary of its catalog and its
own state.  A request is refused for the first of these reasons: the path names
nothing (404), the resource does not know the method (405), an id is not UTF-8 (400),
the body of an answer is not said to be JSON (415), it is longer than a body may be
(413), or it is not one (400 where the text is flawed, 422 where it holds something
else).  Then the host is called, and its answer or refusal is the response.
-/
import Screening.Host
import Screening.Http.MediaType
import Screening.Http.Route
import Screening.Json.Reading

namespace Screening.Http

open Json

set_option autoImplicit false

structure Request where
  method : String
  target : String
  contentType : Option String := none
  body : String := ""

inductive Body where
  | json (value : Json)
  | text (value : String)

structure Response where
  status : Nat
  contentType : Option String := none
  body : Option Body := none

structure Site where
  host : Host
  ready : Bool := true

namespace Response

def empty (status : Nat) : Response := { status }

def ofJson (status : Nat) (value : Json) : Response :=
  { status, contentType := some "application/json", body := some (.json value) }

def ofText (status : Nat) (text : String) : Response :=
  { status, contentType := some "text/plain; charset=utf-8", body := some (.text text) }

/-- The response to a request that only asks what would be answered. -/
def headOnly (response : Response) : Response := { response with body := none }

end Response

/-- The status of a host's refusal. -/
def refusalStatus : HostError → Nat
  | .unknownQuestion _ => 404
  | .roster .notFound => 404
  | .incomplete _ => 422
  | .roster .conflict => 409
  | .roster (.unavailable _) => 500

def refusal (error : HostError) : Response :=
  .ofJson (refusalStatus error) (.object [("error", .text error.message)])

/-- The response to a host's answer. -/
def answered (status : Nat) : Except HostError Reply → Response
  | .ok reply => .ofJson status reply.toJson
  | .error error => refusal error

/-- The response to a body that holds no submission. -/
def unfit (fault : Fault) : Response :=
  match fault with
  | .flaw _ => .ofText 400 ("the body is not JSON: " ++ fault.message)
  | .mismatch _ => .ofText 422 ("the body is not an answer: " ++ fault.message)

/-- The number of bytes that a body may have. -/
def bodyLimit : Nat := 2 * 1024 * 1024

/-- The submission in the body of a request.  What follows it is not looked at. -/
def submission (request : Request) : Except Response Submission :=
  match request.contentType with
  | none => .error (.ofText 415 "the body has no content type")
  | some contentType =>
      if saysJson contentType then
        if request.body.utf8ByteSize ≤ bodyLimit then
          (decodeFront Submission.codec.decode request.body).mapError unfit
        else .error (.ofText 413 "the body is longer than two mebibytes")
      else .error (.ofText 415 "the content type of the body is not JSON")

/-- The summary of a catalog. -/
def summary (catalog : Catalog) : Json :=
  .object [
    ("version", .text catalog.metadata.version),
    ("scholarships", .ofNat catalog.scholarships.length),
    ("tiers", .array (catalog.tiers.map fun tier =>
      .object [
        ("tierId", .text tier.tierId),
        ("tierName", .text tier.tierName),
        ("questions", .ofNat tier.questions.length)]))]

def statusJson (status : String) : Json := .object [("status", .text status)]

/-- The content type of the metrics, which are empty. -/
def metricsType : String := "text/plain; version=0.0.4"

/-- The call that a request makes on the host, if it makes one. -/
def callOf? (resource : Resource) (method : Method) (request : Request) :
    Option (Except Response Call) :=
  match resource with
  | .sessions => some (.ok .start)
  | .session id => some (.ok (.snapshot id))
  | .answer session question =>
      if method = .delete then some (.ok (.clear session question))
      else some ((submission request).map (.answer session question))
  | .reset session => some (.ok (.reset session))
  | .tier session id => some (.ok (.questions session id))
  | .completion session => some (.ok (.complete session))
  | _ => none

/-- What the site says of itself. -/
def own (site : Site) : Resource → Response
  | .health => .ofJson 200 (statusJson "ok")
  | .readiness =>
      if site.ready then .ofJson 200 (statusJson "ready")
      else .ofJson 503 (statusJson "initializing")
  | .metrics => { status := 200, contentType := some metricsType, body := some (.text "") }
  | .summary => .ofJson 200 (summary site.host.catalog)
  | _ => .empty 404

/-- Starting a session creates something; every other call only answers. -/
def successStatus : Call → Nat
  | .start => 201
  | _ => 200

/-- Serves a request for a resource whose ids are decoded. -/
def serve (site : Site) (resource : Resource) (method : Method) (request : Request) :
    Response × Site :=
  match callOf? resource method request with
  | none => (own site resource, site)
  | some (.error response) => (response, site)
  | some (.ok call) =>
      let (reply, host) := site.host.serve call
      (answered (successStatus call) reply, { site with host })

/-- Handles a request. -/
def handle (site : Site) (request : Request) : Response × Site :=
  match Resource.ofTarget? request.target with
  | none => (.empty 404, site)
  | some resource =>
      match Method.ofName? request.method with
      | none => (.empty 405, site)
      | some method =>
          if resource.allows method then
            match resource.decoded? with
            | none => (.ofText 400 "an id in the path is not UTF-8", site)
            | some resource =>
                let (response, site) := serve site resource method request
                (if method = .head then response.headOnly else response, site)
          else (.empty 405, site)

end Screening.Http
