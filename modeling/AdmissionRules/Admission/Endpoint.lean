import AdmissionRules.Admission.Subject
import AdmissionRules.Http.Basic
import AdmissionRules.Metrics.Basic

set_option autoImplicit false

/-! # The admission endpoint

Takes reviews over HTTP and answers each with a review that carries the decision. A request that
names nothing to decide about is denied, and a review without a request is refused. -/

namespace AdmissionRules

/-! ## Responses -/

/-- The answer to a request, as a review carries it. -/
structure AdmissionAnswer where
  uid : String
  /-- Why the request is denied; none if it is allowed. -/
  denial : Option String
deriving DecidableEq

namespace AdmissionAnswer

def isAllowed (a : AdmissionAnswer) : Bool := a.denial.isNone

def allow (uid : String) : AdmissionAnswer := { uid, denial := none }

/-- A denial names its reason before the message. -/
def deny (uid reason message : String) : AdmissionAnswer :=
  { uid, denial := some ("[" ++ reason ++ "] " ++ message) }

/-- The result of a decision as the answer to a request. A denial without a reason or a message
    gets one. -/
def ofResult (uid : String) (r : DecisionResult) : AdmissionAnswer :=
  if r.allowed then allow uid
  else deny uid (r.reason.getD Obstacle.violated.reason) (r.message.getD "Validation failed")

def status (a : AdmissionAnswer) : Json :=
  .ofPresent [("message", a.denial.map .string)]

end AdmissionAnswer

/-- A review with a response. -/
def reviewJson (apiVersion kind uid : String) (allowed : Bool) (status : Json) : Json :=
  .ofMembers [
    ("apiVersion", .string apiVersion),
    ("kind", .string kind),
    ("response", .ofMembers [("uid", .string uid), ("allowed", .bool allowed), ("status", status)])]

/-- The reason given for a request that cannot be decided about. -/
def invalidRequestReason : String := "InvalidRequest"

/-- Why a review without a request is refused. -/
def noRequestMessage : String := "failed to convert AdmissionReview into AdmissionRequest"

/-- The answer to a review without a request, which belongs to no API version. -/
def refusal : Json :=
  reviewJson "admission.k8s.io/v1beta1" "AdmissionReview" "" false (.ofMembers [
    ("message", .string ("Invalid AdmissionReview: " ++ noRequestMessage)),
    ("reason", .string invalidRequestReason),
    ("status", .string "Failure")])

/-! ## Answering -/

/-- When a decision is taken: its start, the instants at which the budget is checked, and what
    is recorded as its duration. -/
structure DecisionTimes where
  started : Nat
  checkedAt : Nat → Nat
  duration : Binary64

/-- What decisions are taken with: the snapshot in force, the time that each may take and the
    clock. -/
structure Endpoint where
  snapshot : Snapshot
  timeout : Nat
  clock : Clock

namespace Endpoint

open Http (Request Response)

def path : String := "/validate"

/-- The budget of a decision. -/
def budget (e : Endpoint) (times : DecisionTimes) : Budget :=
  .startingAt e.clock times.started e.timeout

def decide (e : Endpoint) (times : DecisionTimes) (subject : Subject) : Decision :=
  e.snapshot.decide subject fun i => (e.budget times).check (times.checkedAt i)

/-- The answer to a request and what is recorded about it. -/
def answerRequest (e : Endpoint) (times : DecisionTimes) (r : AdmissionRequest) :
    AdmissionAnswer × DecisionRecord :=
  match r.decode with
  | .error problem =>
    (.deny r.uid invalidRequestReason problem.message,
      { kind := r.kind.kind, reason := invalidRequestReason, duration := none })
  | .ok subject =>
    let result := (e.decide times subject).result
    (.ofResult r.uid result,
      { kind := subject.kind, reason := result.reasonText, duration := some times.duration })

def answerReview (e : Endpoint) (times : DecisionTimes) (review : AdmissionReview) :
    Response × Option DecisionRecord :=
  match review.request with
  | none => (.json 400 refusal, none)
  | some r =>
    let (a, record) := e.answerRequest times r
    (.json 200 (reviewJson review.apiVersion review.kind a.uid a.isAllowed a.status), some record)

/-- Answers an HTTP request, and says what is recorded about it. -/
def answer (e : Endpoint) (times : DecisionTimes) (r : Request) :
    Response × Option DecisionRecord :=
  if r.path ≠ path then (.notFound, none)
  else if r.method ≠ "POST" then (.methodNotAllowed ["POST"], none)
  else
    match r.readJson AdmissionReview.parse with
    | .error response => (response, none)
    | .ok review => e.answerReview times review

end Endpoint

end AdmissionRules
