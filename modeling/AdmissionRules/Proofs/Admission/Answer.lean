import AdmissionRules.Admission.Webhook
import AdmissionRules.Proofs.Except
import AdmissionRules.Proofs.Json.Members

set_option autoImplicit false

/-! # Answers of the webhook

An HTTP request submits a review if it is a `POST` of JSON text to the path of the endpoint, of no
more than the size allowed, that reads as one. All others get a response without JSON. A review
with a request gets an answer for it, and a review without one is refused.

The main statement (`Webhook.answer_decides`) says that the answer is that of the decision under
the policy in force: nothing is allowed but what this decision allows, and a denial tells the reason
and the message of the decision, or that there is nothing to decide about. A denial has both, so
what an answer would say without them is never said. -/

namespace AdmissionRules

/-! ## What a client sees -/

namespace Http.Response

/-- The value at a path of the JSON that a response carries. -/
def at? (r : Response) (path : List String) : Option Json :=
  match r.content with
  | .json j => j.at? path
  | _ => none

theorem at?_json (status : Nat) (j : Json) (path : List String) :
    (json status j).at? path = j.at? path := rfl

/-- The response tells the API server to let the object in. -/
def Allows (r : Response) : Prop := r.at? ["response", "allowed"] = some (.bool true)

/-- The response tells the API server to turn the object away, and why. -/
structure Denies (r : Response) (message : String) : Prop where
  allowed : r.at? ["response", "allowed"] = some (.bool false)
  message : r.at? ["response", "status", "message"] = some (.string message)

theorem Denies.not_allows {r : Response} {message : String} (h : r.Denies message) :
    ¬ r.Allows := by
  intro hallows
  have heq := h.allowed.symm.trans hallows
  simp at heq

end Http.Response

open Http (Request Response)

/-- An HTTP request that brings a review to the endpoint. -/
structure Http.Request.Submits (r : Request) (review : AdmissionReview) : Prop where
  path : r.path = "/validate"
  method : r.method = "POST"
  type : r.saysJson = true
  size : (r.body.getD "").utf8ByteSize ≤ Request.maxBodyBytes
  body : AdmissionReview.parse (r.body.getD "") = .ok review

/-! ## Results of decisions -/

namespace Decision

@[simp]
theorem allowed_result (d : Decision) : d.result.allowed = d.isAllowed := by
  cases d <;> rfl

/-- A result has a reason, so it is counted under that of the decision. -/
theorem reasonText_result (d : Decision) : d.result.reasonText = d.reason := by
  cases d <;> rfl

/-- A denial has a reason and a message. -/
theorem result_of_denied {d : Decision} (h : d.isAllowed = false) :
    ∃ message, d.message? = some message ∧ d.result = .deny d.reason message := by
  cases d with
  | allowed a => cases h
  | denied r o => exact ⟨o.message r, rfl, rfl⟩

end Decision

namespace AdmissionAnswer

theorem uid_ofResult (uid : String) (r : DecisionResult) : (ofResult uid r).uid = uid := by
  unfold ofResult
  split <;> rfl

theorem ofResult_of_allowed (uid : String) {r : DecisionResult} (h : r.allowed = true) :
    ofResult uid r = allow uid := if_pos h

/-- A denial that has a reason and a message is answered with these. -/
theorem ofResult_deny (uid reason message : String) :
    ofResult uid (.deny reason message) = deny uid reason message := rfl

end AdmissionAnswer

/-! ## Reading bodies -/

namespace Http.Request

variable {α : Type}

theorem readJson_eq_ok_iff (r : Request) (parse : String → Except Json.Fault α) (x : α) :
    r.readJson parse = .ok x ↔
      r.saysJson = true ∧ (r.body.getD "").utf8ByteSize ≤ maxBodyBytes ∧
        parse (r.body.getD "") = .ok x := by
  simp only [readJson]
  split
  · rename_i htype
    have hfalse : r.saysJson = false := by simpa using htype
    simp [hfalse]
  · rename_i htype
    have htrue : r.saysJson = true := by simpa using htype
    split
    · rename_i hsize
      simp [htrue, Nat.not_le.2 hsize]
    · rename_i hsize
      simp [htrue, Nat.le_of_not_lt hsize, mapError_eq_ok_iff]

/-- What cannot be read is answered without content, and not as a success. -/
theorem readJson_error {r : Request} {parse : String → Except Json.Fault α} {response : Response}
    (h : r.readJson parse = .error response) :
    ∃ status, status ≠ 200 ∧ response = .bare status := by
  simp only [readJson] at h
  split at h
  · cases h
    exact ⟨415, by decide, rfl⟩
  · split at h
    · cases h
      exact ⟨413, by decide, rfl⟩
    · cases hparse : parse (r.body.getD "") with
      | ok x =>
          rw [hparse] at h
          cases h
      | error fault =>
          rw [hparse] at h
          cases h
          cases fault with
          | malformed => exact ⟨400, by decide, rfl⟩
          | mismatch => exact ⟨422, by decide, rfl⟩

end Http.Request

namespace Endpoint

variable (e : Endpoint) (times : DecisionTimes) {r : Request}

/-! ## Requests that submit nothing -/

theorem answer_of_not_submits (h : ∀ review, ¬ r.Submits review) :
    ∃ response : Response, e.answer times r = (response, none) ∧ response.status ≠ 200 ∧
      ∀ path, response.at? path = none := by
  unfold answer
  split
  · exact ⟨_, rfl, by decide, fun _ => rfl⟩
  · rename_i hpath
    split
    · exact ⟨_, rfl, by decide, fun _ => rfl⟩
    · rename_i hmethod
      split
      · rename_i response hread
        obtain ⟨status, hstatus, rfl⟩ := Http.Request.readJson_error hread
        exact ⟨_, rfl, hstatus, fun _ => rfl⟩
      · rename_i review hread
        obtain ⟨htype, hsize, hbody⟩ := (r.readJson_eq_ok_iff _ _).1 hread
        exact absurd ⟨not_not.1 hpath, not_not.1 hmethod, htype, hsize, hbody⟩ (h review)

/-! ## Reviews -/

variable {review : AdmissionReview}

theorem answer_of_submits (h : r.Submits review) :
    e.answer times r = e.answerReview times review := by
  have hread : r.readJson AdmissionReview.parse = .ok review :=
    (r.readJson_eq_ok_iff _ _).2 ⟨h.type, h.size, h.body⟩
  have hpath : r.path = path := h.path
  simp only [answer, hpath, h.method, ne_eq, not_true_eq_false, if_false, hread]

theorem answer_of_no_request (h : r.Submits review) (hnone : review.request = none) :
    e.answer times r = (.json 400 refusal, none) := by
  rw [e.answer_of_submits times h]
  simp only [answerReview, hnone]

/-! ## Requests -/

/-- The response that carries an answer. -/
def responseTo (review : AdmissionReview) (a : AdmissionAnswer) : Response :=
  .json 200 (reviewJson review.apiVersion review.kind a.uid a.isAllowed a.status)

variable {request : AdmissionRequest}

theorem answer_of_decode_error (h : r.Submits review) (hrequest : review.request = some request)
    {problem : DecodeError} (hdecode : request.decode = .error problem) :
    e.answer times r =
      (responseTo review (.deny request.uid invalidRequestReason problem.message),
        some { kind := request.kind.kind, reason := invalidRequestReason, duration := none }) := by
  rw [e.answer_of_submits times h]
  simp only [answerReview, hrequest, answerRequest, hdecode]
  rfl

theorem answer_of_decode_ok (h : r.Submits review) (hrequest : review.request = some request)
    {subject : Subject} (hdecode : request.decode = .ok subject) :
    e.answer times r =
      (responseTo review (.ofResult request.uid (e.decide times subject).result),
        some { kind := subject.kind, reason := (e.decide times subject).reason,
               duration := some times.duration }) := by
  rw [e.answer_of_submits times h, ← (e.decide times subject).reasonText_result]
  simp only [answerReview, hrequest, answerRequest, hdecode]
  rfl

end Endpoint

/-! ## Answers as responses -/

/-- What stands in the response of a review. -/
theorem at?_reviewJson (apiVersion kind uid : String) (allowed : Bool) (status : Json)
    (path : List String) :
    (reviewJson apiVersion kind uid allowed status).at? ("response" :: path) =
      (Json.ofMembers [("uid", .string uid), ("allowed", .bool allowed),
        ("status", status)]).at? path := by
  rw [reviewJson, Json.at?_ofMembers]
  rfl

theorem AdmissionAnswer.at?_status (a : AdmissionAnswer) :
    a.status.at? ["message"] = a.denial.map .string := by
  rw [status, Json.ofPresent, Json.at?_ofMembers]
  cases a.denial <;> rfl

theorem at?_refusal : refusal.at? ["response", "allowed"] = some (.bool false) := by
  rw [refusal, at?_reviewJson, Json.at?_ofMembers]
  rfl

namespace Endpoint

theorem responseTo_uid (review : AdmissionReview) (a : AdmissionAnswer) :
    (responseTo review a).at? ["response", "uid"] = some (.string a.uid) := by
  rw [responseTo, Response.at?_json, at?_reviewJson, Json.at?_ofMembers]
  rfl

theorem responseTo_allowed (review : AdmissionReview) (a : AdmissionAnswer) :
    (responseTo review a).at? ["response", "allowed"] = some (.bool a.isAllowed) := by
  rw [responseTo, Response.at?_json, at?_reviewJson, Json.at?_ofMembers]
  rfl

theorem responseTo_message (review : AdmissionReview) (a : AdmissionAnswer) :
    (responseTo review a).at? ["response", "status", "message"] = a.denial.map .string := by
  rw [responseTo, Response.at?_json, at?_reviewJson, Json.at?_ofMembers, ← a.at?_status]
  rfl

theorem responseTo_deny (review : AdmissionReview) (uid reason message : String) :
    (responseTo review (.deny uid reason message)).Denies ("[" ++ reason ++ "] " ++ message) where
  allowed := responseTo_allowed review _
  message := responseTo_message review _

theorem responseTo_of_allowed (review : AdmissionReview) (uid : String) {d : Decision}
    (h : d.isAllowed = true) : (responseTo review (.ofResult uid d.result)).Allows := by
  rw [AdmissionAnswer.ofResult_of_allowed uid (d.allowed_result.trans h)]
  exact responseTo_allowed review _

/-- A denial carries the reason and the message of the decision. -/
theorem responseTo_of_denied (review : AdmissionReview) (uid : String) {d : Decision}
    (h : d.isAllowed = false) :
    ∃ message, d.message? = some message ∧ d.result = .deny d.reason message ∧
      (responseTo review (.ofResult uid d.result)).Denies
        ("[" ++ d.reason ++ "] " ++ message) := by
  obtain ⟨message, hmessage, hresult⟩ := Decision.result_of_denied h
  refine ⟨message, hmessage, hresult, ?_⟩
  rw [hresult, AdmissionAnswer.ofResult_deny]
  exact responseTo_deny review uid d.reason message

/-- Nothing is allowed but what a decision allows. -/
theorem answer_allows_iff (e : Endpoint) (times : DecisionTimes) (r : Request) :
    (e.answer times r).1.Allows ↔
      ∃ review request subject, r.Submits review ∧ review.request = some request ∧
        request.decode = .ok subject ∧ (e.decide times subject).isAllowed = true := by
  constructor
  · intro hallows
    -- wherever the answer is not a decision's, it does not allow
    by_cases hsubmits : ∃ review, r.Submits review
    · obtain ⟨review, hreview⟩ := hsubmits
      cases hrequest : review.request with
      | none =>
          rw [e.answer_of_no_request times hreview hrequest] at hallows
          exact absurd (at?_refusal.symm.trans hallows) (by simp)
      | some request =>
          cases hdecode : request.decode with
          | error problem =>
              rw [e.answer_of_decode_error times hreview hrequest hdecode] at hallows
              exact absurd hallows (responseTo_deny _ _ _ _).not_allows
          | ok subject =>
              rw [e.answer_of_decode_ok times hreview hrequest hdecode] at hallows
              refine ⟨review, request, subject, hreview, hrequest, hdecode, ?_⟩
              by_contra hdenied
              obtain ⟨message, -, -, hdenies⟩ :=
                responseTo_of_denied review request.uid (Bool.eq_false_iff.2 hdenied)
              exact hdenies.not_allows hallows
    · obtain ⟨response, heq, -, hnone⟩ := e.answer_of_not_submits times (not_exists.1 hsubmits)
      rw [heq] at hallows
      exact absurd ((hnone _).symm.trans hallows) (by simp)
  · rintro ⟨review, request, subject, hreview, hrequest, hdecode, hallowed⟩
    rw [e.answer_of_decode_ok times hreview hrequest hdecode]
    exact responseTo_of_allowed review request.uid hallowed

/-- A request is answered under its own name, and a denial says why. -/
theorem answer_of_request (e : Endpoint) (times : DecisionTimes) {r : Request}
    {review : AdmissionReview} {request : AdmissionRequest} (hreview : r.Submits review)
    (hrequest : review.request = some request) :
    (e.answer times r).1.status = 200 ∧
    (e.answer times r).1.at? ["response", "uid"] = some (.string request.uid) ∧
    (∀ problem, request.decode = .error problem →
      (e.answer times r).1.Denies ("[InvalidRequest] " ++ problem.message)) ∧
    (∀ subject, request.decode = .ok subject → (e.decide times subject).isAllowed = false →
      ∃ message, (e.decide times subject).message? = some message ∧
        (e.decide times subject).result = .deny (e.decide times subject).reason message ∧
        (e.answer times r).1.Denies
          ("[" ++ (e.decide times subject).reason ++ "] " ++ message)) := by
  cases hdecode : request.decode with
  | error problem =>
      rw [e.answer_of_decode_error times hreview hrequest hdecode]
      refine ⟨rfl, responseTo_uid _ _, ?_, ?_⟩
      · rintro problem' ⟨⟩
        exact responseTo_deny _ _ _ _
      · rintro subject ⟨⟩
  | ok subject =>
      rw [e.answer_of_decode_ok times hreview hrequest hdecode]
      refine ⟨rfl, ?_, ?_, ?_⟩
      · rw [responseTo_uid, AdmissionAnswer.uid_ofResult]
      · rintro problem ⟨⟩
      · rintro subject' ⟨⟩ hdenied
        exact responseTo_of_denied review request.uid hdenied

end Endpoint

/-! ## The webhook -/

namespace Webhook

/-- The decision about a subject under the policy in force, when its time begins to run at the
    start of the decision. -/
def decision (w : Webhook) (times : DecisionTimes) (subject : Subject) : Decision :=
  w.store.current.decide subject fun i =>
    (Budget.startingAt w.clock times.started w.timeout).check (times.checkedAt i)

/-- What the endpoint decides with is the policy in force, the webhook's clock and its timeout. -/
theorem decide_endpoint (w : Webhook) (times : DecisionTimes) (subject : Subject) :
    w.endpoint.decide times subject = w.decision times subject := rfl

/-- **The webhook answers what is decided, and lets nothing else in.** For every store, decision
    time and HTTP request: the response allows if and only if the request submits a review whose
    request names something to decide about, and the decision under the policy in force, its budget
    starting now, allows. To a review with a request the status is 200 and the answer is under the
    request's own name; if there is nothing to decide about it is denied as invalid. A decision that
    denies comes with a reason and a message, and these are what the denial says. A review without a
    request is refused, and what is no review at all gets no JSON. -/
theorem answer_decides (w : Webhook) (times : DecisionTimes) (r : Request) :
    ((w.answer times r).1.Allows ↔
      ∃ review request subject, r.Submits review ∧ review.request = some request ∧
        request.decode = .ok subject ∧ (w.decision times subject).isAllowed = true) ∧
    (∀ review request, r.Submits review → review.request = some request →
      (w.answer times r).1.status = 200 ∧
      (w.answer times r).1.at? ["response", "uid"] = some (.string request.uid) ∧
      (∀ problem, request.decode = .error problem →
        (w.answer times r).1.Denies ("[InvalidRequest] " ++ problem.message)) ∧
      (∀ subject, request.decode = .ok subject →
        (w.decision times subject).isAllowed = false →
        ∃ message, (w.decision times subject).message? = some message ∧
          (w.decision times subject).result = .deny (w.decision times subject).reason message ∧
          (w.answer times r).1.Denies
            ("[" ++ (w.decision times subject).reason ++ "] " ++ message))) ∧
    (∀ review, r.Submits review → review.request = none →
      (w.answer times r).1.status = 400 ∧
      (w.answer times r).1.at? ["response", "allowed"] = some (.bool false)) ∧
    ((∀ review, ¬ r.Submits review) →
      (w.answer times r).1.status ≠ 200 ∧ ∀ path, (w.answer times r).1.at? path = none) := by
  have hanswer : (w.answer times r).1 = (w.endpoint.answer times r).1 := rfl
  rw [hanswer]
  simp only [← decide_endpoint]
  refine ⟨w.endpoint.answer_allows_iff times r, ?_, ?_, ?_⟩
  · intro review request hreview hrequest
    exact w.endpoint.answer_of_request times hreview hrequest
  · intro review hreview hnone
    rw [w.endpoint.answer_of_no_request times hreview hnone]
    exact ⟨rfl, at?_refusal⟩
  · intro h
    obtain ⟨response, heq, hstatus, hnone⟩ := w.endpoint.answer_of_not_submits times h
    rw [heq]
    exact ⟨hstatus, hnone⟩

end Webhook

end AdmissionRules
