import AdmissionRules.Proofs.Admission.Answer
import AdmissionRules.Proofs.Metrics.Decisions

set_option autoImplicit false

/-! # Accounting for requests

A webhook is given policies and HTTP requests in any order. A request that brings something to
answer ends under one kind and one reason (`Visit.Ends`): those of the decision, or the reported
kind and the reason for an invalid request if there is nothing to decide about. The main statement
(`Webhook.run_accounts`) says that the metrics count every such request once, under its kind and
reason, and no other request at all. -/

namespace AdmissionRules

open Http (Request Response)

/-! ## How a request ends -/

/-- An HTTP request as it is handled: what it is answered with, and when. -/
structure Visit where
  endpoint : Endpoint
  times : DecisionTimes
  request : Request

namespace Visit

def response (v : Visit) : Response := (v.endpoint.answer v.times v.request).1

/-- What is recorded about the request. -/
def record? (v : Visit) : Option DecisionRecord := (v.endpoint.answer v.times v.request).2

/-- The kind and the reason with which a request ends that carries a review with a request. -/
inductive Ends (v : Visit) : String → String → Prop where
  | invalid (review : AdmissionReview) (request : AdmissionRequest) (problem : DecodeError)
      (hreview : v.request.Submits review) (hrequest : review.request = some request)
      (hdecode : request.decode = .error problem) :
      v.Ends request.kind.kind "InvalidRequest"
  | decided (review : AdmissionReview) (request : AdmissionRequest) (subject : Subject)
      (hreview : v.request.Submits review) (hrequest : review.request = some request)
      (hdecode : request.decode = .ok subject) :
      v.Ends subject.kind (v.endpoint.decide v.times subject).reason

/-! ## What is recorded -/

/-- A decision has a reason of its own. -/
theorem reason_ne_invalid (d : Decision) : d.reason ≠ "InvalidRequest" := by
  cases d with
  | allowed a => cases a <;> simp [Decision.reason, Approval.reason]
  | denied r o =>
      cases o with
      | exhausted e => cases e <;> simp [Decision.reason, Obstacle.reason]
      | violated => simp [Decision.reason, Obstacle.reason]
      | failed e => simp [Decision.reason, Obstacle.reason]

/-- A request without a review, or whose review has no request, is no success, and nothing is
    recorded about it. -/
theorem record?_eq_none (v : Visit)
    (h : ∀ review, v.request.Submits review → review.request = none) :
    v.record? = none ∧ v.response.status ≠ 200 := by
  unfold record? response
  by_cases hsubmits : ∃ review, v.request.Submits review
  · obtain ⟨review, hreview⟩ := hsubmits
    rw [v.endpoint.answer_of_no_request v.times hreview (h review hreview)]
    exact ⟨rfl, by decide⟩
  · obtain ⟨response, heq, hstatus, -⟩ :=
      v.endpoint.answer_of_not_submits v.times (not_exists.1 hsubmits)
    rw [heq]
    exact ⟨rfl, hstatus⟩

/-- What is recorded about a request with something to answer: how it ends, and a duration if
    something was decided. -/
theorem record?_eq_some (v : Visit) {review : AdmissionReview} {request : AdmissionRequest}
    (hreview : v.request.Submits review) (hrequest : review.request = some request) :
    ∃ d, v.record? = some d ∧ v.response.status = 200 ∧ v.Ends d.kind d.reason ∧
      (d.duration.isSome ↔ d.reason ≠ "InvalidRequest") := by
  unfold record? response
  cases hdecode : request.decode with
  | error problem =>
      rw [v.endpoint.answer_of_decode_error v.times hreview hrequest hdecode]
      exact ⟨_, rfl, rfl, .invalid review request problem hreview hrequest hdecode,
        by simp [invalidRequestReason]⟩
  | ok subject =>
      rw [v.endpoint.answer_of_decode_ok v.times hreview hrequest hdecode]
      exact ⟨_, rfl, rfl, .decided review request subject hreview hrequest hdecode,
        by simp [reason_ne_invalid]⟩

theorem Ends.exists_record {v : Visit} {kind reason : String} (h : v.Ends kind reason) :
    ∃ d, v.record? = some d ∧ d.kind = kind ∧ d.reason = reason := by
  unfold record?
  cases h with
  | invalid review request problem hreview hrequest hdecode =>
      rw [v.endpoint.answer_of_decode_error v.times hreview hrequest hdecode]
      exact ⟨_, rfl, rfl, rfl⟩
  | decided review request subject hreview hrequest hdecode =>
      rw [v.endpoint.answer_of_decode_ok v.times hreview hrequest hdecode]
      exact ⟨_, rfl, rfl, rfl⟩

/-- Either a request brings something to answer, or nothing is recorded about it. -/
theorem record?_cases (v : Visit) :
    (v.record? = none ∧ v.response.status ≠ 200) ∨
    ∃ d, v.record? = some d ∧ v.response.status = 200 ∧ v.Ends d.kind d.reason ∧
      (d.duration.isSome ↔ d.reason ≠ "InvalidRequest") := by
  by_cases hrequest : ∃ review request, v.request.Submits review ∧ review.request = some request
  · obtain ⟨review, request, hreview, hrequest⟩ := hrequest
    exact .inr (v.record?_eq_some hreview hrequest)
  · refine .inl (v.record?_eq_none fun review hreview => ?_)
    rw [Option.eq_none_iff_forall_ne_some]
    exact fun request hsome => hrequest ⟨review, request, hreview, hsome⟩

theorem ends_iff (v : Visit) (kind reason : String) :
    v.Ends kind reason ↔ ∃ d, v.record? = some d ∧ d.kind = kind ∧ d.reason = reason := by
  constructor
  · exact Ends.exists_record
  · rintro ⟨d, hd, rfl, rfl⟩
    rcases v.record?_cases with ⟨hnone, -⟩ | ⟨d', hsome, -, hends, -⟩
    · rw [hnone] at hd
      cases hd
    · rw [hsome] at hd
      cases hd
      exact hends

instance decidableEnds (v : Visit) (kind reason : String) : Decidable (v.Ends kind reason) :=
  decidable_of_iff (v.record?.any fun d => d.kind = kind ∧ d.reason = reason) <| by
    rw [ends_iff]
    cases v.record? <;> simp

/-! ## Many requests -/

section Records

variable (visits : List Visit)

/-- What is recorded about some requests. -/
def records : List DecisionRecord := visits.filterMap Visit.record?

theorem records_cons (v : Visit) : records (v :: visits) = v.record?.toList ++ records visits := by
  rw [records, List.filterMap_cons]
  cases v.record? <;> rfl

theorem countP_records_ends (kind reason : String) :
    (records visits).countP (fun d => d.kind = kind ∧ d.reason = reason) =
      visits.countP (·.Ends kind reason) := by
  rw [records, List.countP_filterMap]
  refine List.countP_congr fun v _ => ?_
  rw [decide_eq_true_iff, v.ends_iff]
  cases v.record? <;> simp

theorem length_records :
    (records visits).length = visits.countP (·.response.status = 200) := by
  rw [records, List.length_filterMap_eq_countP]
  refine List.countP_congr fun v _ => ?_
  rw [decide_eq_true_iff]
  rcases v.record?_cases with ⟨hnone, hstatus⟩ | ⟨d, hsome, hstatus, -⟩
  · simp [hnone, hstatus]
  · simp [hsome, hstatus]

/-- What is recorded has a duration if and only if something was decided. -/
theorem duration_of_mem_records {d : DecisionRecord} (h : d ∈ records visits) :
    d.duration.isSome ↔ d.reason ≠ "InvalidRequest" := by
  obtain ⟨v, -, hv⟩ := List.mem_filterMap.1 h
  rcases v.record?_cases with ⟨hnone, -⟩ | ⟨d', hsome, -, -, hduration⟩
  · rw [hnone] at hv
    cases hv
  · rw [hsome] at hv
    cases hv
    exact hduration

end Records

end Visit

/-! ## Runs of a webhook -/

namespace Webhook

/-- What can come to a webhook. -/
inductive Step where
  | load (text : String)
  | request (times : DecisionTimes) (r : Request)

/-- A webhook after some steps, and the responses to the requests among them. -/
def run : Webhook → List Step → Webhook × List Response
  | w, [] => (w, [])
  | w, .load text :: rest => (w.load text).2.run rest
  | w, .request times r :: rest =>
    let (response, w) := w.answer times r
    let (w, responses) := w.run rest
    (w, response :: responses)

/-- The request that a webhook is about to answer. -/
def visit (w : Webhook) (times : DecisionTimes) (r : Request) : Visit :=
  { endpoint := w.endpoint, times, request := r }

/-- The requests among some steps, each with the endpoint that the policies loaded before it
    make. -/
def visits : Webhook → List Step → List Visit
  | _, [] => []
  | w, .load text :: rest => (w.load text).2.visits rest
  | w, .request times r :: rest => w.visit times r :: w.visits rest

/-- The webhook with other metrics, or with none. -/
def withMetrics (w : Webhook) (metrics : Option Metrics) : Webhook := { w with metrics }

theorem visits_withMetrics (w : Webhook) (metrics : Option Metrics) (steps : List Step) :
    (w.withMetrics metrics).visits steps = w.visits steps := by
  induction steps generalizing w with
  | nil => rfl
  | cons step rest ih =>
      cases step with
      | load text => exact ih (w.load text).2
      | request times r => exact congrArg _ (ih w)

/-- The webhook with all that is recorded about a request in its metrics, if it keeps any. -/
def recording (w : Webhook) (v : Visit) : Webhook :=
  w.withMetrics (w.metrics.map (·.recordAll v.record?.toList))

/-- Answering changes nothing but the metrics. -/
theorem answer_eq (w : Webhook) (times : DecisionTimes) (r : Request) :
    w.answer times r = ((w.visit times r).response, w.recording (w.visit times r)) := by
  refine Prod.ext rfl ?_
  show w.record (w.visit times r).record? = _
  unfold recording
  cases (w.visit times r).record? with
  | none => exact (congrArg w.withMetrics Option.map_id').symm
  | some d => rfl

theorem run_request (w : Webhook) (times : DecisionTimes) (r : Request) (rest : List Step) :
    w.run (.request times r :: rest) =
      (((w.recording (w.visit times r)).run rest).1,
        (w.visit times r).response :: ((w.recording (w.visit times r)).run rest).2) := by
  rw [run, answer_eq]

/-- Each request is answered as it would be alone. -/
theorem run_responses (w : Webhook) (steps : List Step) :
    (w.run steps).2 = (w.visits steps).map Visit.response := by
  induction steps generalizing w with
  | nil => rfl
  | cons step rest ih =>
      cases step with
      | load text => exact ih (w.load text).2
      | request times r =>
          rw [run_request, visits, List.map_cons, ih, recording, visits_withMetrics]

/-- The metrics after a run are those before it with what is recorded about each request. -/
theorem run_metrics (w : Webhook) (steps : List Step) :
    (w.run steps).1.metrics =
      w.metrics.map (·.recordAll (Visit.records (w.visits steps))) := by
  induction steps generalizing w with
  | nil => exact Option.map_id'.symm
  | cons step rest ih =>
      cases step with
      | load text => exact ih (w.load text).2
      | request times r =>
          -- the rest of the run starts from metrics that hold this request already
          rw [run_request, ih, recording, visits_withMetrics, visits, Visit.records_cons]
          show (w.metrics.map _).map _ = _
          rw [Option.map_map]
          simp only [Function.comp_def, Metrics.recordAll, List.foldl_append]

/-! ## The accounts -/

/-- A request that brings nothing to answer changes nothing. -/
theorem answer_of_nothing (w : Webhook) (times : DecisionTimes) (r : Request)
    (h : ∀ review, r.Submits review → review.request = none) : (w.answer times r).2 = w := by
  rw [answer_eq, recording, ((w.visit times r).record?_eq_none h).1]
  exact congrArg w.withMetrics Option.map_id'

/-- **The metrics of a webhook account for every request once.** After any policies and requests,
    the counter for a kind and a reason holds the number of the requests that ended under them; all
    counters together hold the number of answers with status 200; and as many durations were
    measured for a kind as there were requests with a decision about it. A request that brings
    nothing to answer changes nothing, and the answers are the same whatever metrics are kept. -/
theorem run_accounts (store : Store) (timeout : Nat) (clock : Clock) (steps : List Step) :
    let w : Webhook := { store, timeout, clock, metrics := some .new }
    ∃ m, (w.run steps).1.metrics = some m ∧
      (∀ kind reason,
        m.decisionCount kind reason = (w.visits steps).countP (·.Ends kind reason)) ∧
      m.decisionTotal (fun _ => true) = (w.run steps).2.countP (·.status = 200) ∧
      (∀ kind, m.durationCount kind =
        m.decisionTotal fun label => label.1 = kind ∧ label.2 ≠ "InvalidRequest") ∧
      (∀ times r, (∀ review, r.Submits review → review.request = none) →
        ((w.run steps).1.answer times r).2 = (w.run steps).1) ∧
      ∀ metrics, ((w.withMetrics metrics).run steps).2 = (w.run steps).2 := by
  intro w
  let records := Visit.records (w.visits steps)
  refine ⟨Metrics.new.recordAll records, w.run_metrics steps, fun kind reason => ?_, ?_,
    fun kind => ?_, fun times r => (w.run steps).1.answer_of_nothing times r, fun metrics => ?_⟩
  · rw [Metrics.decisionCount_recordAll, Metrics.decisionCount_new, Nat.zero_add,
      Visit.countP_records_ends]
  · rw [Metrics.decisionTotal_recordAll Metrics.countersAscend_new, Metrics.decisionTotal_new,
      Nat.zero_add, List.countP_true, Visit.length_records, run_responses, List.countP_map]
    rfl
  · rw [Metrics.durationCount_recordAll, Metrics.durationCount_new,
      Metrics.decisionTotal_recordAll Metrics.countersAscend_new, Metrics.decisionTotal_new]
    -- what is recorded has a duration exactly if its reason is not that of an invalid request
    congr 1
    refine List.countP_congr fun d hd => ?_
    simp only [decide_eq_true_iff, Visit.duration_of_mem_records _ hd]
  · rw [run_responses, run_responses, visits_withMetrics]

end Webhook

end AdmissionRules
