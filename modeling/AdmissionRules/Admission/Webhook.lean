import AdmissionRules.Admission.Endpoint
import AdmissionRules.Policy.Store

set_option autoImplicit false

/-! # The webhook

The endpoint as it serves one request after the other. Each is answered under the snapshot that is
in force when it comes, and what it says about a decision is recorded if metrics are kept; whether
they are changes no answer. -/

namespace AdmissionRules

structure Webhook where
  store : Store
  /-- The time that each decision may take. -/
  timeout : Nat
  clock : Clock
  /-- The metrics, if decisions are recorded. -/
  metrics : Option Metrics

namespace Webhook

/-- What the next request is answered with. -/
def endpoint (w : Webhook) : Endpoint :=
  { snapshot := w.store.current, timeout := w.timeout, clock := w.clock }

/-- Loads a policy. -/
def load (w : Webhook) (text : String) : Except DocumentError Nat × Webhook :=
  let (answer, store) := w.store.load text
  (answer, { w with store })

/-- Records what is known of a decision, if anything is and metrics are kept. -/
def record (w : Webhook) (d? : Option DecisionRecord) : Webhook :=
  match d? with
  | some d => { w with metrics := w.metrics.map (·.recordDecision d) }
  | none => w

/-- Answers an HTTP request. -/
def answer (w : Webhook) (times : DecisionTimes) (r : Http.Request) : Http.Response × Webhook :=
  let (response, d?) := w.endpoint.answer times r
  (response, w.record d?)

end Webhook

end AdmissionRules
