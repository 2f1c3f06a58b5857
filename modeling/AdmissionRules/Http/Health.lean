import AdmissionRules.Http.Basic
import AdmissionRules.Metrics.Exposition

set_option autoImplicit false

/-! # The health endpoint

Tells whether the program runs, whether it is ready, and its metrics. -/

namespace AdmissionRules

structure Health where
  ready : Bool
  metrics : Metrics

namespace Health

def new : Health := { ready := false, metrics := .new }

open Http (Request Response)

def livePage : Response := .plain 200 "ok"

def readyPage (h : Health) : Response :=
  if h.ready then .plain 200 "ready" else .plain 503 "not ready"

def metricsPage (h : Health) : Response :=
  .text 200 "text/plain; version=0.0.4; charset=utf-8" h.metrics.text

/-- The page at a path. -/
def page? (h : Health) (path : String) : Option Response :=
  if path = "/healthz" then some livePage
  else if path = "/readyz" then some h.readyPage
  else if path = "/metrics" then some h.metricsPage
  else none

def answer (h : Health) (r : Request) : Response :=
  match h.page? r.path with
  | some page => r.answerRead page
  | none => .notFound

end Health

end AdmissionRules
