import AdmissionRules.Kubernetes.Api
import AdmissionRules.Policy.Document

set_option autoImplicit false

/-! # Failures of reloading

A reload fails because of the config map, which only a change of it can mend, or because of the
API server, which is asked again after a while: soon if the failure may pass by itself. -/

namespace AdmissionRules

/-- Why a config map gives no policy. -/
inductive ConfigMapError where
  | missingKey (configMap key : String)
  | invalid (e : DocumentError)
deriving DecidableEq

/-- The text of an error; `yamlProblem` is what the YAML reader says of a document that it cannot
    read. -/
def ConfigMapError.message (yamlProblem : String) : ConfigMapError → String
  | .missingKey configMap key => "ConfigMap " ++ configMap ++ " is missing required key: " ++ key
  | .invalid e => "ConfigMap is not well formatted: " ++ e.message yamlProblem

inductive ReloadError where
  | configMap (e : ConfigMapError)
  | api (e : ApiError)
deriving DecidableEq

/-- What is done next about a config map. -/
inductive NextStep where
  /-- Wait until the config map changes. -/
  | awaitChange
  /-- Reconcile again after some seconds. -/
  | requeue (seconds : Nat)
deriving DecidableEq, Repr

namespace ApiError

def isNotFound (e : ApiError) : Bool := e == .refused 404

/-- Whether a failure may pass by itself: the server is unreachable, overloaded or faulty. -/
def isRetryable : ApiError → Bool
  | .refused code => 500 ≤ code || code = 429
  | .unreachable => true
  | _ => false

end ApiError

namespace ReloadError

def isNotFound : ReloadError → Bool
  | .api e => e.isNotFound
  | .configMap _ => false

def isConfigMapError : ReloadError → Bool
  | .configMap _ => true
  | .api _ => false

def isRetryable : ReloadError → Bool
  | .api e => e.isRetryable
  | .configMap _ => false

/-- The seconds to wait before another attempt. -/
def requeueSeconds (e : ReloadError) : Nat := if e.isRetryable then 30 else 300

/-- What is done after a failure. -/
def nextStep (e : ReloadError) : NextStep :=
  if e.isConfigMapError then .awaitChange else .requeue e.requeueSeconds

end ReloadError

end AdmissionRules
