set_option autoImplicit false

/-! # Failures of serving

Why a server does not start. The details come from what reads certificates and opens sockets. -/

namespace AdmissionRules.Http

inductive ServingError where
  | tlsConfig (detail : String)
  | server (detail : String)
deriving DecidableEq

def ServingError.message : ServingError → String
  | .tlsConfig detail => "TLS configuration error: " ++ detail
  | .server detail => "Webhook server error: " ++ detail

end AdmissionRules.Http
