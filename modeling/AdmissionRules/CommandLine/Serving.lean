import AdmissionRules.Admission.Webhook
import AdmissionRules.CommandLine.Options

set_option autoImplicit false

/-! # Serving

The webhook is served if it is enabled and the files of its certificate and its key are there. It
gives each decision the seconds that the options say. -/

namespace AdmissionRules

/-- The webhook that is served, on a clock that has `second` instants to the second; `isThere` tells
    which paths lead to something. -/
def Options.webhook (o : Options) (isThere : String → Bool) (second : Nat) (store : Store)
    (clock : Clock) (metrics : Metrics) : Option Webhook :=
  if o.enableValidatingWebhook && isThere o.tlsCert && isThere o.tlsKey then
    some { store, timeout := o.decisionTimeout * second, clock, metrics := some metrics }
  else none

end AdmissionRules
