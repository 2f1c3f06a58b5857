import AdmissionRules.CommandLine.Arguments

set_option autoImplicit false

/-! # Reports on the command line

The options in effect as a JSON value, and what is said when there are none. -/

namespace AdmissionRules

namespace WebhookRegistration

/-- A registration as it is reported. -/
def report (r : WebhookRegistration) : Json :=
  .ofMembers [
    ("name", .string r.name),
    ("webhookName", .string r.webhookName),
    ("service", .string r.service.text),
    ("certificate", (r.certificate.map fun c => Json.string c.text).getD .null),
    ("timeout", .ofInt r.timeoutSeconds)]

end WebhookRegistration

namespace Options

/-- The options in effect; what is absent is null. -/
def report (o : Options) : Json :=
  .ofMembers [
    ("configMap", .string o.configMap.text),
    ("configKey", .string o.configKey),
    ("serviceName", .string o.serviceName.text),
    ("webhookCertificate", (o.webhookCertificate.map fun c => Json.string c.text).getD .null),
    ("validatingWebhookConfiguration", (o.validatingWebhookConfiguration.map .string).getD .null),
    ("enableValidatingWebhook", .bool o.enableValidatingWebhook),
    ("webhookPort", .ofNat o.webhookPort),
    ("healthPort", .ofNat o.healthPort),
    ("tlsCert", .string o.tlsCert),
    ("tlsKey", .string o.tlsKey),
    ("decisionTimeoutSecs", .ofNat o.decisionTimeout),
    ("registration", (o.registration.map WebhookRegistration.report).getD .null)]

/-- How the program is called. -/
def usage : String :=
  "Usage: generic-validator [OPTIONS]\n\nOptions:\n"
    ++ String.join (OptionKey.all.map fun k =>
      "      --" ++ k.name ++ " <VALUE>  [env: " ++ k.variableName ++ "]\n")
    ++ "  -h, --help\n  -V, --version\n"

end Options

/-- What is said when the arguments give no options. -/
def ArgumentStop.message : ArgumentStop → String
  | .value key _ => "error: invalid value for '--" ++ key.name ++ "'\n"
  | .missingValue key => "error: a value is required for '--" ++ key.name ++ "'\n"
  | .unknown argument => "error: unexpected argument '" ++ argument ++ "'\n"
  | .repeated key => "error: the argument '--" ++ key.name ++ "' is given twice\n"
  | .unexpectedValue argument => "error: unexpected value in '" ++ argument ++ "'\n"
  | .help => Options.usage
  | .version => versionText

/-- The exit code that goes with a message: asking for help is no mistake. -/
def ArgumentStop.exitCode : ArgumentStop → Nat
  | .help => 0
  | .version => 0
  | _ => 2

end AdmissionRules
