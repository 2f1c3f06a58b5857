import AdmissionRules.Registration.Configuration

set_option autoImplicit false

/-! # Options

The options of the program with their defaults, and how the text of an option is taken. -/

namespace AdmissionRules

/-! ## Keys -/

inductive OptionKey where
  | configMap
  | configKey
  | serviceName
  | webhookCertificate
  | validatingWebhookConfiguration
  | enableValidatingWebhook
  | webhookPort
  | healthPort
  | tlsCert
  | tlsKey
  | decisionTimeout
deriving DecidableEq, Repr

namespace OptionKey

/-- All keys in the order in which the environment is looked at. -/
def all : List OptionKey :=
  [.configMap, .configKey, .serviceName, .webhookCertificate, .validatingWebhookConfiguration,
    .enableValidatingWebhook, .webhookPort, .healthPort, .tlsCert, .tlsKey, .decisionTimeout]

/-- The name of an option on the command line, behind two dashes. -/
def name : OptionKey → String
  | .configMap => "config-map"
  | .configKey => "config-key"
  | .serviceName => "service-name"
  | .webhookCertificate => "webhook-certificate"
  | .validatingWebhookConfiguration => "validating-webhook-configuration"
  | .enableValidatingWebhook => "enable-validating-webhook"
  | .webhookPort => "webhook-port"
  | .healthPort => "health-port"
  | .tlsCert => "tls-cert"
  | .tlsKey => "tls-key"
  | .decisionTimeout => "decision-timeout"

/-- The variable of the environment that stands for an option. -/
def variableName : OptionKey → String
  | .configMap => "GV_CONFIG_MAP"
  | .configKey => "GV_CONFIG_KEY"
  | .serviceName => "GV_SERVICE_NAME"
  | .webhookCertificate => "GV_WEBHOOK_CERTIFICATE"
  | .validatingWebhookConfiguration => "GV_VALIDATING_WEBHOOK_CONFIGURATION"
  | .enableValidatingWebhook => "GV_ENABLE_VALIDATING_WEBHOOK"
  | .webhookPort => "GV_WEBHOOK_PORT"
  | .healthPort => "GV_HEALTH_PORT"
  | .tlsCert => "GV_TLS_CERT"
  | .tlsKey => "GV_TLS_KEY"
  | .decisionTimeout => "GV_DECISION_TIMEOUT"

def ofName? (s : String) : Option OptionKey := all.find? fun k => k.name = s

end OptionKey

/-! ## Options -/

structure Options where
  /-- The config map that holds the policy. -/
  configMap : NamespacedName
  configKey : String
  /-- The service that fronts the webhook. -/
  serviceName : NamespacedName
  webhookCertificate : Option NamespacedName
  validatingWebhookConfiguration : Option String
  enableValidatingWebhook : Bool
  webhookPort : Nat
  healthPort : Nat
  tlsCert : String
  tlsKey : String
  /-- The seconds that a decision may take. -/
  decisionTimeout : Nat
deriving DecidableEq

namespace Options

/-- The seconds that a decision may take unless something else is said. -/
def defaultTimeout : Nat := 10

/-- The name of the config map and of the service unless something else is said. -/
def defaultReference : NamespacedName :=
  { «namespace» := "kube-system", name := "generic-validator" }

def default : Options :=
  { configMap := defaultReference
    configKey := "config.yml"
    serviceName := defaultReference
    webhookCertificate := none
    validatingWebhookConfiguration := none
    enableValidatingWebhook := true
    webhookPort := 9443
    healthPort := 8080
    tlsCert := "/etc/webhook/certs/tls.crt"
    tlsKey := "/etc/webhook/certs/tls.key"
    decisionTimeout := defaultTimeout }

/-- The registration of the webhook, if it is enabled and its configuration has a name. -/
def registration (o : Options) : Option WebhookRegistration :=
  if !o.enableValidatingWebhook then none
  else
    match o.validatingWebhookConfiguration with
    | none => none
    | some name =>
      if name.isEmpty then none
      else
        some {
          name
          service := o.serviceName
          certificate := o.webhookCertificate
          timeoutSeconds := if isSigned 32 o.decisionTimeout then o.decisionTimeout else defaultTimeout }

end Options

/-! ## Taking values -/

/-- Why a text is not taken as the value of an option. -/
inductive ValueProblem where
  /-- The text does not read as a value of the type, or is out of range. -/
  | refused
  /-- The text is none of the values that there are, or is empty where it must not be. -/
  | impossible
deriving DecidableEq, Repr

namespace Options

/-- A decimal natural, with a plus sign or without. -/
def natural? (cs : List Char) : Option Nat :=
  let digits := match cs with
    | '+' :: rest => rest
    | cs => cs
  if digits.isEmpty || !digits.all Char.isDigit then none
  else some (Json.Numeral.digitsValue digits)

/-- A port number. Minus zero is zero. -/
def port? (s : String) : Option Nat :=
  let n? := match s.toList with
    | '-' :: digits => if digits.all (· = '0') then natural? digits else none
    | cs => natural? cs
  n?.filter fun n => isUnsigned 16 n

/-- The seconds of a decision, from 1 up to 30. -/
def timeout? (s : String) : Option Nat :=
  (natural? s.toList).filter fun n => 1 ≤ n && n ≤ 30

def reference? (s : String) : Option NamespacedName := NamespacedName.ofChars? s.toList

def truth? (s : String) : Option Bool :=
  if s = "true" then some true else if s = "false" then some false else none

/-- The path of a file, which must not be empty. -/
def path? (s : String) : Option String := if s.isEmpty then none else some s

/-- The options with a value put in, if there is one. -/
def put {α : Type} (problem : ValueProblem) (value? : Option α) (set : α → Options) :
    Except ValueProblem Options :=
  match value? with
  | some x => .ok (set x)
  | none => .error problem

/-- The options with the text of one of them taken. -/
def take (o : Options) (key : OptionKey) (s : String) : Except ValueProblem Options :=
  match key with
  | .configMap => put .refused (reference? s) fun x => { o with configMap := x }
  | .configKey => .ok { o with configKey := s }
  | .serviceName => put .refused (reference? s) fun x => { o with serviceName := x }
  | .webhookCertificate =>
    put .refused (reference? s) fun x => { o with webhookCertificate := some x }
  | .validatingWebhookConfiguration => .ok { o with validatingWebhookConfiguration := some s }
  | .enableValidatingWebhook =>
    put .impossible (truth? s) fun x => { o with enableValidatingWebhook := x }
  | .webhookPort => put .refused (port? s) fun x => { o with webhookPort := x }
  | .healthPort => put .refused (port? s) fun x => { o with healthPort := x }
  | .tlsCert => put .impossible (path? s) fun x => { o with tlsCert := x }
  | .tlsKey => put .impossible (path? s) fun x => { o with tlsKey := x }
  | .decisionTimeout => put .refused (timeout? s) fun x => { o with decisionTimeout := x }

end Options

end AdmissionRules
