import AdmissionRules.Registration.Rules

set_option autoImplicit false

/-! # Configuration of the webhook

The object by which the webhook is registered with the API server: where the server finds it, how
long it waits, and for which resources it asks. -/

namespace AdmissionRules

open Json (Reader)

/-! ## Names -/

/-- The name under which objects are managed. -/
def managerName : String := "generic-validator"

/-- The labels of every object that is managed. -/
def standardLabels (name : String) : StringMap :=
  Ascending.ofList [
    ("app.kubernetes.io/name", name),
    ("app.kubernetes.io/managed-by", managerName),
    ("app.kubernetes.io/component", "admission-webhook")]

/-- The key under which a configuration names the certificate whose authority it takes. -/
def authoritySourceKey : String := "cert-manager.io/inject-ca-from"

/-! ## Registration -/

/-- Where and how the webhook is registered. -/
structure WebhookRegistration where
  /-- The name of the configuration. -/
  name : String
  service : NamespacedName
  certificate : Option NamespacedName
  timeoutSeconds : Int
deriving DecidableEq

namespace WebhookRegistration

def webhookName (r : WebhookRegistration) : String :=
  "validate." ++ r.name ++ ".generic-validator.io"

end WebhookRegistration

structure WebhookConfiguration where
  name : String
  labels : StringMap
  annotations : Option StringMap
  webhookName : String
  service : NamespacedName
  rules : List WebhookRule
  timeoutSeconds : Int
deriving DecidableEq

namespace WebhookConfiguration

/-- The configuration that a registration calls for. -/
def generate (r : WebhookRegistration) (rules : List WebhookRule) : WebhookConfiguration :=
  { name := r.name
    labels := standardLabels r.name
    annotations := r.certificate.map fun c => [(authoritySourceKey, c.text)]
    webhookName := r.webhookName
    service := r.service
    rules
    timeoutSeconds := r.timeoutSeconds }

end WebhookConfiguration

/-! ## Writing -/

def WebhookRule.toJson (r : WebhookRule) : Json :=
  .ofMembers [
    ("apiGroups", .ofStrings [r.target.group]),
    ("apiVersions", .ofStrings [r.target.version]),
    ("operations", .ofStrings ["CREATE", "UPDATE"]),
    ("resources", .ofStrings [r.target.plural]),
    ("scope", .string (scopeName r.namespaced))]

namespace WebhookConfiguration

/-- The port of the service that fronts the webhook. -/
def servicePort : Nat := 443

/-- The path that the webhook takes reviews on. -/
def servicePath : String := "/validate"

def clientJson (c : WebhookConfiguration) : Json :=
  .ofMembers [("service", .ofMembers [
    ("namespace", .string c.service.namespace),
    ("name", .string c.service.name),
    ("path", .string servicePath),
    ("port", .ofNat servicePort)])]

/-- The webhook itself. What it cannot decide about is not admitted. -/
def webhookJson (c : WebhookConfiguration) : Json :=
  .ofMembers [
    ("name", .string c.webhookName),
    ("admissionReviewVersions", .ofStrings ["v1"]),
    ("clientConfig", c.clientJson),
    ("rules", .array (c.rules.map WebhookRule.toJson)),
    ("failurePolicy", .string "Fail"),
    ("matchPolicy", .string "Equivalent"),
    ("sideEffects", .string "None"),
    ("timeoutSeconds", .ofInt c.timeoutSeconds)]

def apiVersion : String := "admissionregistration.k8s.io/v1"

def kind : String := "ValidatingWebhookConfiguration"

def toJson (c : WebhookConfiguration) : Json :=
  .ofMembers [
    ("apiVersion", .string apiVersion),
    ("kind", .string kind),
    ("metadata", ObjectMeta.toJson
      { ObjectMeta.empty with
        name := some c.name, labels := some c.labels, annotations := c.annotations }),
    ("webhooks", .array [c.webhookJson])]

end WebhookConfiguration

/-! ## Reading

The server answers with the configuration as it stands there. Nothing of it is kept, but it has
to be one. -/

namespace WebhookConfiguration

/-- Reads a loose record of which nothing is kept. -/
def looseChecked (fields : List (String × Reader Unit)) : Reader Unit :=
  .looseRecord () (fields.map fun f => .checked .optional f.1 (.nullable f.2))

/-- Reads a value of which nothing is kept. -/
def dropped {α : Type} (read : Reader α) : Reader Unit := fun depth s =>
  (read depth s).map fun _ => ()

def anyText : Reader Unit := dropped .string

def anyTexts : Reader Unit := dropped (.list .string)

def int32 : Reader Unit := dropped (.integer (isSigned 32))

def serviceReader : Reader Unit :=
  looseChecked [("name", anyText), ("namespace", anyText), ("path", anyText), ("port", int32)]

def clientReader : Reader Unit :=
  looseChecked [("caBundle", base64), ("service", serviceReader), ("url", anyText)]

def conditionReader : Reader Unit := looseChecked [("expression", anyText), ("name", anyText)]

def requirementReader : Reader Unit :=
  looseChecked [("key", anyText), ("operator", anyText), ("values", anyTexts)]

def selectorReader : Reader Unit :=
  looseChecked [("matchExpressions", dropped (.list requirementReader)),
    ("matchLabels", dropped (.map .string))]

def ruleReader : Reader Unit :=
  looseChecked [("apiGroups", anyTexts), ("apiVersions", anyTexts), ("operations", anyTexts),
    ("resources", anyTexts), ("scope", anyText)]

def webhookReader : Reader Unit :=
  looseChecked [
    ("admissionReviewVersions", anyTexts),
    ("clientConfig", clientReader),
    ("failurePolicy", anyText),
    ("matchConditions", dropped (.list conditionReader)),
    ("matchPolicy", anyText),
    ("name", anyText),
    ("namespaceSelector", selectorReader),
    ("objectSelector", selectorReader),
    ("rules", dropped (.list ruleReader)),
    ("sideEffects", anyText),
    ("timeoutSeconds", int32)]

def reader : Reader Unit :=
  .looseRecord () (typeFields apiVersion kind ++ [
    .checked .optional "metadata" (.nullable ObjectMeta.reader),
    .checked .optional "webhooks" (.nullable (.list webhookReader))])

/-! ## Applying -/

def collectionPath : String := "/apis/admissionregistration.k8s.io/v1/validatingwebhookconfigurations"

/-- The call that makes the server's configuration the given one. -/
def applyCall (c : WebhookConfiguration) : ApiCall :=
  { method := "PATCH"
    target := withParameters (collectionPath ++ "/" ++ c.name)
      [("force", "true"), ("fieldManager", managerName)]
    contentType := some "application/apply-patch+yaml"
    body := some c.toJson }

/-- Applies a configuration, which needs a name. -/
def sendTo (server : ApiServer) (c : WebhookConfiguration) : Exchange Unit :=
  if c.name.isEmpty then .done (.error .unsendable) else server.call c.applyCall reader

end WebhookConfiguration

/-- Registers the webhook for the entries of a policy, after asking what the cluster serves. -/
def WebhookRegistration.ensure (r : WebhookRegistration) (server : ApiServer)
    (entries : List KindRules) : Exchange Unit := do
  let served ← discover server
  (WebhookConfiguration.generate r (webhookRules entries served)).sendTo server

end AdmissionRules
