import AdmissionRules.Kubernetes.Discovery
import AdmissionRules.Policy.Document

set_option autoImplicit false

/-! # Rules of the webhook

The resources that the API server has to ask about: those that serve the kinds of the policy. An
entry that names an API version asks only for resources of that group, in that version. Each
resource is named once, in ascending order. -/

namespace AdmissionRules

/-- A resource of an API version, as a rule of a webhook names it. -/
structure WebhookTarget where
  group : String
  version : String
  plural : String
deriving DecidableEq

/-- Targets in ascending order of group, version and plural. -/
def WebhookTarget.before (a b : WebhookTarget) : Bool :=
  if a.group ≠ b.group then Ascending.textBefore a.group b.group
  else if a.version ≠ b.version then Ascending.textBefore a.version b.version
  else Ascending.textBefore a.plural b.plural

structure WebhookRule where
  target : WebhookTarget
  namespaced : Bool
deriving DecidableEq

/-- The rule for a resource in a version. -/
def ServedResource.rule (r : ServedResource) (version : String) : WebhookRule :=
  { target := { group := r.group, version, plural := r.plural }, namespaced := r.namespaced }

/-- The rules that an entry of the policy calls for. -/
def KindRules.webhookRules (served : ServedResources) (entry : KindRules) : List WebhookRule :=
  let resources := served.forKind entry.kind
  match entry.apiVersion with
  | some apiVersion =>
    let (group, version) := splitApiVersion apiVersion
    (resources.filter fun r => r.group = group).map (·.rule version)
  | none => resources.map fun r => r.rule r.version

/-- The rules that entries call for. Of several rules for one target the last one tells the
    scope. -/
def webhookRules (entries : List KindRules) (served : ServedResources) : List WebhookRule :=
  let called := entries.flatMap (KindRules.webhookRules served)
  (called.foldl (fun acc r => Ascending.insertBy WebhookTarget.before r.target r.namespaced acc)
    []).map fun (target, namespaced) => { target, namespaced }

end AdmissionRules
