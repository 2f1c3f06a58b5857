import AdmissionRules.Proofs.Json.Members
import AdmissionRules.Registration.Configuration

set_option autoImplicit false

/-! # Configurations in JSON

The JSON of a configuration tells its timeout, its service and its annotations
(`get?_webhookJson_timeoutSeconds`, `at?_webhookJson_service`, `at?_toJson_annotations`). It tells
the rules apart (`generate_toJson_inj`), so a configuration that was applied equals another of the
same registration exactly if both are for the same rules. -/

namespace AdmissionRules

/-! ## Rules -/

theorem Json.ofStrings_singleton_inj {s t : String}
    (h : Json.ofStrings [s] = Json.ofStrings [t]) : s = t := by
  simpa [Json.ofStrings] using h

theorem scopeName_inj {a b : Bool} (h : scopeName a = scopeName b) : a = b := by
  revert a b
  decide

namespace WebhookRule

theorem get?_toJson (r : WebhookRule) :
    r.toJson.get? "apiGroups" = some (.ofStrings [r.target.group]) ∧
    r.toJson.get? "apiVersions" = some (.ofStrings [r.target.version]) ∧
    r.toJson.get? "resources" = some (.ofStrings [r.target.plural]) ∧
    r.toJson.get? "scope" = some (.string (scopeName r.namespaced)) := by
  simp only [toJson, Json.get?_ofMembers]
  exact ⟨rfl, rfl, rfl, rfl⟩

theorem toJson_injective : Function.Injective toJson := by
  intro r s h
  obtain ⟨hgroup, hversion, hplural, hscope⟩ := r.get?_toJson
  obtain ⟨hgroup', hversion', hplural', hscope'⟩ := s.get?_toJson
  rw [h] at hgroup hversion hplural hscope
  have hgroups : r.target.group = s.target.group :=
    Json.ofStrings_singleton_inj (Option.some.inj (hgroup.symm.trans hgroup'))
  have hversions : r.target.version = s.target.version :=
    Json.ofStrings_singleton_inj (Option.some.inj (hversion.symm.trans hversion'))
  have hplurals : r.target.plural = s.target.plural :=
    Json.ofStrings_singleton_inj (Option.some.inj (hplural.symm.trans hplural'))
  have hscopes : r.namespaced = s.namespaced :=
    scopeName_inj (Json.string.inj (Option.some.inj (hscope.symm.trans hscope')))
  obtain ⟨⟨group, version, plural⟩, namespaced⟩ := r
  obtain ⟨⟨group', version', plural'⟩, namespaced'⟩ := s
  simp only at hgroups hversions hplurals hscopes
  rw [hgroups, hversions, hplurals, hscopes]

end WebhookRule

/-! ## Configurations -/

namespace WebhookConfiguration

theorem get?_toJson_webhooks (c : WebhookConfiguration) :
    c.toJson.get? "webhooks" = some (.array [c.webhookJson]) := by
  rw [toJson, Json.get?_ofMembers]
  rfl

theorem get?_webhookJson_rules (c : WebhookConfiguration) :
    c.webhookJson.get? "rules" = some (.array (c.rules.map WebhookRule.toJson)) := by
  rw [webhookJson, Json.get?_ofMembers]
  rfl

theorem get?_webhookJson_timeoutSeconds (c : WebhookConfiguration) :
    c.webhookJson.get? "timeoutSeconds" = some (.ofInt c.timeoutSeconds) := by
  rw [webhookJson, Json.get?_ofMembers]
  rfl

theorem at?_webhookJson_service (c : WebhookConfiguration) (path : List String) :
    c.webhookJson.at? ("clientConfig" :: "service" :: path) =
      (Json.ofMembers [("namespace", .string c.service.namespace), ("name", .string c.service.name),
        ("path", .string servicePath), ("port", .ofNat servicePort)]).at? path := by
  rw [webhookJson, Json.at?_ofMembers]
  show c.clientJson.at? ("service" :: path) = _
  rw [clientJson, Json.at?_ofMembers]
  rfl

theorem at?_toJson_annotations (c : WebhookConfiguration) :
    c.toJson.at? ["metadata", "annotations"] = c.annotations.map StringMap.toJson := by
  rw [toJson, Json.at?_ofMembers]
  show (ObjectMeta.toJson _).at? ["annotations"] = _
  rw [ObjectMeta.toJson, Json.ofPresent, Json.at?_ofMembers]
  cases c.annotations <;> rfl

theorem rules_eq_of_toJson_eq {c d : WebhookConfiguration} (h : c.toJson = d.toJson) :
    c.rules = d.rules := by
  have hwebhook : c.webhookJson = d.webhookJson := by
    have hwebhooks := c.get?_toJson_webhooks
    rw [h, d.get?_toJson_webhooks] at hwebhooks
    simpa using hwebhooks.symm
  have hrules : d.rules.map WebhookRule.toJson = c.rules.map WebhookRule.toJson := by
    have hget := c.get?_webhookJson_rules
    rw [hwebhook, d.get?_webhookJson_rules] at hget
    simpa using hget
  exact (List.map_injective_iff.2 WebhookRule.toJson_injective hrules).symm

theorem generate_toJson_inj (registration : WebhookRegistration) (rules rules' : List WebhookRule) :
    (generate registration rules).toJson = (generate registration rules').toJson
      ↔ rules = rules' := by
  constructor
  · intro h
    exact rules_eq_of_toJson_eq h
  · intro h
    rw [h]

end WebhookConfiguration

end AdmissionRules
