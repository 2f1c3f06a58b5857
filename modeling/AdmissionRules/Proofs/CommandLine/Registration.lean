import AdmissionRules.CommandLine.Serving
import AdmissionRules.Proofs.CommandLine.Resolution
import AdmissionRules.Proofs.Registration.Configuration

set_option autoImplicit false

/-! # The registration that options call for

The texts in effect for the options tell the registration (`WebhookRegistration.Agrees`): its
service and its certificate are the references that they say, and its timeout is the time that the
server gives a decision. The configuration that is made from it carries these
(`WebhookConfiguration.Carries`). The main statement (`Options.registration_consistent`) has this
for all arguments and environments that the program accepts. -/

namespace AdmissionRules

/-! ## Values by texts -/

namespace OptionKey

theorem enabled_iff_of_resolve? {text? : Option String} {enabled : Bool}
    (h : OptionKey.enableValidatingWebhook.resolve? text? true = some enabled) :
    enabled = true ↔ text?.getD "true" = "true" := by
  cases text? with
  | none =>
      cases h
      simp
  | some s =>
      have hread : Options.truth? s = some enabled := h
      unfold Options.truth? at hread
      split at hread
      · rename_i htrue
        cases hread
        simp [htrue]
      · rename_i htrue
        split at hread
        · cases hread
          simp [htrue]
        · cases hread

theorem name_of_resolve? {text? name? : Option String}
    (h : OptionKey.validatingWebhookConfiguration.resolve? text? none = some name?) :
    name? = text? := by
  cases text? <;> exact (Option.some.inj h).symm

theorem text_of_reference? {s : String} {r : NamespacedName}
    (h : Options.reference? s = some r) : r.text = s :=
  ((NamespacedName.ofChars?_eq_some_iff s r).1 h).2

theorem service_of_resolve? {text? : Option String} {fallback r : NamespacedName}
    (h : OptionKey.serviceName.resolve? text? fallback = some r) :
    r.text = text?.getD fallback.text := by
  cases text? with
  | none =>
      cases h
      rfl
  | some s => exact text_of_reference? h

theorem certificate_of_resolve? {text? : Option String} {r? : Option NamespacedName}
    (h : OptionKey.webhookCertificate.resolve? text? none = some r?) :
    r?.map NamespacedName.text = text? := by
  cases text? with
  | none =>
      cases h
      rfl
  | some s =>
      obtain ⟨r, hr, rfl⟩ := Option.map_eq_some_iff.1 h
      exact congrArg some (text_of_reference? hr)

end OptionKey

/-! ## Configurations -/

/-- A configuration carries a timeout, a service and the text of a certificate, or no annotation
    without one, and so does what is sent to the API server for it. -/
structure WebhookConfiguration.Carries (c : WebhookConfiguration) (timeout : Nat)
    (reference : NamespacedName) (certificate? : Option String) : Prop where
  timeoutSeconds : c.timeoutSeconds = timeout
  service : c.service = reference
  annotations :
    c.annotations = certificate?.map fun s => [("cert-manager.io/inject-ca-from", s)]
  sent : ∃ body webhook, c.applyCall.body = some body ∧
    body.get? "webhooks" = some (.array [webhook]) ∧
    webhook.get? "timeoutSeconds" = some (.ofNat timeout) ∧
    webhook.at? ["clientConfig", "service", "namespace"] = some (.string reference.namespace) ∧
    webhook.at? ["clientConfig", "service", "name"] = some (.string reference.name) ∧
    body.at? ["metadata", "annotations"] =
      certificate?.map fun s => .object [("cert-manager.io/inject-ca-from", .string s)]

theorem WebhookConfiguration.generate_carries (r : WebhookRegistration) (rules : List WebhookRule)
    {timeout : Nat} (htimeout : r.timeoutSeconds = timeout) :
    (generate r rules).Carries timeout r.service (r.certificate.map NamespacedName.text) := by
  have hannotations : (generate r rules).annotations =
      (r.certificate.map NamespacedName.text).map
        fun s => [("cert-manager.io/inject-ca-from", s)] := by
    rw [Option.map_map]
    rfl
  refine ⟨htimeout, rfl, hannotations, _, _, rfl, get?_toJson_webhooks _, ?_, ?_, ?_, ?_⟩
  · rw [get?_webhookJson_timeoutSeconds]
    exact congrArg (some <| Json.ofInt ·) htimeout
  · rw [at?_webhookJson_service, Json.at?_ofMembers]
    rfl
  · rw [at?_webhookJson_service, Json.at?_ofMembers]
    rfl
  · rw [at?_toJson_annotations, hannotations, Option.map_map]
    rfl

/-! ## Registrations -/

/-- A registration agrees with the texts in effect for options and with what is served under
    them. -/
structure WebhookRegistration.Agrees (r : WebhookRegistration) (o : Options)
    (text? : OptionKey → Option String) : Prop where
  name : text? .validatingWebhookConfiguration = some r.name
  timeout : r.timeoutSeconds = o.decisionTimeout
  seconds : OptionKey.decisionTimeout.resolve? (text? .decisionTimeout) 10 =
    some o.decisionTimeout
  /-- The webhook that is registered is served exactly if its certificate and its key are there. -/
  served : ∀ isThere second store clock metrics,
    (o.webhook isThere second store clock metrics).isSome ↔
      isThere o.tlsCert = true ∧ isThere o.tlsKey = true
  /-- A decision is given as many seconds as are registered. -/
  deadline : ∀ isThere second store clock metrics,
    ∀ w ∈ o.webhook isThere second store clock metrics, ∀ times,
      w.endpoint.budget times =
        .startingAt clock times.started (r.timeoutSeconds.toNat * second)
  service : r.service.text = (text? .serviceName).getD "kube-system/generic-validator"
  service_wellFormed : r.service.WellFormed
  certificate : r.certificate.map NamespacedName.text = text? .webhookCertificate
  certificate_wellFormed : ∀ c ∈ r.certificate, NamespacedName.WellFormed c
  configuration : ∀ rules, (WebhookConfiguration.generate r rules).Carries o.decisionTimeout
    r.service (text? .webhookCertificate)

namespace Options

variable {arguments : List String} {lookup? : String → Option String} {o : Options}
  {r : WebhookRegistration}

/-- The seconds of a decision fit the registration. -/
theorem isSigned_of_range {n : Nat} (h : n ≤ 30) : isSigned 32 n = true := by
  rw [isSigned_iff, show (twoTo (32 - 1) : Int) = 2147483648 from rfl]
  omega

theorem registration_eq_some_iff (htimeout : isSigned 32 o.decisionTimeout = true) :
    o.registration = some r ↔
      o.enableValidatingWebhook = true ∧ o.validatingWebhookConfiguration = some r.name ∧
        r.name ≠ "" ∧ r.service = o.serviceName ∧ r.certificate = o.webhookCertificate ∧
        r.timeoutSeconds = o.decisionTimeout := by
  rw [registration]
  cases o.enableValidatingWebhook with
  | false => simp
  | true =>
      cases o.validatingWebhookConfiguration with
      | none => simp
      | some name =>
          obtain ⟨name', service, certificate, timeout⟩ := r
          by_cases hname : name = ""
          · subst hname
            refine iff_of_false (by simp) ?_
            rintro ⟨-, ⟨⟩, hne, -⟩
            exact hne rfl
          · have hempty : name.isEmpty = false := by simpa using hname
            simp only [hempty, htimeout]
            constructor
            · rintro ⟨⟩
              exact ⟨trivial, rfl, hname, rfl, rfl, rfl⟩
            · rintro ⟨-, ⟨⟩, -, rfl, rfl, rfl⟩
              rfl

theorem isSome_registration_iff (htimeout : isSigned 32 o.decisionTimeout = true) :
    o.registration.isSome ↔
      o.enableValidatingWebhook = true ∧ o.validatingWebhookConfiguration.getD "" ≠ "" := by
  simp only [Option.isSome_iff_exists, registration_eq_some_iff htimeout]
  cases hname : o.validatingWebhookConfiguration with
  | none => simp
  | some name =>
      constructor
      · rintro ⟨r, henabled, ⟨⟩, hne, -⟩
        exact ⟨henabled, hne⟩
      · rintro ⟨henabled, hne⟩
        exact ⟨⟨name, _, _, _⟩, henabled, rfl, hne, rfl, rfl, rfl⟩

section Webhook

variable {isThere : String → Bool} {second : Nat} {store : Store} {clock : Clock}
  {metrics : Metrics}

/-- The webhook is served exactly if it is enabled and its certificate and its key are there. -/
theorem isSome_webhook_iff :
    (o.webhook isThere second store clock metrics).isSome ↔
      o.enableValidatingWebhook = true ∧ isThere o.tlsCert = true ∧ isThere o.tlsKey = true := by
  simp [webhook, and_assoc]

theorem budget_of_webhook {w : Webhook} (h : w ∈ o.webhook isThere second store clock metrics)
    (times : DecisionTimes) :
    w.endpoint.budget times = .startingAt clock times.started (o.decisionTimeout * second) := by
  obtain ⟨-, ⟨⟩⟩ := Option.ite_none_right_eq_some.1 h
  rfl

end Webhook

/-- Every registration agrees with texts that tell the values of the options. -/
theorem agrees_of_registration {text? : OptionKey → Option String}
    (hvalues : ∀ key, key.resolve? (text? key) (default.value key) = some (o.value key))
    (htimeout : isSigned 32 o.decisionTimeout = true)
    (hvalid : ∀ key, OptionKey.Valid key (o.value key))
    (hr : o.registration = some r) : r.Agrees o text? := by
  obtain ⟨henabled, hname, -, hservice, hcertificate, hseconds⟩ :=
    (registration_eq_some_iff htimeout).1 hr
  have htext : r.certificate.map NamespacedName.text = text? .webhookCertificate := by
    rw [hcertificate]
    exact OptionKey.certificate_of_resolve? (hvalues .webhookCertificate)
  refine ⟨?_, hseconds, hvalues .decisionTimeout, ?_, ?_, ?_, ?_, htext, ?_, ?_⟩
  · rw [← hname]
    exact (OptionKey.name_of_resolve? (hvalues .validatingWebhookConfiguration)).symm
  · intro isThere second store clock metrics
    rw [isSome_webhook_iff, and_iff_right henabled]
  · intro isThere second store clock metrics w hw times
    rw [budget_of_webhook hw, hseconds, Int.toNat_natCast]
  · rw [hservice]
    exact OptionKey.service_of_resolve? (hvalues .serviceName)
  · rw [hservice]
    exact hvalid .serviceName
  · rw [hcertificate]
    exact hvalid .webhookCertificate
  · intro rules
    rw [← htext]
    exact WebhookConfiguration.generate_carries r rules hseconds

/-- **The command line yields a consistent registration.** For all arguments and every environment
    that the program accepts, with the text in effect for an option taken from the arguments, else
    from the environment, else its default: the seconds of a decision are from 1 to 30, so they fit
    the registration; there is one exactly if the webhook is enabled and its configuration has a
    name that is not empty; and it agrees with the texts in effect, with the deadlines of the server,
    which runs if its certificate and its key are there, and with every configuration that is made
    from it. -/
theorem registration_consistent (h : Options.parse arguments lookup? = .ok o) :
    ∃ given, (∀ given', Gives arguments given' ↔ given' = given) ∧
      (1 ≤ o.decisionTimeout ∧ o.decisionTimeout ≤ 30 ∧ isSigned 32 o.decisionTimeout = true) ∧
      (o.registration.isSome ↔
        (textInEffect given lookup? .enableValidatingWebhook).getD "true" = "true" ∧
        (textInEffect given lookup? .validatingWebhookConfiguration).getD "" ≠ "") ∧
      ∀ r ∈ o.registration, r.Agrees o (textInEffect given lookup?) := by
  have hvalid := Options.valid_of_parse lookup? h
  have hrange : 1 ≤ o.decisionTimeout ∧ o.decisionTimeout ≤ 30 := hvalid .decisionTimeout
  have htimeout := isSigned_of_range hrange.2
  obtain ⟨given, hgives, -, hvalues⟩ := (Options.parse_iff lookup? arguments o).1 h
  have henabled : o.enableValidatingWebhook = true ↔ _ :=
    OptionKey.enabled_iff_of_resolve? (hvalues .enableValidatingWebhook)
  have hname : o.validatingWebhookConfiguration = _ :=
    OptionKey.name_of_resolve? (hvalues .validatingWebhookConfiguration)
  refine ⟨given, fun given' => ⟨fun h' => h'.unique hgives, fun h' => h' ▸ hgives⟩,
    ⟨hrange.1, hrange.2, htimeout⟩, ?_,
    fun r hr => agrees_of_registration hvalues htimeout hvalid hr⟩
  rw [isSome_registration_iff htimeout, henabled, hname]

/-- Arguments of three forms. The environment adds a certificate, and a timeout that is not looked
    at. -/
def validationArguments : List String :=
  ["--validating-webhook-configuration=gv", "--service-name", "validation/gv",
    "--decision-timeout=+7", "--"]

def validationVariables (name : String) : Option String :=
  [("GV_WEBHOOK_CERTIFICATE", "validation/gv-cert"), ("GV_DECISION_TIMEOUT", "99")].lookup name

def validationOptions : Options :=
  { default with
    serviceName := { «namespace» := "validation", name := "gv" }
    webhookCertificate := some { «namespace» := "validation", name := "gv-cert" }
    validatingWebhookConfiguration := some "gv"
    decisionTimeout := 7 }

theorem registration_consistent_validation :
    Options.parse validationArguments validationVariables = .ok validationOptions ∧
    ∃ given, Gives validationArguments given ∧ validationOptions.registration.isSome ∧
      ∀ r ∈ validationOptions.registration,
        r.Agrees validationOptions (textInEffect given validationVariables) := by
  have hparse : Options.parse validationArguments validationVariables = .ok validationOptions := by
    decide +kernel
  obtain ⟨given, hgives, -, -, hagrees⟩ := registration_consistent hparse
  exact ⟨hparse, given, (hgives given).2 rfl, by decide, hagrees⟩

end Options

end AdmissionRules
