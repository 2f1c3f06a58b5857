import AdmissionRules.CommandLine.Options
import AdmissionRules.Proofs.Kubernetes.Reference

set_option autoImplicit false

/-! # Options one by one

Every option has a value of its own type (`OptionKey.Value`), which is read from its text
(`OptionKey.read?`). Taking a text puts in the value of that option (`Options.take_eq_ok_iff`) and
leaves all others as they are (`Options.value_set_of_ne`). A value that is read is valid
(`OptionKey.valid_of_read?`), and so is every default (`OptionKey.valid_default`). -/

namespace AdmissionRules

/-! ## Values -/

namespace OptionKey

/-- The type of the values of an option. -/
abbrev Value : OptionKey → Type
  | .configMap => NamespacedName
  | .configKey => String
  | .serviceName => NamespacedName
  | .webhookCertificate => Option NamespacedName
  | .validatingWebhookConfiguration => Option String
  | .enableValidatingWebhook => Bool
  | .webhookPort => Nat
  | .healthPort => Nat
  | .tlsCert => String
  | .tlsKey => String
  | .decisionTimeout => Nat

/-- The value that a text says. -/
def read? : (key : OptionKey) → String → Option key.Value
  | .configMap => Options.reference?
  | .configKey => some
  | .serviceName => Options.reference?
  | .webhookCertificate => fun s => (Options.reference? s).map some
  | .validatingWebhookConfiguration => fun s => some (some s)
  | .enableValidatingWebhook => Options.truth?
  | .webhookPort => Options.port?
  | .healthPort => Options.port?
  | .tlsCert => Options.path?
  | .tlsKey => Options.path?
  | .decisionTimeout => Options.timeout?

/-- The values that an option can have. -/
def Valid : (key : OptionKey) → key.Value → Prop
  | .configMap => NamespacedName.WellFormed
  | .configKey => fun _ => True
  | .serviceName => NamespacedName.WellFormed
  | .webhookCertificate => fun r? => ∀ r ∈ r?, NamespacedName.WellFormed r
  | .validatingWebhookConfiguration => fun _ => True
  | .enableValidatingWebhook => fun _ => True
  | .webhookPort => fun n => isUnsigned 16 n
  | .healthPort => fun n => isUnsigned 16 n
  | .tlsCert => fun s => s ≠ ""
  | .tlsKey => fun s => s ≠ ""
  | .decisionTimeout => fun n => 1 ≤ n ∧ n ≤ 30

end OptionKey

namespace Options

/-- The value of an option. -/
def value (o : Options) : (key : OptionKey) → key.Value
  | .configMap => o.configMap
  | .configKey => o.configKey
  | .serviceName => o.serviceName
  | .webhookCertificate => o.webhookCertificate
  | .validatingWebhookConfiguration => o.validatingWebhookConfiguration
  | .enableValidatingWebhook => o.enableValidatingWebhook
  | .webhookPort => o.webhookPort
  | .healthPort => o.healthPort
  | .tlsCert => o.tlsCert
  | .tlsKey => o.tlsKey
  | .decisionTimeout => o.decisionTimeout

/-- The options with one value put in. -/
def set (o : Options) : (key : OptionKey) → key.Value → Options
  | .configMap, x => { o with configMap := x }
  | .configKey, x => { o with configKey := x }
  | .serviceName, x => { o with serviceName := x }
  | .webhookCertificate, x => { o with webhookCertificate := x }
  | .validatingWebhookConfiguration, x => { o with validatingWebhookConfiguration := x }
  | .enableValidatingWebhook, x => { o with enableValidatingWebhook := x }
  | .webhookPort, x => { o with webhookPort := x }
  | .healthPort, x => { o with healthPort := x }
  | .tlsCert, x => { o with tlsCert := x }
  | .tlsKey, x => { o with tlsKey := x }
  | .decisionTimeout, x => { o with decisionTimeout := x }

variable (o : Options) {o' : Options} {key other : OptionKey}

theorem value_set (x : key.Value) : (o.set key x).value key = x := by
  cases key <;> rfl

theorem value_set_of_ne (x : key.Value) (h : other ≠ key) :
    (o.set key x).value other = o.value other := by
  cases key <;> cases other <;> first | rfl | exact absurd rfl h

/-- Options are told by their values. -/
theorem eq_of_value_eq {o o' : Options} (h : ∀ key, o.value key = o'.value key) : o = o' := by
  cases o
  cases o'
  rw [Options.mk.injEq]
  exact ⟨h .configMap, h .configKey, h .serviceName, h .webhookCertificate,
    h .validatingWebhookConfiguration, h .enableValidatingWebhook, h .webhookPort, h .healthPort,
    h .tlsCert, h .tlsKey, h .decisionTimeout⟩

/-! ## Taking -/

theorem put_eq_ok_iff {α : Type} (problem : ValueProblem) (value? : Option α) (set : α → Options) :
    put problem value? set = .ok o' ↔ ∃ x, value? = some x ∧ set x = o' := by
  cases value? <;> simp [put]

/-- **Taking a text** puts in the value that it says for its option. -/
theorem take_eq_ok_iff (s : String) :
    o.take key s = .ok o' ↔ ∃ x, key.read? s = some x ∧ o.set key x = o' := by
  cases key with
  | configMap => exact put_eq_ok_iff _ _ _
  | configKey => exact put_eq_ok_iff .refused (some s) (o.set .configKey)
  | serviceName => exact put_eq_ok_iff _ _ _
  | webhookCertificate =>
      rw [take, put_eq_ok_iff]
      simp [OptionKey.read?, set]
  | validatingWebhookConfiguration => 
      exact put_eq_ok_iff .refused (some (some s)) (o.set .validatingWebhookConfiguration)
  | enableValidatingWebhook => exact put_eq_ok_iff _ _ _
  | webhookPort => exact put_eq_ok_iff _ _ _
  | healthPort => exact put_eq_ok_iff _ _ _
  | tlsCert => exact put_eq_ok_iff _ _ _
  | tlsKey => exact put_eq_ok_iff _ _ _
  | decisionTimeout => exact put_eq_ok_iff _ _ _

end Options

/-! ## Validity -/

namespace OptionKey

variable {key : OptionKey} {s : String}

theorem wellFormed_of_reference? {r : NamespacedName} (h : Options.reference? s = some r) :
    r.WellFormed :=
  ((NamespacedName.ofChars?_eq_some_iff s r).1 h).1

theorem isUnsigned_of_port? {n : Nat} (h : Options.port? s = some n) :
    isUnsigned 16 n = true := by
  unfold Options.port? at h
  exact (Option.filter_eq_some_iff.1 h).2

theorem ne_empty_of_path? {path : String} (h : Options.path? s = some path) : path ≠ "" := by
  unfold Options.path? at h
  split at h
  · cases h
  · rename_i hempty
    cases h
    exact fun heq => hempty (String.isEmpty_iff.2 heq)

theorem range_of_timeout? {n : Nat} (h : Options.timeout? s = some n) : 1 ≤ n ∧ n ≤ 30 := by
  unfold Options.timeout? at h
  simpa using (Option.filter_eq_some_iff.1 h).2

theorem valid_of_read? {x : key.Value} (h : key.read? s = some x) : key.Valid x := by
  cases key with
  | configMap => exact wellFormed_of_reference? h
  | configKey => exact trivial
  | serviceName => exact wellFormed_of_reference? h
  | webhookCertificate =>
      obtain ⟨r, hr, rfl⟩ := Option.map_eq_some_iff.1 h
      rintro _ ⟨⟩
      exact wellFormed_of_reference? hr
  | validatingWebhookConfiguration => exact trivial
  | enableValidatingWebhook => exact trivial
  | webhookPort => exact isUnsigned_of_port? h
  | healthPort => exact isUnsigned_of_port? h
  | tlsCert => exact ne_empty_of_path? h
  | tlsKey => exact ne_empty_of_path? h
  | decisionTimeout => exact range_of_timeout? h

theorem valid_default (key : OptionKey) : key.Valid (Options.default.value key) := by
  have hreference : Options.defaultReference.WellFormed := by decide
  cases key with
  | configMap => exact hreference
  | configKey => exact trivial
  | serviceName => exact hreference
  | webhookCertificate => rintro _ ⟨⟩
  | validatingWebhookConfiguration => exact trivial
  | enableValidatingWebhook => exact trivial
  | webhookPort => exact (by decide : isUnsigned 16 9443 = true)
  | healthPort => exact (by decide : isUnsigned 16 8080 = true)
  | tlsCert => exact (by decide : Options.default.tlsCert ≠ "")
  | tlsKey => exact (by decide : Options.default.tlsKey ≠ "")
  | decisionTimeout => exact (by decide : 1 ≤ Options.defaultTimeout ∧ Options.defaultTimeout ≤ 30)

end OptionKey

end AdmissionRules
