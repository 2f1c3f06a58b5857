import AdmissionRules.Proofs.Policy.Index
import AdmissionRules.Proofs.Registration.Rules
import AdmissionRules.Reload.Reconcile

set_option autoImplicit false

/-! # The rules of the webhook do not depend on the layout of the policy

Of several rules for one target the last one tells the scope, so the order of the entries, and that
of the resources found, could play a part. It plays none if resources of one group and one name
have one scope (`ScopesAgree`): then a target has the scope of any resource that it is called for
(`mem_targetScopes_iff_calls`), and which targets are called for depends on the API versions and
kinds of the entries alone. The main statement (`webhookRules_layout`) has the case for which the
controller compares nothing but kinds. -/

namespace AdmissionRules

/-! ## Layouts -/

/-- Resources of one group and one name have one scope, whatever kinds they serve. -/
def ScopesAgree (found : List (String × ServedResource)) : Prop :=
  ∀ f ∈ found, ∀ g ∈ found,
    f.2.group = g.2.group → f.2.plural = g.2.plural → f.2.namespaced = g.2.namespaced

instance (found : List (String × ServedResource)) : Decidable (ScopesAgree found) :=
  inferInstanceAs (Decidable (∀ f ∈ found, ∀ g ∈ found,
    f.2.group = g.2.group → f.2.plural = g.2.plural → f.2.namespaced = g.2.namespaced))

namespace KindRules

/-- The entries have the same pairs of API version and kind, in whatever order, however often, and
    with whatever rules. -/
def SamePairs (entries entries' : List KindRules) : Prop :=
  ∀ apiVersion kind, (∃ entry ∈ entries, entry.apiVersion = apiVersion ∧ entry.kind = kind) ↔
    ∃ entry ∈ entries', entry.apiVersion = apiVersion ∧ entry.kind = kind

theorem SamePairs.symm {entries entries' : List KindRules} (h : SamePairs entries entries') :
    SamePairs entries' entries :=
  fun apiVersion kind => (h apiVersion kind).symm

/-! ## Targets and their scopes -/

variable {entry entry' : KindRules} {r : ServedResource} {target : WebhookTarget}

/-- An entry calls for targets under the group and the name of a resource. -/
theorem Calls.target_eq (h : entry.Calls r target) :
    target.group = r.group ∧ target.plural = r.plural := by
  cases h <;> exact ⟨rfl, rfl⟩

/-- What an entry calls for depends on its API version alone. -/
theorem Calls.of_apiVersion_eq (h : entry.Calls r target)
    (hversion : entry'.apiVersion = entry.apiVersion) : entry'.Calls r target := by
  cases h with
  | asFound hnone => exact .asFound (hversion.trans hnone)
  | asNamed apiVersion version hsome hnames =>
      exact .asNamed apiVersion version (hversion.trans hsome) hnames

end KindRules

section Layout

open KindRules

variable {entries entries' : List KindRules} {found found' : List (String × ServedResource)}

/-- If scopes agree, the scope of a target is that of any resource that it is called for. -/
theorem mem_targetScopes_iff_calls (hscopes : ScopesAgree found) (target : WebhookTarget)
    (namespaced : Bool) :
    (target, namespaced) ∈ targetScopes entries found ↔
      ∃ entry ∈ entries, ∃ r, (entry.kind, r) ∈ found ∧ entry.Calls r target ∧
        r.namespaced = namespaced := by
  have hforward : ∀ namespaced, (target, namespaced) ∈ targetScopes entries found →
      ∃ entry ∈ entries, ∃ r, (entry.kind, r) ∈ found ∧ entry.Calls r target ∧
        r.namespaced = namespaced := by
    intro namespaced h
    obtain ⟨before, ⟨entry, r⟩, after, hsplit, hcalled, -⟩ := (mem_targetScopes _ _ _ _).1 h
    have hmem : (entry, r) ∈ servings entries found := by simp [hsplit]
    obtain ⟨hentry, hr⟩ := (mem_servings _ _ _ _).1 hmem
    exact ⟨entry, hentry, r, hr, hcalled⟩
  refine ⟨hforward namespaced, ?_⟩
  rintro ⟨entry, hentry, r, hr, hcalls, rfl⟩
  have hkey : target ∈ Ascending.keys (targetScopes entries found) :=
    (mem_keys_targetScopes _ _ _).2 ⟨entry, hentry, r, hr, hcalls⟩
  obtain ⟨⟨_, namespaced⟩, hmem, rfl⟩ := List.mem_map.1 hkey
  -- the target is called for last because of some resource, whose scope is that of `r`
  obtain ⟨entry', -, r', hr', hcalls', rfl⟩ := hforward namespaced hmem
  obtain ⟨hgroup, hplural⟩ := hcalls.target_eq
  obtain ⟨hgroup', hplural'⟩ := hcalls'.target_eq
  have hscope : r.namespaced = r'.namespaced :=
    hscopes _ hr _ hr' (hgroup.symm.trans hgroup') (hplural.symm.trans hplural')
  rwa [hscope]

theorem ScopesAgree.of_perm (hscopes : ScopesAgree found) (hfound : found.Perm found') :
    ScopesAgree found' :=
  fun f hf g hg => hscopes f (hfound.mem_iff.2 hf) g (hfound.mem_iff.2 hg)

/-- Entries with the same pairs call for the same targets with the same scopes. -/
theorem targetScopes_eq (hscopes : ScopesAgree found) (hfound : found.Perm found')
    (hpairs : SamePairs entries entries') :
    targetScopes entries found = targetScopes entries' found' := by
  refine Ascending.eq_of_mem_iff WebhookTarget.before (targetScopes_pairwise _ _)
    (targetScopes_pairwise _ _) ?_
  rintro ⟨target, namespaced⟩
  rw [mem_targetScopes_iff_calls hscopes, mem_targetScopes_iff_calls (hscopes.of_perm hfound)]
  simp only [← hfound.mem_iff]
  have hmove : ∀ entries₁ entries₂, SamePairs entries₁ entries₂ →
      (∃ entry ∈ entries₁, ∃ r, (entry.kind, r) ∈ found ∧ entry.Calls r target ∧
        r.namespaced = namespaced) →
      ∃ entry ∈ entries₂, ∃ r, (entry.kind, r) ∈ found ∧ entry.Calls r target ∧
        r.namespaced = namespaced := by
    rintro entries₁ entries₂ hpairs ⟨entry, hentry, r, hr, hcalls, hscope⟩
    obtain ⟨entry', hentry', hversion, hkind⟩ :=
      (hpairs entry.apiVersion entry.kind).1 ⟨entry, hentry, rfl, rfl⟩
    exact ⟨entry', hentry', r, by rwa [hkind], hcalls.of_apiVersion_eq hversion, hscope⟩
  exact ⟨hmove _ _ hpairs, hmove _ _ hpairs.symm⟩

/-- If no entry names an API version, the kinds of two snapshots say all about their pairs. -/
theorem samePairs_of_kinds {document document' : PolicyDocument} {generation generation' : Nat}
    (hversions : ∀ entry ∈ document.entries ++ document'.entries, entry.apiVersion = none)
    (hkinds : (Snapshot.build document generation).kinds =
      (Snapshot.build document' generation').kinds) :
    SamePairs document.entries document'.entries := by
  have hnamed : ∀ kind, (∃ entry ∈ document.entries, entry.kind = kind) ↔
      ∃ entry ∈ document'.entries, entry.kind = kind := by
    intro kind
    rw [← Snapshot.mem_kinds_build document generation, hkinds, Snapshot.mem_kinds_build]
  -- without API versions a pair says no more than its kind
  have hpair : ∀ entries : List KindRules, (∀ entry ∈ entries, entry.apiVersion = none) →
      ∀ apiVersion kind,
        (∃ entry ∈ entries, entry.apiVersion = apiVersion ∧ entry.kind = kind) ↔
          apiVersion = none ∧ ∃ entry ∈ entries, entry.kind = kind := by
    intro entries hnone apiVersion kind
    constructor
    · rintro ⟨entry, hentry, rfl, hkind⟩
      exact ⟨hnone entry hentry, entry, hentry, hkind⟩
    · rintro ⟨rfl, entry, hentry, hkind⟩
      exact ⟨entry, hentry, hnone entry hentry, hkind⟩
  obtain ⟨hnone, hnone'⟩ := List.forall_mem_append.1 hversions
  intro apiVersion kind
  rw [hpair _ hnone, hpair _ hnone', hnamed]

/-- **The rules of the webhook do not depend on the layout of the policy**, nor on the order in
    which resources were found, if resources of one group and one name have one scope. Entries with
    the same pairs of API version and kind call for the same rules. So two policies without API
    versions that have the same kinds call for the same rules, and a controller that remembers the
    kinds of the one and does not find its registration outdated for the other would register the
    configuration that it has registered. -/
theorem webhookRules_layout (hscopes : ScopesAgree found) (hfound : found.Perm found') :
    (∀ entries entries', SamePairs entries entries' →
      webhookRules entries (.ofList found) = webhookRules entries' (.ofList found')) ∧
    (∀ document document' generation generation',
      (∀ entry ∈ document.entries ++ document'.entries, entry.apiVersion = none) →
      ((Snapshot.build document generation).kinds = (Snapshot.build document' generation').kinds →
        webhookRules document.entries (.ofList found) =
          webhookRules document'.entries (.ofList found')) ∧
      ∀ (s : ControllerState) (registration : WebhookRegistration),
        s.registeredKinds = some (Snapshot.build document generation).kinds →
        s.isRegistrationOutdated (Snapshot.build document' generation').kinds = false →
        WebhookConfiguration.generate registration (webhookRules document.entries (.ofList found)) =
          WebhookConfiguration.generate registration
            (webhookRules document'.entries (.ofList found'))) := by
  have hrules : ∀ entries entries', SamePairs entries entries' →
      webhookRules entries (.ofList found) = webhookRules entries' (.ofList found') := by
    intro entries entries' hpairs
    rw [webhookRules_eq, webhookRules_eq, targetScopes_eq hscopes hfound hpairs]
  refine ⟨hrules, ?_⟩
  intro document document' generation generation' hversions
  refine ⟨fun hkinds => hrules _ _ (samePairs_of_kinds hversions hkinds), ?_⟩
  intro s registration hregistered houtdated
  have hkinds : (Snapshot.build document generation).kinds =
      (Snapshot.build document' generation').kinds := by
    simpa [ControllerState.isRegistrationOutdated, hregistered] using houtdated
  rw [hrules _ _ (samePairs_of_kinds hversions hkinds)]

/-- Events, which two groups serve. -/
def foundEvents : List (String × ServedResource) :=
  [("Event", ⟨"", "v1", "events", true⟩), ("Event", ⟨"events.k8s.io", "v1", "events", true⟩)]

theorem webhookRules_layout_events :
    ScopesAgree foundEvents ∧ foundEvents.Perm foundEvents.reverse ∧
    webhookRules [{ apiVersion := some "events.k8s.io/v2", kind := "Event", rules := [] },
        { apiVersion := none, kind := "Event", rules := [] }] (.ofList foundEvents) =
      webhookRules [{ apiVersion := none, kind := "Event", rules := [] },
        { apiVersion := some "events.k8s.io/v2", kind := "Event", rules := [] },
        { apiVersion := none, kind := "Event", rules := [] }] (.ofList foundEvents.reverse) := by
  have hscopes : ScopesAgree foundEvents := by decide
  have hfound : foundEvents.Perm foundEvents.reverse := foundEvents.reverse_perm.symm
  refine ⟨hscopes, hfound, (webhookRules_layout hscopes hfound).1 _ _ ?_⟩
  intro apiVersion kind
  simp only [List.exists_mem_cons_iff, List.not_mem_nil, false_and, exists_false, or_false]
  tauto

-- without agreement the resource found last tells the scope
example :
    webhookRules [{ apiVersion := none, kind := "Event", rules := [] }]
        (.ofList [("Event", ⟨"", "v1", "events", true⟩), ("Event", ⟨"", "v1", "events", false⟩)]) ≠
      webhookRules [{ apiVersion := none, kind := "Event", rules := [] }]
        (.ofList [("Event", ⟨"", "v1", "events", false⟩),
          ("Event", ⟨"", "v1", "events", true⟩)]) := by
  decide +kernel

end Layout

end AdmissionRules
