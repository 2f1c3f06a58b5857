import AdmissionRules.Proofs.Reload.AllOrNothing

set_option autoImplicit false

/-! # The webhook is registered until it succeeds, and not again

A controller remembers the kinds of the configuration that the API server took last. A
reconciliation attempts to register the webhook exactly if it accepts a policy with other kinds
(`Course.attempts_iff`), and an attempt that fails leaves what is remembered as it is, so the next
policy with other kinds leads to another one. The main statement
(`Course.registration_retried`) says so behind any reconciliations, however discovery and the
server answered. -/

namespace AdmissionRules

/-! ## Kinds of policies -/

/-- The kinds that the entries of a policy name, in ascending order, each once. -/
def PolicyDocument.kinds (d : PolicyDocument) : List String :=
  Ascending.set (d.entries.map (·.kind))

theorem Snapshot.kinds_build (d : PolicyDocument) (generation : Nat) :
    (build d generation).kinds = d.kinds := by
  refine (kinds_build_pairwise d generation).eq_of_mem_iff (Ascending.set_pairwise _) ?_
  intro kind
  rw [mem_kinds_build, PolicyDocument.kinds, Ascending.mem_set, List.mem_map]

/-- The kinds of the policy that an occasion puts in force. -/
def Occasion.kinds? (key : String) (o : Occasion) : Option (List String) :=
  (o.accepted? key).map (·.kinds)

theorem Occasion.accepted?_eq_some_iff {key : String} {o : Occasion} {d : PolicyDocument} :
    o.accepted? key = some d ↔
      o.configMap.isBeingDeleted = false ∧ o.configMap.policy key = .ok d := by
  constructor
  · intro h
    cases hm : o.configMap.isBeingDeleted with
    | true =>
        rw [accepted?_of_deleted hm] at h
        cases h
    | false =>
        rw [accepted?, hm] at h
        exact ⟨rfl, eq_ok_of_toOption h⟩
  · rintro ⟨hm, hpolicy⟩
    rw [accepted?_of_policy hm hpolicy]
    rfl

/-! ## Attempts -/

/-- How an attempt to register the webhook for a policy goes: what it asks of the API server, and
    how it ends. Discovery comes first, and what it finds is applied. -/
inductive Attempt (registration : WebhookRegistration) (server : ApiServer) (d : PolicyDocument) :
    List ApiRequest → Except ApiError Unit → Prop where
  | undiscovered (e : ApiError) (h : (discover server).result = .error e) :
      Attempt registration server d (discover server).requests (.error e)
  | applied (served : ServedResources) (h : (discover server).result = .ok served)
      (answer : Exchange Unit)
      (hsend : (WebhookConfiguration.generate registration
        (webhookRules d.entries served)).sendTo server = answer) :
      Attempt registration server d ((discover server).requests ++ answer.requests) answer.result

theorem discover_asks (server : ApiServer) : (discover server).requests ≠ [] := by
  have hget : (server.get "/apis" ApiGroup.listReader).requests ≠ [] := by
    have htarget : (Http.Target.ofText? "/apis").isSome = true := by decide +kernel
    obtain ⟨target, ht⟩ := Option.isSome_iff_exists.1 htarget
    simp [ApiServer.get, ApiServer.call, ApiCall.request?, ApiCall.get, ht]
  unfold discover
  cases hresult : (server.get "/apis" ApiGroup.listReader).result with
  | error e =>
      rw [Exchange.bind_of_error hresult]
      exact hget
  | ok groups =>
      rw [Exchange.bind_of_ok hresult]
      intro hnil
      exact hget (List.append_eq_nil_iff.1 hnil).1

section Attempt

variable {registration : WebhookRegistration} {server : ApiServer} {d : PolicyDocument}

theorem Attempt.requests_ne_nil {requests : List ApiRequest} {outcome : Except ApiError Unit}
    (h : Attempt registration server d requests outcome) : requests ≠ [] := by
  cases h with
  | undiscovered e _ => exact discover_asks server
  | applied served _ answer _ =>
      intro hnil
      exact discover_asks server (List.append_eq_nil_iff.1 hnil).1

theorem WebhookRegistration.ensure_attempt (registration : WebhookRegistration)
    (server : ApiServer) (d : PolicyDocument) :
    Attempt registration server d (registration.ensure server d.entries).requests
      (registration.ensure server d.entries).result := by
  unfold ensure
  cases hresult : (discover server).result with
  | error e =>
      rw [Exchange.bind_of_error hresult]
      exact .undiscovered e hresult
  | ok served =>
      rw [Exchange.bind_of_ok hresult]
      exact .applied served hresult _ rfl

end Attempt

/-! ## One reconciliation -/

namespace ControllerState

variable {settings : ControllerSettings} {registration : WebhookRegistration}

/-- What a controller remembers after an attempt. -/
def afterAttempt (before : Option (List String)) (kinds : List String) :
    Except ApiError Unit → Option (List String)
  | .ok () => some kinds
  | .error _ => before

/-- Registering the webhook decides what is asked behind an accepted policy, events apart, how the
    reconciliation ends, and which kinds are remembered. -/
theorem accept_of_register (settings : ControllerSettings) (server : ApiServer) (time : Nat)
    (m : ConfigMap) {s : ControllerState} (generation : Nat) {registered : Exchange ControllerState}
    (h : (s.counted time).register settings server = registered) :
    let r := s.accept settings server time m generation
    r.requests.filter (·.method ≠ "POST") = registered.requests ∧
    r.result = (registered.result.map fun _ => ()).mapError .api ∧
    r.state.registeredKinds =
      match registered.result with
      | .ok next => next.registeredKinds
      | .error _ => s.registeredKinds := by
  intro r
  have hr : r =
      { result := (registered.result.map fun _ => ()).mapError .api
        state := match registered.result with
          | .ok next => next
          | .error _ => s.counted time
        events := [loadedEvent generation s.store.current]
        requests := publishEvent server ((loadedEvent generation s.store.current).call
          settings.reporter m time) ++ registered.requests } := by
    rw [← h]
    rfl
  -- events are posted and nothing else is, so leaving out posts leaves out events
  have hevent : (publishEvent server ((loadedEvent generation s.store.current).call
      settings.reporter m time)).filter (·.method ≠ "POST") = [] := by
    rw [List.filter_eq_nil_iff]
    intro request hrequest
    rw [server.call_sends _ .any request hrequest]
    simp [EventText.call]
  have hasked : registered.requests.filter (·.method ≠ "POST") = registered.requests := by
    rw [List.filter_eq_self, ← h]
    intro request hrequest
    exact decide_eq_true (register_sends settings server _ request hrequest)
  rw [hr]
  refine ⟨?_, rfl, ?_⟩
  · rw [List.filter_append, hevent, hasked, List.nil_append]
  · cases registered.result <;> rfl

/-- A policy with the kinds remembered leaves the webhook as it is. -/
theorem accept_of_registered (hreg : settings.registration = some registration)
    (server : ApiServer) (time : Nat) (m : ConfigMap) (s : ControllerState) (generation : Nat)
    (h : s.registeredKinds = some s.store.current.kinds) :
    let r := s.accept settings server time m generation
    r.requests.filter (·.method ≠ "POST") = [] ∧ r.result = .ok () ∧
      r.state.registeredKinds = s.registeredKinds :=
  accept_of_register settings server time m generation (register_of_registered hreg server _ h)

/-- A policy with other kinds leads to an attempt, and the kinds are remembered once it
    succeeds. -/
theorem accept_of_outdated (hreg : settings.registration = some registration)
    (server : ApiServer) (time : Nat) (m : ConfigMap) (s : ControllerState) (generation : Nat)
    (h : s.registeredKinds ≠ some s.store.current.kinds) :
    let r := s.accept settings server time m generation
    ∃ outcome,
      Attempt registration server s.store.current.document
        (r.requests.filter (·.method ≠ "POST")) outcome ∧
      r.result = outcome.mapError .api ∧
      r.state.registeredKinds = afterAttempt s.registeredKinds s.store.current.kinds outcome := by
  intro r
  have hattempt := registration.ensure_attempt server s.store.current.document
  have hregister := register_of_outdated hreg server (s.counted time) h
  cases hensure : (registration.ensure server s.store.current.document.entries).result with
  | error e =>
      obtain ⟨hrequests, hresult, hkinds⟩ := accept_of_register settings server time m generation
        (hregister.trans (Exchange.bind_of_error hensure _))
      rw [hensure, ← hrequests] at hattempt
      exact ⟨_, hattempt, hresult, hkinds⟩
  | ok u =>
      obtain ⟨hrequests, hresult, hkinds⟩ := accept_of_register settings server time m generation
        (hregister.trans (Exchange.bind_of_ok hensure _))
      -- remembering the kinds asks nothing
      have hasked : _ = (registration.ensure server s.store.current.document.entries).requests :=
        hrequests.trans (List.append_nil _)
      rw [hensure, ← hasked] at hattempt
      exact ⟨_, hattempt, hresult, hkinds⟩

end ControllerState

namespace Course

open ControllerState (afterAttempt)

/-- The kinds that the controller remembers. -/
def remembered (c : Course) : Option (List String) := c.controller.registeredKinds

/-- What a reconciliation asks of the API server about the webhook: all but the events that it
    tells. -/
def asked (settings : ControllerSettings) (c : Course) (o : Occasion) : List ApiRequest :=
  (c.reconcile settings o).requests.filter (·.method ≠ "POST")

variable {settings : ControllerSettings} {registration : WebhookRegistration} {c : Course}
  {o : Occasion}

/-- An occasion without an accepted policy changes the counts at most. -/
theorem step_of_not_accepted (hnone : o.accepted? settings.key = none) :
    c.asked settings o = [] ∧
      ∃ metrics, c.step settings o = { c with controller := { c.controller with metrics } } := by
  cases hm : o.configMap.isBeingDeleted with
  | true =>
      obtain ⟨-, -, hrequests, hstep⟩ := c.step_of_deleted settings o hm
      rw [asked, hrequests]
      exact ⟨rfl, c.controller.metrics, hstep⟩
  | false =>
      cases hpolicy : o.configMap.policy settings.key with
      | ok d =>
          rw [Occasion.accepted?_of_policy hm hpolicy] at hnone
          cases hnone
      | error e =>
          obtain ⟨-, ⟨event, -, -, -, hrequests⟩, hstep⟩ := c.step_of_refused settings o hm hpolicy
          refine ⟨?_, _, hstep⟩
          rw [asked, hrequests, List.filter_eq_nil_iff]
          intro r hr
          obtain ⟨target, -, rfl⟩ := Option.map_eq_some_iff.1 (Option.mem_toList.1 hr)
          simp [EventText.call]

theorem remembered_of_not_accepted (hnone : o.accepted? settings.key = none) :
    (c.step settings o).remembered = c.remembered := by
  obtain ⟨-, metrics, hstep⟩ := step_of_not_accepted (c := c) hnone
  rw [hstep]
  rfl

/-- An accepted policy is put in force before anything is done about the webhook. -/
theorem reconcile_of_accepted (hc : c.controller.store.InStep) {d : PolicyDocument}
    (hd : o.accepted? settings.key = some d) :
    c.reconcile settings o =
      { c.controller with store := c.controller.store.advance d }.accept settings o.server o.time
        o.configMap (c.inForce.generation + 1) := by
  obtain ⟨hm, hpolicy⟩ := Occasion.accepted?_eq_some_iff.1 hd
  exact ControllerState.reconcile_of_accepted settings o.server o.time hc hm hpolicy

/-- A policy with the kinds remembered leaves the webhook as it is. -/
theorem step_of_registered (hreg : settings.registration = some registration)
    (hc : c.controller.store.InStep) {d : PolicyDocument}
    (hd : o.accepted? settings.key = some d) (h : c.remembered = some d.kinds) :
    c.asked settings o = [] ∧ (c.reconcile settings o).result = .ok () ∧
      (c.step settings o).remembered = c.remembered := by
  rw [← Snapshot.kinds_build d (c.inForce.generation + 1)] at h
  show List.filter _ (c.reconcile settings o).requests = [] ∧ _ ∧
    (c.reconcile settings o).state.registeredKinds = _
  rw [reconcile_of_accepted hc hd]
  exact ControllerState.accept_of_registered hreg o.server o.time o.configMap _ _ h

/-- A policy with other kinds leads to an attempt, and the kinds are remembered once it
    succeeds. -/
theorem step_of_outdated (hreg : settings.registration = some registration)
    (hc : c.controller.store.InStep) {d : PolicyDocument}
    (hd : o.accepted? settings.key = some d) (h : c.remembered ≠ some d.kinds) :
    ∃ outcome, Attempt registration o.server d (c.asked settings o) outcome ∧
      (c.reconcile settings o).result = outcome.mapError .api ∧
      (c.step settings o).remembered = afterAttempt c.remembered d.kinds outcome := by
  rw [← Snapshot.kinds_build d (c.inForce.generation + 1)] at h ⊢
  show ∃ outcome, Attempt registration o.server d
    (List.filter _ (c.reconcile settings o).requests) outcome ∧ _ ∧
    (c.reconcile settings o).state.registeredKinds = _
  rw [reconcile_of_accepted hc hd]
  exact ControllerState.accept_of_outdated hreg o.server o.time o.configMap
    { c.controller with store := c.controller.store.advance d } _ h

/-- A reconciliation attempts to register the webhook exactly if it accepts a policy with other
    kinds than those remembered. -/
theorem attempts_iff (hreg : settings.registration = some registration)
    (hc : c.controller.store.InStep) (o : Occasion) :
    c.asked settings o ≠ [] ↔
      ∃ kinds, o.kinds? settings.key = some kinds ∧ c.remembered ≠ some kinds := by
  cases hd : o.accepted? settings.key with
  | none => simp [Occasion.kinds?, hd, (step_of_not_accepted hd).1]
  | some d =>
      by_cases h : c.remembered = some d.kinds
      · simp [Occasion.kinds?, hd, h, (step_of_registered hreg hc hd h).1]
      · obtain ⟨outcome, hattempt, -⟩ := step_of_outdated hreg hc hd h
        simp [Occasion.kinds?, hd, h, hattempt.requests_ne_nil]

/-- A reconciliation that fails leaves what is remembered as it is. -/
theorem step_of_failed (hreg : settings.registration = some registration)
    (hc : c.controller.store.InStep) (h : (c.reconcile settings o).result ≠ .ok ()) :
    (c.step settings o).remembered = c.remembered := by
  cases hd : o.accepted? settings.key with
  | none => exact remembered_of_not_accepted hd
  | some d =>
      by_cases hkinds : c.remembered = some d.kinds
      · exact (step_of_registered hreg hc hd hkinds).2.2
      · obtain ⟨outcome, -, hresult, hstep⟩ := step_of_outdated hreg hc hd hkinds
        cases outcome with
        | ok u => exact absurd hresult h
        | error e => exact hstep

/-! ## Many reconciliations -/

/-- Occasions without an accepted policy leave what is remembered as it is. -/
theorem run_of_not_accepted {occasions : List Occasion}
    (h : ∀ o ∈ occasions, o.accepted? settings.key = none) :
    (c.run settings occasions).remembered = c.remembered := by
  induction occasions generalizing c with
  | nil => rfl
  | cons o rest ih =>
      obtain ⟨hfirst, hrest⟩ := List.forall_mem_cons.1 h
      exact (ih hrest).trans (remembered_of_not_accepted hfirst)

theorem inStep_step (hc : c.controller.store.InStep) (o : Occasion) :
    (c.step settings o).controller.store.InStep := by
  cases hd : o.accepted? settings.key with
  | none =>
      obtain ⟨-, metrics, hstep⟩ := step_of_not_accepted (c := c) hd
      rw [hstep]
      exact hc
  | some d =>
      obtain ⟨hm, hpolicy⟩ := Occasion.accepted?_eq_some_iff.1 hd
      rw [(c.step_of_accepted settings o hc hm hpolicy).2.2.1]
      exact c.controller.store.inStep_advance d

theorem inStep_run (hc : c.controller.store.InStep) (occasions : List Occasion) :
    (c.run settings occasions).controller.store.InStep := by
  induction occasions generalizing c with
  | nil => exact hc
  | cons o rest ih => exact ih (inStep_step hc o)

/-- The controller remembers the kinds of the policy whose configuration the API server took last,
    and that configuration was made for this policy out of what was discovered then. -/
structure Remembers (settings : ControllerSettings) (registration : WebhookRegistration)
    (occasions : List Occasion) (c : Course) : Prop where
  kinds : c.remembered = c.registered.map (·.2.document.kinds)
  made : ∀ body s, c.registered = some (body, s) →
    ∃ o ∈ occasions, o.accepted? settings.key = some s.document ∧
      ∃ served, (discover o.server).result = .ok served ∧
        body = registration.desired served s

theorem remembers_start (settings : ControllerSettings) (registration : WebhookRegistration)
    {controller : ControllerState} (h : controller.registeredKinds = none) :
    (start controller).Remembers settings registration [] where
  kinds := h
  made _ _ h := absurd h (by simp [start])

/-- **One reconciliation** keeps in mind what was registered last. -/
theorem Remembers.step (hreg : settings.registration = some registration)
    (hc : c.controller.store.InStep) {earlier : List Occasion}
    (h : c.Remembers settings registration earlier) (o : Occasion) :
    (c.step settings o).Remembers settings registration (earlier ++ [o]) := by
  have hsame : (c.step settings o).remembered = c.remembered →
      (c.step settings o).registered = c.registered →
      (c.step settings o).Remembers settings registration (earlier ++ [o]) := by
    intro hremembered hregistered
    refine ⟨?_, ?_⟩
    · rw [hremembered, hregistered]
      exact h.kinds
    · intro body s hbody
      rw [hregistered] at hbody
      obtain ⟨o', ho', hmade⟩ := h.made body s hbody
      exact ⟨o', List.mem_append_left _ ho', hmade⟩
  cases hd : o.accepted? settings.key with
  | none =>
      obtain ⟨-, metrics, hstep⟩ := step_of_not_accepted (c := c) hd
      rw [hstep] at hsame ⊢
      exact hsame rfl rfl
  | some d =>
      obtain ⟨hm, hpolicy⟩ := Occasion.accepted?_eq_some_iff.1 hd
      have houtcome : ControllerState.Outcome registration o.server c.controller.registeredKinds
          (c.reconcile settings o) :=
        ControllerState.reconcile_outcome hreg o.server o.time hm c.controller
      -- what is in mind changes only together with what is registered
      cases houtcome with
      | unchanged htaken hkinds _ =>
          have hstep := step_of_not_taken htaken
          refine hsame hkinds ?_
          rw [hstep]
      | applied served hfound htaken hkinds _ =>
          have hinForce : (c.reconcile settings o).state.store.current =
              .build d (c.inForce.generation + 1) :=
            congrArg Store.current (c.step_of_accepted settings o hc hm hpolicy).2.2.1
          rw [hinForce] at htaken hkinds
          rw [step_of_taken htaken, hinForce]
          refine ⟨?_, ?_⟩
          · exact hkinds.trans (congrArg some (Snapshot.kinds_build d _))
          · rintro body s ⟨⟩
            exact ⟨o, List.mem_append_right _ (List.mem_singleton_self o), hd, served, hfound, rfl⟩

/-- **A run of reconciliations** keeps in mind what was registered last. -/
theorem Remembers.run (hreg : settings.registration = some registration)
    (hc : c.controller.store.InStep) {earlier : List Occasion}
    (h : c.Remembers settings registration earlier) (later : List Occasion) :
    (c.run settings later).Remembers settings registration (earlier ++ later) := by
  induction later generalizing c earlier with
  | nil =>
      rw [List.append_nil]
      exact h
  | cons o rest ih =>
      rw [List.append_cons]
      exact ih (inStep_step hc o) (h.step hreg hc o)

/-- **The webhook is registered until it succeeds, and not again.** Behind any reconciliations,
    whatever was discovered and however the API server answered, the controller remembers the
    kinds of the policy whose configuration the server took last, and none before the first. A
    reconciliation attempts to register the webhook exactly if it accepts a policy with other
    kinds than those remembered. If discovery or the server fails, that failure is the result and
    what is remembered stays; so whenever a reconciliation failed, the next policy accepted with
    other kinds leads to an attempt. In particular, if the attempt for new kinds fails, going back
    to the kinds remembered asks nothing, and going to the new kinds again asks again. -/
theorem registration_retried (hreg : settings.registration = some registration)
    (texts : List String) (metrics : Option Metrics) (earlier : List Occasion) :
    let first : ControllerState :=
      { store := Store.new.loadAll texts, metrics, registeredKinds := none }
    let before := (start first).run settings earlier
    before.Remembers settings registration earlier ∧
    (∀ o, before.asked settings o ≠ [] ↔
      ∃ kinds, o.kinds? settings.key = some kinds ∧ before.remembered ≠ some kinds) ∧
    (∀ o d, o.accepted? settings.key = some d → before.remembered ≠ some d.kinds →
      ∃ outcome, Attempt registration o.server d (before.asked settings o) outcome ∧
        (before.reconcile settings o).result = outcome.mapError .api ∧
        (before.step settings o).remembered = afterAttempt before.remembered d.kinds outcome) ∧
    (∀ o, (before.reconcile settings o).result ≠ .ok () →
      (before.step settings o).remembered = before.remembered ∧
      ∀ between o' kinds, (∀ p ∈ between, p.accepted? settings.key = none) →
        o'.kinds? settings.key = some kinds → before.remembered ≠ some kinds →
        ((before.step settings o).run settings between).asked settings o' ≠ []) ∧
    (∀ a b o o' o'', before.remembered = some a → a ≠ b → o.kinds? settings.key = some b →
      (before.reconcile settings o).result ≠ .ok () → o'.kinds? settings.key = some a →
      o''.kinds? settings.key = some b →
      (before.step settings o).asked settings o' = [] ∧
      ((before.step settings o).step settings o').asked settings o'' ≠ []) := by
  intro first before
  have hfirst : (start first).controller.store.InStep := Store.inStep_new.loadAll texts
  have hbefore : before.controller.store.InStep := inStep_run hfirst earlier
  refine ⟨?_, attempts_iff hreg hbefore, ?_, ?_, ?_⟩
  · have hstart : (start first).Remembers settings registration [] :=
      remembers_start settings registration rfl
    exact hstart.run hreg hfirst earlier
  · intro o d hd hkinds
    exact step_of_outdated hreg hbefore hd hkinds
  · intro o hfailed
    have hsame := step_of_failed hreg hbefore hfailed
    refine ⟨hsame, ?_⟩
    intro between o' kinds hbetween hkinds hother
    rw [attempts_iff hreg (inStep_run (inStep_step hbefore o) between)]
    refine ⟨kinds, hkinds, ?_⟩
    rwa [run_of_not_accepted hbetween, hsame]
  · intro a b o o' o'' ha hab hb hfailed ha' hb'
    -- the failure leaves `a` in mind, and so does going back to it
    have hafter : (before.step settings o).remembered = some a :=
      (step_of_failed hreg hbefore hfailed).trans ha
    obtain ⟨d, hd, rfl⟩ := Option.map_eq_some_iff.1 ha'
    have hstep : (before.step settings o).controller.store.InStep := inStep_step hbefore o
    obtain ⟨hquiet, -, hsame⟩ := step_of_registered hreg hstep hd hafter
    refine ⟨hquiet, (attempts_iff hreg (inStep_step hstep o') o'').2 ⟨b, hb', ?_⟩⟩
    rw [hsame, hafter]
    intro hsome
    exact hab (Option.some.inj hsome)

/-! ## Services after pods

A controller has registered the webhook for pods. The policy then asks for services while the
server is down for changes, for pods again, and for services again. -/

/-- A cluster like that of `podServer` which takes no configuration. -/
def overloadedServer : ApiServer := fun r =>
  if r.method = "PATCH" then .response 503 "" else podServer r

/-- A policy for one kind. -/
def kindOccasion (server : ApiServer) (kind : String) : Occasion :=
  { server
    time := 0
    configMap :=
      { metadata := .empty
        data := [("config.yml", "forKindsRules: [\x7bkind: " ++ kind ++ "\x7d]")] } }

def afterPods : Course := (start .new).run podSettings [kindOccasion podServer "Pod"]

/-- The first attempt for services fails; going back to pods asks nothing, and services are tried
    again then. -/
theorem registration_retried_services :
    afterPods.remembered = some ["Pod"] ∧
    (afterPods.reconcile podSettings (kindOccasion overloadedServer "Service")).result ≠ .ok () ∧
    (afterPods.step podSettings (kindOccasion overloadedServer "Service")).asked podSettings
      (kindOccasion podServer "Pod") = [] ∧
    ((afterPods.step podSettings (kindOccasion overloadedServer "Service")).step podSettings
      (kindOccasion podServer "Pod")).asked podSettings (kindOccasion podServer "Service") ≠ [] := by
  have hreg : podSettings.registration = some podRegistration := rfl
  have hpod : (kindOccasion podServer "Pod").kinds? podSettings.key = some ["Pod"] := by
    decide +kernel
  have hservice : (kindOccasion podServer "Service").kinds? podSettings.key = some ["Service"] := by
    decide +kernel
  obtain ⟨hpods, hnone⟩ : afterPods.remembered = some ["Pod"] ∧
      (afterPods.reconcile podSettings
        (kindOccasion overloadedServer "Service")).result.toOption = none := by decide +kernel
  have hfailed : (afterPods.reconcile podSettings
      (kindOccasion overloadedServer "Service")).result ≠ .ok () := by
    intro hok
    rw [hok] at hnone
    cases hnone
  refine ⟨hpods, hfailed, ?_⟩
  -- the server plays no part in which kinds an occasion names
  exact (registration_retried hreg [] (some .new) [kindOccasion podServer "Pod"]).2.2.2.2 ["Pod"]
    ["Service"] _ _ _ hpods (by decide) hservice hfailed hpod hservice

end Course

end AdmissionRules
