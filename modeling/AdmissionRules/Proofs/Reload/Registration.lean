import AdmissionRules.Proofs.Except
import AdmissionRules.Proofs.Kubernetes.Exchange
import AdmissionRules.Proofs.Registration.Configuration
import AdmissionRules.Reload.Reconcile

set_option autoImplicit false

/-! # The registered webhook over a course of reconciliations

A course follows a controller from one reconciliation to the next, together with the configuration
of the webhook that the API server took last. The controller compares kinds only, while the rules
of the webhook depend on the API versions of the entries too: so the configuration that the server
has is always the one of a snapshot with the kinds in force, and it is the one that the snapshot in
force calls for exactly if both call for the same rules (`Course.registered_iff`). -/

namespace AdmissionRules

/-! ## What the server has -/

namespace ApiServer

/-- The configuration of the webhook that a request puts in place, if the server takes it. -/
def taken? (server : ApiServer) (r : ApiRequest) : Option Json :=
  if r.method = "PATCH" then
    match (server r).read WebhookConfiguration.reader with
    | .ok () => r.body
    | .error _ => none
  else none

/-- The last configuration that requests put in place. -/
def lastTaken? (server : ApiServer) (requests : List ApiRequest) : Option Json :=
  (requests.filterMap server.taken?).getLast?

theorem lastTaken?_append (server : ApiServer) {earlier : List ApiRequest}
    (later : List ApiRequest) (h : ∀ r ∈ earlier, r.method ≠ "PATCH") :
    server.lastTaken? (earlier ++ later) = server.lastTaken? later := by
  have hnone : earlier.filterMap server.taken? = [] := by
    rw [List.filterMap_eq_nil_iff]
    intro r hr
    exact if_neg (h r hr)
  unfold lastTaken?
  rw [List.filterMap_append, hnone, List.nil_append]

theorem lastTaken?_eq_none (server : ApiServer) {requests : List ApiRequest}
    (h : ∀ r ∈ requests, r.method ≠ "PATCH") : server.lastTaken? requests = none := by
  have happend := server.lastTaken?_append [] h
  rwa [List.append_nil] at happend

end ApiServer

/-- The configuration that a snapshot calls for. -/
def WebhookRegistration.desired (registration : WebhookRegistration) (served : ServedResources)
    (s : Snapshot) : Json :=
  (WebhookConfiguration.generate registration (webhookRules s.document.entries served)).toJson

theorem WebhookRegistration.desired_eq_iff (registration : WebhookRegistration)
    (served : ServedResources) (s t : Snapshot) :
    registration.desired served s = registration.desired served t
      ↔ webhookRules s.document.entries served = webhookRules t.document.entries served :=
  WebhookConfiguration.generate_toJson_inj registration _ _

/-! ## One registration -/

/-- Applying a configuration succeeds when the server takes it. -/
theorem WebhookConfiguration.sendTo_cases (c : WebhookConfiguration) (server : ApiServer) :
    ((c.sendTo server).result = .ok () ∧
      server.lastTaken? (c.sendTo server).requests = some c.toJson) ∨
    ∃ e, (c.sendTo server).result = .error e ∧
      server.lastTaken? (c.sendTo server).requests = none := by
  unfold sendTo
  split
  · exact .inr ⟨_, rfl, rfl⟩
  · unfold ApiServer.call
    split
    · rename_i request hrequest
      obtain ⟨target, -, rfl⟩ := Option.map_eq_some_iff.1 hrequest
      cases hread : ApiAnswer.read reader (server _) with
      | ok answer =>
          refine .inl ⟨rfl, ?_⟩
          simp only [ApiServer.lastTaken?, List.filterMap_cons, List.filterMap_nil,
            ApiServer.taken?, applyCall, if_pos] at hread ⊢
          rw [hread]
          rfl
      | error e =>
          refine .inr ⟨e, rfl, ?_⟩
          simp only [ApiServer.lastTaken?, List.filterMap_cons, List.filterMap_nil,
            ApiServer.taken?, applyCall, if_pos] at hread ⊢
          rw [hread]
          rfl
    · exact .inr ⟨_, rfl, rfl⟩

/-- A registration either puts in place what the entries call for, or fails and puts nothing in
    place. -/
theorem WebhookRegistration.ensure_cases (registration : WebhookRegistration) (server : ApiServer)
    (s : Snapshot) :
    (∃ served, (discover server).result = .ok served ∧
      (registration.ensure server s.document.entries).result = .ok () ∧
      server.lastTaken? (registration.ensure server s.document.entries).requests
        = some (registration.desired served s)) ∨
    ∃ e, (registration.ensure server s.document.entries).result = .error e ∧
      server.lastTaken? (registration.ensure server s.document.entries).requests = none := by
  -- discovery only reads, so what the server takes is told by what follows
  have hget : ∀ r ∈ (discover server).requests, r.method ≠ "PATCH" := by
    intro r hr
    rw [discover_sends_get server r hr]
    decide
  unfold ensure
  cases hdiscover : (discover server).result with
  | error e =>
      rw [Exchange.bind_of_error hdiscover]
      exact .inr ⟨e, rfl, server.lastTaken?_eq_none hget⟩
  | ok served =>
      rw [Exchange.bind_of_ok hdiscover, server.lastTaken?_append _ hget]
      rcases (WebhookConfiguration.generate registration
        (webhookRules s.document.entries served)).sendTo_cases server with h | h
      · exact .inl ⟨served, rfl, h⟩
      · exact .inr h

/-! ## One reconciliation -/

theorem publishEvent_sends (server : ApiServer) (event : EventText) (reporter : Reporter)
    (m : ConfigMap) (time : Nat) :
    ∀ r ∈ publishEvent server (event.call reporter m time), r.method ≠ "PATCH" := by
  intro r hr
  rw [server.call_sends (event.call reporter m time) .any r hr]
  show "POST" ≠ "PATCH"
  decide

namespace ControllerState

/-- What a reconciliation does about the webhook, registered for some kinds before: it leaves it as
    it is, and then succeeds only if these are the kinds in force, or it registers what is now in
    force. -/
inductive Outcome (registration : WebhookRegistration) (server : ApiServer)
    (before : Option (List String)) (r : Reconciliation) : Prop where
  | unchanged (taken : server.lastTaken? r.requests = none)
      (kinds : r.state.registeredKinds = before)
      (uptodate : r.result = .ok () → before = some r.state.store.current.kinds)
  | applied (served : ServedResources) (found : (discover server).result = .ok served)
      (taken : server.lastTaken? r.requests
        = some (registration.desired served r.state.store.current))
      (kinds : r.state.registeredKinds = some r.state.store.current.kinds)
      (outdated : before ≠ some r.state.store.current.kinds)

variable {settings : ControllerSettings} {registration : WebhookRegistration}

theorem register_of_registered (hreg : settings.registration = some registration)
    (server : ApiServer) (s : ControllerState)
    (h : s.registeredKinds = some s.store.current.kinds) :
    s.register settings server = pure s := by
  have huptodate : s.isRegistrationOutdated s.store.current.kinds = false := by
    simp [isRegistrationOutdated, h]
  simp only [register, hreg, huptodate, Bool.false_eq_true, if_false]

theorem register_of_outdated (hreg : settings.registration = some registration)
    (server : ApiServer) (s : ControllerState)
    (h : s.registeredKinds ≠ some s.store.current.kinds) :
    s.register settings server =
      (registration.ensure server s.store.current.document.entries >>= fun _ =>
        pure { s with registeredKinds := some s.store.current.kinds }) := by
  have houtdated : s.isRegistrationOutdated s.store.current.kinds = true := by
    simp [isRegistrationOutdated, h]
  simp only [register, hreg, houtdated, if_true]

/-- Registering is all that a reconciliation does about the webhook, as long as no other request
    is taken for one. -/
theorem register_outcome (hreg : settings.registration = some registration) (server : ApiServer)
    (s : ControllerState) (events : List EventText) {told : List ApiRequest}
    (htold : ∀ r ∈ told, r.method ≠ "PATCH") :
    Outcome registration server s.registeredKinds
      { result := ((s.register settings server).result.map fun _ => ()).mapError .api
        state := match (s.register settings server).result with
          | .ok registered => registered
          | .error _ => s
        events
        requests := told ++ (s.register settings server).requests } := by
  by_cases huptodate : s.registeredKinds = some s.store.current.kinds
  · rw [register_of_registered hreg server s huptodate]
    refine .unchanged ?_ rfl fun _ => huptodate
    rw [server.lastTaken?_append _ htold]
    rfl
  · rw [register_of_outdated hreg server s huptodate]
    rcases registration.ensure_cases server s.store.current with
      ⟨served, hfound, hresult, htaken⟩ | ⟨e, hresult, htaken⟩
    · rw [Exchange.bind_of_ok hresult]
      refine .applied served hfound ?_ rfl huptodate
      rw [server.lastTaken?_append _ htold]
      -- remembering the kinds sends nothing
      show server.lastTaken? (_ ++ []) = _
      rw [List.append_nil]
      exact htaken
    · rw [Exchange.bind_of_error hresult]
      refine .unchanged ?_ rfl ?_
      · rw [server.lastTaken?_append _ htold]
        exact htaken
      · intro hok
        cases hok

theorem accept_outcome (hreg : settings.registration = some registration) (server : ApiServer)
    (time : Nat) (m : ConfigMap) (s : ControllerState) (generation : Nat) :
    Outcome registration server s.registeredKinds
      (s.accept settings server time m generation) :=
  -- counting a policy leaves the kinds that are remembered as they are
  register_outcome hreg server (s.counted time) _ (publishEvent_sends server _ _ m time)

theorem reconcile_outcome (hreg : settings.registration = some registration)
    (server : ApiServer) (time : Nat) {m : ConfigMap} (hm : m.isBeingDeleted = false)
    (s : ControllerState) :
    Outcome registration server s.registeredKinds (s.reconcile settings server time m) := by
  unfold reconcile
  rw [hm]
  simp only [Bool.false_eq_true, if_false]
  split
  · refine .unchanged ?_ rfl ?_
    · exact server.lastTaken?_eq_none (publishEvent_sends server _ _ m time)
    · intro hok
      exact absurd hok (by simp [reject])
  · rename_i generation store _
    exact accept_outcome hreg server time m { s with store } generation

end ControllerState

/-! ## Courses -/

/-- One reconciliation: the config map, the time, and the API server as it answers meanwhile. -/
structure Occasion where
  server : ApiServer
  time : Nat
  configMap : ConfigMap

/-- A controller, and the configuration of the webhook that the API server took last, with the
    snapshot that was in force then. -/
structure Course where
  controller : ControllerState
  registered : Option (Json × Snapshot)

namespace Course

def inForce (c : Course) : Snapshot := c.controller.store.current

/-- A controller before anything was registered. -/
def start (controller : ControllerState) : Course := { controller, registered := none }

def reconcile (c : Course) (settings : ControllerSettings) (o : Occasion) : Reconciliation :=
  c.controller.reconcile settings o.server o.time o.configMap

def step (settings : ControllerSettings) (c : Course) (o : Occasion) : Course :=
  let r := c.reconcile settings o
  { controller := r.state
    registered := match o.server.lastTaken? r.requests with
      | some body => some (body, r.state.store.current)
      | none => c.registered }

def run (settings : ControllerSettings) (c : Course) (occasions : List Occasion) : Course :=
  occasions.foldl (step settings) c

/-- The controller remembers the kinds of the snapshot that was registered last, and the server has
    the configuration that this snapshot calls for. -/
structure Tracks (registration : WebhookRegistration) (served : ServedResources) (c : Course) :
    Prop where
  kinds : c.controller.registeredKinds = c.registered.map (·.2.kinds)
  made : ∀ body s, c.registered = some (body, s) → body = registration.desired served s

theorem tracks_start (registration : WebhookRegistration) (served : ServedResources)
    {controller : ControllerState} (h : controller.registeredKinds = none) :
    (start controller).Tracks registration served where
  kinds := h
  made _ _ h := absurd h (by simp [start])

variable {settings : ControllerSettings} {registration : WebhookRegistration}
  {served : ServedResources}

theorem step_of_taken {c : Course} {o : Occasion} {body : Json}
    (h : o.server.lastTaken? (c.reconcile settings o).requests = some body) :
    c.step settings o =
      { controller := (c.reconcile settings o).state
        registered := some (body, (c.reconcile settings o).state.store.current) } := by
  simp only [step, h]

theorem step_of_not_taken {c : Course} {o : Occasion}
    (h : o.server.lastTaken? (c.reconcile settings o).requests = none) :
    c.step settings o =
      { controller := (c.reconcile settings o).state, registered := c.registered } := by
  simp only [step, h]

/-- **One reconciliation** keeps track of what is registered. If it succeeds, what is registered is
    of a snapshot with the kinds now in force, namely of the one in force unless these kinds were
    registered already. -/
theorem step_spec (hreg : settings.registration = some registration) {c : Course}
    (hc : c.Tracks registration served) (o : Occasion)
    (hserved : ∀ found, (discover o.server).result = .ok found → found = served) :
    (c.step settings o).Tracks registration served ∧
    (o.configMap.isBeingDeleted = false → (c.reconcile settings o).result = .ok () →
      ∃ s, (c.step settings o).registered = some (registration.desired served s, s) ∧
        s.kinds = (c.step settings o).inForce.kinds ∧
        (c.controller.registeredKinds ≠ some (c.step settings o).inForce.kinds →
          s = (c.step settings o).inForce)) := by
  cases hm : o.configMap.isBeingDeleted with
  | true =>
      -- a config map that is being deleted asks for nothing
      have hstep : c.step settings o = c := by
        simp only [step, reconcile, ControllerState.reconcile, hm, if_true]
        rfl
      rw [hstep]
      exact ⟨hc, fun h => absurd h (by simp)⟩
  | false =>
      have houtcome : ControllerState.Outcome registration o.server c.controller.registeredKinds
          (c.reconcile settings o) :=
        ControllerState.reconcile_outcome hreg o.server o.time hm c.controller
      cases houtcome with
      | unchanged htaken hkinds huptodate =>
          rw [step_of_not_taken htaken]
          refine ⟨⟨hkinds.trans hc.kinds, hc.made⟩, fun _ hok => ?_⟩
          -- the kinds in force are those remembered, and these are of what is registered
          have hregistered := huptodate hok
          rw [hc.kinds] at hregistered
          obtain ⟨⟨body, s⟩, hlast, hs⟩ := Option.map_eq_some_iff.1 hregistered
          refine ⟨s, ?_, hs, fun hne => absurd (huptodate hok) hne⟩
          rw [hlast, hc.made body s hlast]
      | applied found hfound htaken hkinds houtdated =>
          rw [hserved found hfound] at htaken
          rw [step_of_taken htaken]
          refine ⟨⟨hkinds, ?_⟩, fun _ _ => ⟨_, rfl, rfl, fun _ => rfl⟩⟩
          intro body s h
          cases h
          rfl

/-- **A run of reconciliations** keeps track of what is registered. -/
theorem run_tracks (hreg : settings.registration = some registration) {c : Course}
    (hc : c.Tracks registration served) (occasions : List Occasion)
    (hserved : ∀ o ∈ occasions, ∀ found, (discover o.server).result = .ok found →
      found = served) :
    (c.run settings occasions).Tracks registration served := by
  induction occasions generalizing c with
  | nil => exact hc
  | cons o rest ih =>
      obtain ⟨hfirst, hrest⟩ := List.forall_mem_cons.1 hserved
      exact ih (step_spec hreg hc o hfirst).1 hrest

/-- **What is registered after a policy was accepted**, in any course of reconciliations in which
    discovery finds the same resources: the configuration of a snapshot that has the kinds in force,
    and it is the one that the snapshot in force calls for exactly if both call for the same rules.
    They can differ only if the kinds are those that were registered before. -/
theorem registered_iff (hreg : settings.registration = some registration)
    {controller : ControllerState} (hnone : controller.registeredKinds = none)
    {earlier : List Occasion} {o : Occasion}
    (hserved : ∀ o' ∈ earlier ++ [o], ∀ found, (discover o'.server).result = .ok found →
      found = served)
    {before after : Course} (hbefore : (start controller).run settings earlier = before)
    (hafter : before.step settings o = after) (hm : o.configMap.isBeingDeleted = false)
    (hok : (before.reconcile settings o).result = .ok ()) :
    ∃ s, after.registered = some (registration.desired served s, s) ∧
      s.kinds = after.inForce.kinds ∧
      (registration.desired served s = registration.desired served after.inForce ↔
        webhookRules s.document.entries served
          = webhookRules after.inForce.document.entries served) ∧
      (before.controller.registeredKinds ≠ some after.inForce.kinds → s = after.inForce) := by
  obtain ⟨hearlier, hlast⟩ := List.forall_mem_append.1 hserved
  -- the course is followed up to the last reconciliation, and this one by the step lemma
  have htracks : before.Tracks registration served := by
    rw [← hbefore]
    exact run_tracks hreg (tracks_start registration served hnone) earlier hearlier
  obtain ⟨s, hregistered, hkinds, hsame⟩ :=
    (step_spec hreg htracks o (hlast o (List.mem_singleton_self o))).2 hm hok
  rw [hafter] at hregistered hkinds hsame
  exact ⟨s, hregistered, hkinds, registration.desired_eq_iff served s after.inForce, hsame⟩

/-! ## A change of the API version only

The policy first asks for pods of a group that does not serve them, and then for those that are
served. Its kinds stay the same, so nothing is registered anew. -/

/-- A cluster that serves pods and takes every configuration. -/
def podServer : ApiServer := fun r =>
  match r.method, r.target.path with
  | "GET", "/apis" => .response 200 "\x7b\"groups\": []\x7d"
  | "GET", "/api" => .response 200 "\x7b\"versions\": [\"v1\"]\x7d"
  | "GET", "/api/v1" => .response 200
      ("\x7b\"groupVersion\": \"v1\", \"resources\": ["
        ++ "\x7b\"name\": \"pods\", \"kind\": \"Pod\", \"namespaced\": true\x7d]\x7d")
  | "GET", _ => .response 404 ""
  | _, _ => .response 200 "\x7b\"kind\": \"ValidatingWebhookConfiguration\"\x7d"

def podResources : ServedResources :=
  [("Pod", [{ group := "", version := "v1", plural := "pods", namespaced := true }])]

def podRegistration : WebhookRegistration :=
  { name := "validator", service := { «namespace» := "default", name := "validator" }
    certificate := none, timeoutSeconds := 10 }

def podSettings : ControllerSettings :=
  { key := "config.yml", registration := some podRegistration
    reporter := { controller := "validator", «instance» := none }
    yamlProblem := fun _ => "" }

/-- A policy that asks for pods of an API version. -/
def podOccasion (apiVersion : String) : Occasion :=
  { server := podServer
    time := 0
    configMap :=
      { metadata := .empty
        data := [("config.yml",
          "forKindsRules: [\x7bapiVersion: " ++ apiVersion ++ ", kind: Pod\x7d]")] } }

/-- A controller that was given one policy after the other. -/
def podCourse (apiVersions : List String) : Course :=
  (start .new).run podSettings (apiVersions.map podOccasion)

theorem podCourse_append (apiVersions : List String) (apiVersion : String) :
    (podCourse apiVersions).step podSettings (podOccasion apiVersion)
      = podCourse (apiVersions ++ [apiVersion]) := by
  rw [podCourse, podCourse, List.map_append, run, run, List.foldl_append]
  rfl

theorem podServer_discover : (discover podServer).result = .ok podResources :=
  eq_ok_of_toOption (by decide +kernel)

/-- The second policy is accepted, and then what is registered is for no rules, while the policy in
    force calls for pods. -/
theorem podCourse_spec :
    ((podCourse ["example.com/v1"]).reconcile podSettings (podOccasion "v1")).result.toOption
        = some () ∧
      (podCourse ["example.com/v1", "v1"]).registered.map
        (fun r => webhookRules r.2.document.entries podResources) = some [] ∧
      webhookRules (podCourse ["example.com/v1", "v1"]).inForce.document.entries podResources
        = [{ target := ⟨"", "v1", "pods"⟩, namespaced := true }] := by
  decide +kernel

/-- The server is left with a configuration without rules, although the policy in force calls for
    pods and the reconciliation that accepted it succeeded. -/
theorem registered_stale :
    ((podCourse ["example.com/v1"]).reconcile podSettings (podOccasion "v1")).result = .ok () ∧
    ∃ s, (podCourse ["example.com/v1", "v1"]).registered
        = some (podRegistration.desired podResources s, s) ∧
      s.kinds = (podCourse ["example.com/v1", "v1"]).inForce.kinds ∧
      podRegistration.desired podResources s
        ≠ podRegistration.desired podResources (podCourse ["example.com/v1", "v1"]).inForce := by
  obtain ⟨hresult, hlast, hnow⟩ := podCourse_spec
  have hok := eq_ok_of_toOption hresult
  have hserved : ∀ o ∈ ["example.com/v1"].map podOccasion ++ [podOccasion "v1"], ∀ found,
      (discover o.server).result = .ok found → found = podResources := by
    intro o ho found hfound
    have hserver : o.server = podServer := by
      rcases List.mem_append.1 ho with ho | ho
      · rw [List.mem_singleton.1 ho, podOccasion]
      · rw [List.mem_singleton.1 ho, podOccasion]
    rw [hserver, podServer_discover] at hfound
    exact (Except.ok.inj hfound).symm
  have hreg : podSettings.registration = some podRegistration := rfl
  have hnone : ControllerState.new.registeredKinds = none := rfl
  have hbefore : (start .new).run podSettings (["example.com/v1"].map podOccasion)
      = podCourse ["example.com/v1"] := by
    rw [podCourse]
  obtain ⟨s, hregistered, hkinds, hrules, -⟩ :=
    registered_iff hreg hnone hserved hbefore (podCourse_append ["example.com/v1"] "v1") rfl hok
  refine ⟨hok, s, hregistered, hkinds, ?_⟩
  intro hdesired
  have hsame := hrules.1 hdesired
  rw [List.singleton_append] at hregistered hsame
  rw [hregistered, Option.map_some, Option.some.injEq] at hlast
  rw [hlast, hnow] at hsame
  exact List.cons_ne_nil _ _ hsame.symm

end Course

end AdmissionRules
