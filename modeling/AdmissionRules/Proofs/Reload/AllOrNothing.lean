import AdmissionRules.Proofs.Policy.Generation
import AdmissionRules.Proofs.Reload.Event
import AdmissionRules.Proofs.Reload.Registration

set_option autoImplicit false

/-! # Reconciling is all or nothing

Whether a config map is being deleted, and the policy in it, decide what a reconciliation does: it
changes nothing, it counts and tells a failure and changes nothing else, or it puts the policy in
force, counts and tells that, and sets the gauges to what the policy says. Counts and gauges are
there only if metrics are kept. What the API server answers decides only whether the webhook is
registered anew. The main statement (`Course.all_or_nothing`) says so of a reconciliation behind any
others. -/

namespace AdmissionRules

/-! ## Policies of config maps -/

/-- The policy in a config map, or why there is none. -/
def ConfigMap.policy (m : ConfigMap) (key : String) : Except ConfigMapError PolicyDocument :=
  match m.get? key with
  | none => .error (.missingKey m.reference.text key)
  | some text => (PolicyDocument.parse text).mapError .invalid

theorem ConfigMap.policy_eq_ok_iff {m : ConfigMap} {key : String} {d : PolicyDocument} :
    m.policy key = .ok d ↔ ∃ text, m.get? key = some text ∧ PolicyDocument.parse text = .ok d := by
  unfold policy
  cases m.get? key with
  | none => simp
  | some text => simp [mapError_eq_ok_iff]

/-- A config map gives no policy if it lacks the key or the document is rejected. -/
theorem ConfigMap.policy_eq_error_iff {m : ConfigMap} {key : String} {e : ConfigMapError} :
    m.policy key = .error e ↔
      (m.get? key = none ∧ e = .missingKey m.reference.text key) ∨
      ∃ text problem, m.get? key = some text ∧ PolicyDocument.parse text = .error problem ∧
        e = .invalid problem := by
  unfold policy
  cases m.get? key with
  | none => simp [eq_comm]
  | some text =>
      simp only [mapError_eq_error_iff]
      simp [eq_comm]

namespace Store

variable {m : ConfigMap} {key : String}

theorem loadConfigMap_of_error (store : Store) {e : ConfigMapError}
    (h : m.policy key = .error e) : store.loadConfigMap m key = (.error e, store) := by
  rcases ConfigMap.policy_eq_error_iff.1 h with ⟨hkey, rfl⟩ | ⟨text, problem, hkey, hparse, rfl⟩
  · simp only [loadConfigMap, ConfigMap.document, hkey]
  · simp only [loadConfigMap, ConfigMap.document, hkey, store.load_of_parse_error hparse]
    rfl

theorem loadConfigMap_of_ok (store : Store) {d : PolicyDocument} (h : m.policy key = .ok d) :
    store.loadConfigMap m key = (.ok store.nextGeneration, store.accept d) := by
  obtain ⟨text, hkey, hparse⟩ := ConfigMap.policy_eq_ok_iff.1 h
  simp only [loadConfigMap, ConfigMap.document, hkey, store.load_of_parse_ok hparse]
  rfl

end Store

/-! ## Gauges -/

namespace Metrics

/-- The gauges say what a snapshot says: its generation, and for each kind that an entry names,
    once, how many rules all entries give for it. What is too large for a gauge shows as its
    limit. -/
structure Mirrors (m : Metrics) (s : Snapshot) : Prop where
  generation : m.lastReload.generation = min (s.generation : Int) (twoTo 63 - 1)
  kindsOnce : (m.lastReload.rules.map (·.1)).Nodup
  rules : ∀ kind n, (kind, n) ∈ m.lastReload.rules ↔
    (∃ entry ∈ s.document.entries, entry.kind = kind) ∧
      n = min ((Snapshot.rulesOf s.document.entries kind).length : Int) (twoTo 63 - 1)

theorem gauge_eq (n : Nat) : gauge n = min (n : Int) (twoTo 63 - 1) := rfl

variable (d : PolicyDocument) (generation : Nat)

/-- The gauges of the rules, as a reload sets them. -/
theorem ofList_rulesPerKind :
    Ascending.ofList ((Snapshot.build d generation).rulesPerKind.map fun r => (r.1, gauge r.2)) =
      (Snapshot.build d generation).kinds.map fun kind =>
        (kind, gauge (Snapshot.rulesOf d.entries kind).length) := by
  have hrules : (Snapshot.build d generation).rulesPerKind.map (fun r => (r.1, gauge r.2)) =
      (Snapshot.build d generation).kinds.map fun kind =>
        (kind, gauge (Snapshot.rulesOf d.entries kind).length) := by
    unfold Snapshot.rulesPerKind
    simp only [List.map_map, Function.comp_def, Snapshot.rulesFor_build]
  rw [hrules]
  -- the kinds ascend, so no gauge is set twice and none is moved
  refine Ascending.ofList_of_ordered ?_
  unfold Ascending.Ordered Ascending.keys
  rw [List.map_map]
  show ((Snapshot.build d generation).kinds.map id).Pairwise (· < ·)
  rw [List.map_id]
  exact Snapshot.ordered_build d generation

theorem mirrors_recordReload (m : Metrics) (time : Nat) :
    (m.recordReload generation (Snapshot.build d generation).rulesPerKind time).Mirrors
      (.build d generation) where
  generation := gauge_eq generation
  kindsOnce := by
    show ((Ascending.ofList _).map (·.1)).Nodup
    rw [ofList_rulesPerKind, List.map_map]
    show ((Snapshot.build d generation).kinds.map id).Nodup
    rw [List.map_id]
    exact (Snapshot.ordered_build d generation).imp fun h => h.ne
  rules kind n := by
    show (kind, n) ∈ Ascending.ofList _ ↔ _
    rw [ofList_rulesPerKind, List.mem_map]
    constructor
    · rintro ⟨kind', hkind, heq⟩
      cases heq
      exact ⟨(Snapshot.mem_kinds_build d generation kind).1 hkind, gauge_eq _⟩
    · rintro ⟨hkind, rfl⟩
      exact ⟨kind, (Snapshot.mem_kinds_build d generation kind).2 hkind, rfl⟩

end Metrics

/-! ## Requests -/

theorem ApiCall.filter_request? {c : ApiCall} {method : String} (h : c.method = method) :
    c.request?.toList.filter (·.method = method) = c.request?.toList := by
  rw [List.filter_eq_self]
  intro r hr
  obtain ⟨target, -, rfl⟩ := Option.map_eq_some_iff.1 (Option.mem_toList.1 hr)
  exact decide_eq_true h

/-- Registering the webhook tells nothing. -/
theorem WebhookRegistration.ensure_sends (registration : WebhookRegistration) (server : ApiServer)
    (entries : List KindRules) :
    (registration.ensure server entries).Sends (·.method ≠ "POST") := by
  have hget : (discover server).Sends (·.method ≠ "POST") := by
    intro r hr
    rw [discover_sends_get server r hr]
    decide
  refine hget.bind fun served => ?_
  unfold WebhookConfiguration.sendTo
  split
  · exact .done _
  · intro r hr
    rw [server.call_sends _ _ r hr]
    show "PATCH" ≠ "POST"
    decide

namespace ControllerState

variable (settings : ControllerSettings) (server : ApiServer)

/-- The webhook is left as it is, or it is registered and then the kinds are remembered. -/
theorem register_cases (s : ControllerState) :
    s.register settings server = pure s ∨
    ∃ registration : WebhookRegistration, s.register settings server =
      (registration.ensure server s.store.current.document.entries >>= fun _ =>
        pure { s with registeredKinds := some s.store.current.kinds }) := by
  cases hreg : settings.registration with
  | none => exact .inl (by simp only [register, hreg])
  | some registration =>
      by_cases h : s.registeredKinds = some s.store.current.kinds
      · exact .inl (register_of_registered hreg server s h)
      · exact .inr ⟨registration, register_of_outdated hreg server s h⟩

theorem register_sends (s : ControllerState) :
    (s.register settings server).Sends (·.method ≠ "POST") := by
  rcases s.register_cases settings server with h | ⟨registration, h⟩
  · rw [h]
    exact .pure s
  · rw [h]
    exact (registration.ensure_sends server _).bind fun _ => .pure _

/-- Registering the webhook changes nothing but the kinds that are remembered. -/
theorem register_keeps (s : ControllerState) :
    let next := match (s.register settings server).result with
      | .ok registered => registered
      | .error _ => s
    next.store = s.store ∧ next.metrics = s.metrics := by
  rcases s.register_cases settings server with hregister | ⟨registration, hregister⟩
  · rw [hregister]
    exact ⟨rfl, rfl⟩
  · rw [hregister]
    cases hensure : (registration.ensure server s.store.current.document.entries).result with
    | error e =>
        rw [Exchange.bind_of_error hensure]
        exact ⟨rfl, rfl⟩
    | ok u =>
        rw [Exchange.bind_of_ok hensure]
        exact ⟨rfl, rfl⟩

/-! ## One reconciliation -/

variable (time : Nat) {m : ConfigMap}

theorem reconcile_of_deleted (s : ControllerState) (hm : m.isBeingDeleted = true) :
    s.reconcile settings server time m =
      { result := .ok (), state := s, events := [], requests := [] } := by
  simp only [reconcile, hm, if_true]

theorem reconcile_of_refused (s : ControllerState) (hm : m.isBeingDeleted = false)
    {e : ConfigMapError} (h : m.policy settings.key = .error e) :
    s.reconcile settings server time m = s.reject settings server time m e := by
  simp only [reconcile, hm, Bool.false_eq_true, if_false, s.store.loadConfigMap_of_error h]

theorem reconcile_of_policy (s : ControllerState) (hm : m.isBeingDeleted = false)
    {d : PolicyDocument} (h : m.policy settings.key = .ok d) :
    s.reconcile settings server time m =
      { s with store := s.store.accept d }.accept settings server time m s.store.nextGeneration := by
  simp only [reconcile, hm, Bool.false_eq_true, if_false, s.store.loadConfigMap_of_ok h]

theorem reconcile_of_accepted {s : ControllerState} (hs : s.store.InStep)
    (hm : m.isBeingDeleted = false) {d : PolicyDocument} (h : m.policy settings.key = .ok d) :
    s.reconcile settings server time m =
      { s with store := s.store.advance d }.accept settings server time m
        (s.store.generation + 1) := by
  rw [s.reconcile_of_policy settings server time hm h, hs.accept_eq d, hs]

/-- What is done about an accepted policy, whether the webhook can be registered or not. -/
theorem accept_spec (m : ConfigMap) (s : ControllerState) (generation : Nat) :
    let r := s.accept settings server time m generation
    let event := loadedEvent generation s.store.current
    r.state.store = s.store ∧
    r.state.metrics = (s.counted time).metrics ∧
    r.events = [event] ∧
    r.requests.filter (·.method = "POST") =
      (event.call settings.reporter m time).request?.toList ∧
    (r.result = .ok () ∨ ∃ e, r.result = .error (.api e)) := by
  intro r event
  -- all but the kinds remembered is settled before the webhook is registered
  obtain ⟨hstore, hmetrics⟩ := (s.counted time).register_keeps settings server
  refine ⟨hstore, hmetrics, rfl, ?_, ?_⟩
  · have hnone :
        ((s.counted time).register settings server).requests.filter (·.method = "POST") = [] := by
      rw [List.filter_eq_nil_iff]
      intro request hrequest
      simpa using (s.counted time).register_sends settings server request hrequest
    show List.filter _
      (publishEvent server _ ++ ((s.counted time).register settings server).requests) = _
    rw [List.filter_append, hnone, List.append_nil, publishEvent_eq]
    exact ApiCall.filter_request? rfl
  · have hresult : ∀ x : Except ApiError ControllerState,
        (x.map fun _ => ()).mapError ReloadError.api = .ok () ∨
          ∃ e, (x.map fun _ => ()).mapError ReloadError.api = .error (.api e) := by
      intro x
      cases x with
      | error e => exact .inr ⟨e, rfl⟩
      | ok s' => exact .inl rfl
    exact hresult ((s.counted time).register settings server).result

end ControllerState

/-! ## Many reconciliations -/

namespace Occasion

/-- The policy that an occasion puts in force. -/
def accepted? (key : String) (o : Occasion) : Option PolicyDocument :=
  if o.configMap.isBeingDeleted then none else (o.configMap.policy key).toOption

/-- Whether an occasion brings a config map without a policy. -/
def isRefused (key : String) (o : Occasion) : Bool :=
  !o.configMap.isBeingDeleted && (o.configMap.policy key).toOption.isNone

variable {key : String} {o : Occasion}

theorem accepted?_of_deleted (h : o.configMap.isBeingDeleted = true) : o.accepted? key = none :=
  if_pos h

theorem isRefused_of_deleted (h : o.configMap.isBeingDeleted = true) : o.isRefused key = false := by
  simp [isRefused, h]

theorem accepted?_of_policy (hm : o.configMap.isBeingDeleted = false)
    {x : Except ConfigMapError PolicyDocument} (h : o.configMap.policy key = x) :
    o.accepted? key = x.toOption := by
  simp [accepted?, hm, h]

theorem isRefused_of_policy (hm : o.configMap.isBeingDeleted = false)
    {x : Except ConfigMapError PolicyDocument} (h : o.configMap.policy key = x) :
    o.isRefused key = x.toOption.isNone := by
  simp [isRefused, hm, h]

/-- The policies that occasions put in force. -/
def accepted (key : String) (occasions : List Occasion) : List PolicyDocument :=
  occasions.filterMap (·.accepted? key)

theorem accepted_append (key : String) (occasions : List Occasion) (o : Occasion) :
    accepted key (occasions ++ [o]) = accepted key occasions ++ (o.accepted? key).toList := by
  unfold accepted
  rw [List.filterMap_append, List.filterMap_cons, List.filterMap_nil]
  cases o.accepted? key <;> rfl

theorem accepted_append_of_none {o : Occasion} (h : o.accepted? key = none)
    (occasions : List Occasion) : accepted key (occasions ++ [o]) = accepted key occasions := by
  rw [accepted_append, h, Option.toList_none, List.append_nil]

end Occasion

namespace Course

open Occasion (accepted accepted_append accepted_append_of_none)

/-- What some occasions come to in metrics, from what they were before: each policy accepted is
    counted once, and so is each refusal; and once a policy was accepted the gauges say what is in
    force. -/
structure Counts (key : String) (occasions : List Occasion) (inForce : Snapshot)
    (first m : Metrics) : Prop where
  reloads : m.reloads = first.reloads + (accepted key occasions).length
  failedReloads : m.failedReloads = first.failedReloads + occasions.countP (·.isRefused key)
  gauges : accepted key occasions ≠ [] → m.Mirrors inForce

/-- What some occasions come to, from the state before them: the last policy accepted is in force,
    the generation has advanced once for each, and the metrics count them if they are kept. -/
structure Accounts (key : String) (first : ControllerState) (occasions : List Occasion)
    (c : Course) : Prop where
  inForce : c.inForce =
    match (accepted key occasions).getLast? with
    | some d => .build d c.inForce.generation
    | none => first.store.current
  generation : c.inForce.generation =
    first.store.generation + (accepted key occasions).length
  inStep : c.controller.store.InStep
  metrics : Option.Rel (Counts key occasions c.inForce) first.metrics c.controller.metrics

/-! ## What one reconciliation comes to -/

section Step

variable (settings : ControllerSettings) (c : Course) (o : Occasion)

/-- The requests that tell an event about the config map of an occasion. -/
def told (event : EventText) : List ApiRequest :=
  (event.call settings.reporter o.configMap o.time).request?.toList

/-- An event is told by one request in every namespace whose name can stand in a path. -/
theorem told_spec (event : EventText)
    (h : StandsInPath (o.configMap.metadata.namespace.getD "default")) :
    ∃ request, told settings o event = [request] ∧
      request.Tells event.type.name event.note o.configMap := by
  obtain ⟨request, hrequest, htells⟩ :=
    event.call_tells settings.reporter o.configMap o.time h
  refine ⟨request, ?_, htells⟩
  rw [told, hrequest, Option.toList_some]

/-- What the event of a refusal says. -/
def refusalNote (e : ConfigMapError) : String :=
  e.message (settings.yamlProblem ((o.configMap.get? settings.key).getD ""))

/-- A config map that is being deleted changes nothing. -/
theorem step_of_deleted (hm : o.configMap.isBeingDeleted = true) :
    (c.reconcile settings o).result = .ok () ∧ (c.reconcile settings o).events = [] ∧
      (c.reconcile settings o).requests = [] ∧ c.step settings o = c := by
  have hreconcile : c.reconcile settings o =
      { result := .ok (), state := c.controller, events := [], requests := [] } :=
    c.controller.reconcile_of_deleted settings o.server o.time hm
  rw [step, hreconcile]
  exact ⟨rfl, rfl, rfl, rfl⟩

/-- A config map without a policy is counted and told, and changes nothing else. -/
theorem step_of_refused (hm : o.configMap.isBeingDeleted = false) {e : ConfigMapError}
    (h : o.configMap.policy settings.key = .error e) :
    (c.reconcile settings o).result = .error (.configMap e) ∧
    (∃ event, event.type = .warning ∧ event.note = refusalNote settings o e ∧
      (c.reconcile settings o).events = [event] ∧
      (c.reconcile settings o).requests = told settings o event) ∧
    c.step settings o =
      { c with controller :=
        { c.controller with metrics := c.controller.metrics.map (·.recordFailedReload) } } := by
  have hreconcile : c.reconcile settings o =
      c.controller.reject settings o.server o.time o.configMap e :=
    c.controller.reconcile_of_refused settings o.server o.time hm h
  have hsends : ∀ r ∈ (c.reconcile settings o).requests, r.method ≠ "PATCH" := by
    rw [hreconcile]
    exact publishEvent_sends o.server _ _ _ _
  rw [step_of_not_taken (o.server.lastTaken?_eq_none hsends), hreconcile]
  exact ⟨rfl, ⟨_, rfl, rfl, rfl, publishEvent_eq o.server _⟩, rfl⟩

/-- A config map with a policy puts it in force, and is counted and told. -/
theorem step_of_accepted (hc : c.controller.store.InStep) (hm : o.configMap.isBeingDeleted = false)
    {d : PolicyDocument} (h : o.configMap.policy settings.key = .ok d) :
    ((c.reconcile settings o).result = .ok () ∨
      ∃ e, (c.reconcile settings o).result = .error (.api e)) ∧
    (∃ event, event.type = .normal ∧ (c.reconcile settings o).events = [event] ∧
      (c.reconcile settings o).requests.filter (·.method = "POST") = told settings o event) ∧
    (c.step settings o).controller.store = c.controller.store.advance d ∧
    (c.step settings o).controller.metrics = c.controller.metrics.map
      (·.recordReload (c.inForce.generation + 1)
        (Snapshot.build d (c.inForce.generation + 1)).rulesPerKind (o.time / nanosPerSecond)) := by
  have hreconcile : c.reconcile settings o =
      { c.controller with store := c.controller.store.advance d }.accept settings o.server o.time
        o.configMap (c.inForce.generation + 1) :=
    ControllerState.reconcile_of_accepted settings o.server o.time hc hm h
  obtain ⟨hstore, hmetrics, hevents, htold, hresult⟩ :=
    ControllerState.accept_spec settings o.server o.time o.configMap
      { c.controller with store := c.controller.store.advance d } (c.inForce.generation + 1)
  rw [← hreconcile] at hstore hmetrics hevents htold hresult
  exact ⟨hresult, ⟨_, rfl, hevents, htold⟩, hstore, hmetrics⟩

end Step

/-! ## What many come to -/

section Metrics

variable {key : String} {earlier : List Occasion} {o : Occasion} {inForce : Snapshot}
  {first m : Metrics}

theorem rel_self {r : Metrics → Metrics → Prop} (x : Option Metrics) (h : ∀ m, r m m) :
    Option.Rel r x x := by
  cases x with
  | none => exact .none
  | some m => exact .some (h m)

theorem rel_map {r s : Metrics → Metrics → Prop} {x y : Option Metrics} (h : Option.Rel r x y)
    {f : Metrics → Metrics} (hf : ∀ a b, r a b → s a (f b)) : Option.Rel s x (y.map f) := by
  cases h with
  | none => exact .none
  | some h => exact .some (hf _ _ h)

/-- An occasion that brings no policy adds at most a failure. -/
theorem Counts.of_not_accepted (h : Counts key earlier inForce first m)
    (hnone : o.accepted? key = none) :
    Counts key (earlier ++ [o]) inForce first
      { m with failedReloads := m.failedReloads + [o].countP (·.isRefused key) } := by
  have haccepted := accepted_append_of_none hnone earlier
  refine ⟨?_, ?_, ?_⟩
  · rw [haccepted]
    exact h.reloads
  · rw [List.countP_append, ← Nat.add_assoc, ← h.failedReloads]
  · rw [haccepted]
    intro hsome
    exact ⟨(h.gauges hsome).generation, (h.gauges hsome).kindsOnce, (h.gauges hsome).rules⟩

/-- An occasion that brings a policy adds a success, and sets the gauges. -/
theorem Counts.of_accepted (h : Counts key earlier inForce first m)
    (hm : o.configMap.isBeingDeleted = false) {d : PolicyDocument}
    (hpolicy : o.configMap.policy key = .ok d) (generation time : Nat) :
    Counts key (earlier ++ [o]) (.build d generation) first
      (m.recordReload generation (Snapshot.build d generation).rulesPerKind time) := by
  refine ⟨?_, ?_, fun _ => Metrics.mirrors_recordReload d generation m time⟩
  · rw [accepted_append, Occasion.accepted?_of_policy hm hpolicy, List.length_append,
      ← Nat.add_assoc, ← h.reloads]
    rfl
  · rw [List.countP_append, List.countP_singleton, Occasion.isRefused_of_policy hm hpolicy,
      ← Nat.add_assoc, ← h.failedReloads]
    rfl

end Metrics

variable {settings : ControllerSettings} {c : Course} {first : ControllerState}
  {earlier : List Occasion}

/-- An occasion that brings no policy leaves the policy as it is. -/
theorem Accounts.of_not_accepted (h : c.Accounts settings.key first earlier) {o : Occasion}
    (hnone : o.accepted? settings.key = none) :
    ({ c with controller :=
        { c.controller with metrics := c.controller.metrics.map fun m =>
          { m with
            failedReloads := m.failedReloads + [o].countP (·.isRefused settings.key) } } } :
      Course).Accounts settings.key first (earlier ++ [o]) := by
  have haccepted := accepted_append_of_none hnone earlier
  refine ⟨?_, ?_, h.inStep, rel_map h.metrics fun _ _ hm => hm.of_not_accepted hnone⟩
  · rw [haccepted]
    exact h.inForce
  · rw [haccepted]
    exact h.generation

/-- **One reconciliation** keeps the accounts. -/
theorem Accounts.step (h : c.Accounts settings.key first earlier) (o : Occasion) :
    (c.step settings o).Accounts settings.key first (earlier ++ [o]) := by
  cases hm : o.configMap.isBeingDeleted with
  | true =>
      have hafter := h.of_not_accepted (Occasion.accepted?_of_deleted hm)
      rw [List.countP_singleton, Occasion.isRefused_of_deleted hm] at hafter
      rw [(c.step_of_deleted settings o hm).2.2.2]
      simpa using hafter
  | false =>
      cases hpolicy : o.configMap.policy settings.key with
      | error e =>
          have hafter := h.of_not_accepted (Occasion.accepted?_of_policy hm hpolicy)
          rw [List.countP_singleton, Occasion.isRefused_of_policy hm hpolicy] at hafter
          rw [(c.step_of_refused settings o hm hpolicy).2.2]
          exact hafter
      | ok d =>
          -- only here is the store touched: one generation on, one document more
          obtain ⟨-, -, hstore, hmetrics⟩ := c.step_of_accepted settings o h.inStep hm hpolicy
          have haccepted : accepted settings.key (earlier ++ [o]) =
              accepted settings.key earlier ++ [d] := by
            rw [accepted_append, Occasion.accepted?_of_policy hm hpolicy]
            rfl
          have hinForce : (c.step settings o).inForce = .build d (c.inForce.generation + 1) :=
            congrArg Store.current hstore
          refine ⟨?_, ?_, ?_, ?_⟩
          · rw [haccepted, List.getLast?_concat, hinForce]
            rfl
          · rw [haccepted, hinForce, List.length_append, ← Nat.add_assoc, ← h.generation]
            rfl
          · rw [hstore]
            exact c.controller.store.inStep_advance d
          · rw [hmetrics, hinForce]
            exact rel_map h.metrics fun _ _ hcounts => hcounts.of_accepted hm hpolicy _ _

/-- **A run of reconciliations** keeps the accounts. -/
theorem Accounts.run (h : c.Accounts settings.key first earlier) (later : List Occasion) :
    (c.run settings later).Accounts settings.key first (earlier ++ later) := by
  induction later generalizing c earlier with
  | nil =>
      rw [List.append_nil]
      exact h
  | cons o rest ih =>
      rw [List.append_cons]
      exact ih (h.step o)

theorem accounts_start (key : String) (h : first.store.InStep) :
    (start first).Accounts key first [] where
  inForce := rfl
  generation := rfl
  inStep := h
  metrics := rel_self first.metrics fun _ => ⟨rfl, rfl, fun hsome => absurd rfl hsome⟩

/-- **Reconciling is all or nothing**, behind any reconciliations and whatever the API server
    answers. A config map that is being deleted changes nothing at all. One without a policy adds a
    failure to the counts, and nothing else is changed or asked but that one warning is told; the
    problem is the result. One with a policy puts it in force, one generation on, adds a success to
    the counts and tells it once, even if the webhook cannot be registered. So once a policy was
    accepted, the gauges say what is in force. An event is told by exactly one request wherever the
    name of the namespace can stand in a path, and nowhere by more. -/
theorem all_or_nothing (settings : ControllerSettings) (texts : List String)
    (metrics : Option Metrics) (registeredKinds : Option (List String)) (earlier : List Occasion)
    (o : Occasion) :
    let first : ControllerState := { store := Store.new.loadAll texts, metrics, registeredKinds }
    let before := (start first).run settings earlier
    let after := before.step settings o
    let r := before.reconcile settings o
    let «namespace» := o.configMap.metadata.namespace.getD "default"
    before.Accounts settings.key first earlier ∧
    (o.configMap.isBeingDeleted = true →
      r.result = .ok () ∧ r.events = [] ∧ r.requests = [] ∧ after = before) ∧
    (∀ e, o.configMap.isBeingDeleted = false → o.configMap.policy settings.key = .error e →
      r.result = .error (.configMap e) ∧
      (∃ event, event.type = .warning ∧ event.note = refusalNote settings o e ∧
        r.events = [event] ∧ r.requests = told settings o event ∧
        (StandsInPath «namespace» → ∃ request, r.requests = [request] ∧
          request.Tells "Warning" event.note o.configMap)) ∧
      after = { before with controller :=
        { before.controller with metrics := before.controller.metrics.map fun m =>
          { m with failedReloads := m.failedReloads + 1 } } }) ∧
    (∀ d, o.configMap.isBeingDeleted = false → o.configMap.policy settings.key = .ok d →
      (r.result = .ok () ∨ ∃ e, r.result = .error (.api e)) ∧
      (∃ event, event.type = .normal ∧
        r.events = [event] ∧ r.requests.filter (·.method = "POST") = told settings o event ∧
        (StandsInPath «namespace» → ∃ request, r.requests.filter (·.method = "POST") = [request] ∧
          request.Tells "Normal" event.note o.configMap)) ∧
      after.inForce = .build d (before.inForce.generation + 1) ∧
      Option.Rel
        (fun m m' => m' = { m with reloads := m.reloads + 1, lastReload := m'.lastReload } ∧
          m'.Mirrors after.inForce)
        before.controller.metrics after.controller.metrics) := by
  intro first before after r «namespace»
  have hbefore : before.Accounts settings.key first earlier :=
    (accounts_start settings.key (Store.inStep_new.loadAll texts)).run earlier
  refine ⟨hbefore, fun hm => before.step_of_deleted settings o hm, ?_, ?_⟩
  · intro e hm hpolicy
    obtain ⟨hresult, ⟨event, htype, hnote, hevents, hrequests⟩, hstep⟩ :=
      before.step_of_refused settings o hm hpolicy
    refine ⟨hresult, ⟨event, htype, hnote, hevents, hrequests, fun hname => ?_⟩, hstep⟩
    obtain ⟨request, htold, htells⟩ := told_spec settings o event hname
    rw [htype] at htells
    exact ⟨request, hrequests.trans htold, htells⟩
  · intro d hm hpolicy
    obtain ⟨hresult, ⟨event, htype, hevents, hposts⟩, hstore, hmetrics⟩ :=
      before.step_of_accepted settings o hbefore.inStep hm hpolicy
    have hinForce : after.inForce = .build d (before.inForce.generation + 1) :=
      congrArg Store.current hstore
    refine ⟨hresult, ⟨event, htype, hevents, hposts, fun hname => ?_⟩, hinForce, ?_⟩
    · obtain ⟨request, htold, htells⟩ := told_spec settings o event hname
      rw [htype] at htells
      exact ⟨request, hposts.trans htold, htells⟩
    · have hrecorded : after.controller.metrics = _ := hmetrics
      rw [hrecorded, hinForce]
      refine rel_map (rel_self (r := Eq) _ fun _ => rfl) ?_
      rintro m _ rfl
      exact ⟨rfl, Metrics.mirrors_recordReload d _ m _⟩

end Course

end AdmissionRules
