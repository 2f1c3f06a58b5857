import AdmissionRules.Metrics.Basic
import AdmissionRules.Policy.Store
import AdmissionRules.Registration.Configuration
import AdmissionRules.Reload.Error
import AdmissionRules.Reload.Event

set_option autoImplicit false

/-! # Reconciling

A config map that is being deleted changes nothing. Any other is loaded into the store: a failure
leaves the policy as it was and is counted and told, a success is counted and told, and then the
webhook is registered anew if the kinds of the policy are not those that it was registered for.
Whether an event can be told changes nothing else. -/

namespace AdmissionRules

/-! ## State -/

/-- What a controller is started with. -/
structure ControllerSettings where
  /-- The key of the policy in the config map. -/
  key : String
  registration : Option WebhookRegistration
  reporter : Reporter
  /-- What the YAML reader says of a text that is no draft of a policy, in its own words. -/
  yamlProblem : String → String

structure ControllerState where
  store : Store
  /-- The metrics, if reloads are recorded. -/
  metrics : Option Metrics
  /-- The kinds for which the webhook was last registered. -/
  registeredKinds : Option (List String)

namespace ControllerState

def new : ControllerState := { store := .new, metrics := some .new, registeredKinds := none }

/-- Whether the webhook is not registered for the given kinds. -/
def isRegistrationOutdated (s : ControllerState) (kinds : List String) : Bool :=
  s.registeredKinds ≠ some kinds

end ControllerState

/-! ## Loading -/

/-- The text of the policy in a config map. -/
def ConfigMap.document (m : ConfigMap) (key : String) : Except ConfigMapError String :=
  match m.get? key with
  | some text => .ok text
  | none => .error (.missingKey m.reference.text key)

/-- Loads the policy of a config map, and answers with its generation. -/
def Store.loadConfigMap (store : Store) (m : ConfigMap) (key : String) :
    Except ConfigMapError Nat × Store :=
  match m.document key with
  | .error e => (.error e, store)
  | .ok text =>
    let (answer, store) := store.load text
    (answer.mapError .invalid, store)

/-- The numbers of rules of the kinds of a snapshot. -/
def Snapshot.rulesPerKind (s : Snapshot) : List (String × Nat) :=
  s.kinds.map fun k => (k, (s.rulesFor k).length)

/-! ## Events -/

def rejectedEvent (yamlProblem : String) (e : ConfigMapError) : EventText :=
  { type := .warning
    reason := "ConfigurationRejected"
    action := "Reloading"
    note := e.message yamlProblem }

def loadedEvent (generation : Nat) (s : Snapshot) : EventText :=
  { type := .normal
    reason := "ConfigurationLoaded"
    action := "Reloading"
    note := s!"Loaded generation {generation} with {s.ruleCount} rules for {s.kinds.length} kinds" }

/-- Publishes an event; its answer plays no part. -/
def publishEvent (server : ApiServer) (event : ApiCall) : List ApiRequest :=
  (server.call event .any).requests

/-! ## Reconciling -/

structure Reconciliation where
  result : Except ReloadError Unit
  state : ControllerState
  /-- The events that it sets out to tell, whether a request can be made for them or not. -/
  events : List EventText
  requests : List ApiRequest

/-- What is done after a reconciliation. -/
def Reconciliation.nextStep (r : Reconciliation) : NextStep :=
  match r.result with
  | .ok () => .awaitChange
  | .error e => e.nextStep

namespace ControllerState

/-- Registers the webhook if it is enabled and its kinds are outdated. The kinds are remembered
    once the server has taken the configuration. -/
def register (settings : ControllerSettings) (server : ApiServer) (s : ControllerState) :
    Exchange ControllerState :=
  match settings.registration with
  | none => pure s
  | some registration =>
    let snapshot := s.store.current
    if s.isRegistrationOutdated snapshot.kinds then do
      registration.ensure server snapshot.document.entries
      pure { s with registeredKinds := some snapshot.kinds }
    else pure s

/-- After a config map was refused. -/
def reject (settings : ControllerSettings) (server : ApiServer) (time : Nat) (m : ConfigMap)
    (s : ControllerState) (e : ConfigMapError) : Reconciliation :=
  let event := rejectedEvent (settings.yamlProblem ((m.get? settings.key).getD "")) e
  { result := .error (.configMap e)
    state := { s with metrics := s.metrics.map (·.recordFailedReload) }
    events := [event]
    requests := publishEvent server (event.call settings.reporter m time) }

/-- The state once the policy in force is counted as loaded. -/
def counted (s : ControllerState) (time : Nat) : ControllerState :=
  let snapshot := s.store.current
  { s with
    metrics := s.metrics.map
      (·.recordReload snapshot.generation snapshot.rulesPerKind (time / nanosPerSecond)) }

/-- After a config map was loaded. -/
def accept (settings : ControllerSettings) (server : ApiServer) (time : Nat) (m : ConfigMap)
    (s : ControllerState) (generation : Nat) : Reconciliation :=
  let event := loadedEvent generation s.store.current
  let told := publishEvent server (event.call settings.reporter m time)
  let registered := (s.counted time).register settings server
  { result := (registered.result.map fun _ => ()).mapError .api
    state := match registered.result with
      | .ok s => s
      | .error _ => s.counted time
    events := [event]
    requests := told ++ registered.requests }

/-- Reconciles a config map at a time, in nanoseconds. -/
def reconcile (settings : ControllerSettings) (server : ApiServer) (time : Nat) (m : ConfigMap)
    (s : ControllerState) : Reconciliation :=
  if m.isBeingDeleted then { result := .ok (), state := s, events := [], requests := [] }
  else
    match s.store.loadConfigMap m settings.key with
    | (.error e, _) => s.reject settings server time m e
    | (.ok generation, store) => { s with store }.accept settings server time m generation

end ControllerState

/-! ## The first load -/

def configMapPath (r : NamespacedName) : String :=
  "/api/v1/namespaces/" ++ r.namespace ++ "/configmaps/" ++ r.name

/-- Loads the policy from the config map of a cluster, before any change of it is watched. -/
def Store.loadInitial (store : Store) (server : ApiServer) (r : NamespacedName) (key : String) :
    Except ReloadError Nat × Store × List ApiRequest :=
  let asked := server.get (configMapPath r) ConfigMap.reader
  match asked.result with
  | .error e => (.error (.api e), store, asked.requests)
  | .ok m =>
    let (answer, store) := store.loadConfigMap m key
    (answer.mapError .configMap, store, asked.requests)

end AdmissionRules
