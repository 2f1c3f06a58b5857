import AdmissionRules.Reload.Reconcile

set_option autoImplicit false

/-! # Watching the config map

The controller lists the config maps that its selection finds and then follows their changes.
Every config map listed or changed is reconciled at once. After a failure it is reconciled again
when the failure's waiting time is over, unless a change comes first; there is never more than
one attempt waiting for a config map. Time goes in whole seconds. -/

namespace AdmissionRules

/-! ## Selection -/

/-- Which state of the cluster a list has to show. -/
inductive ListSemantic where
  | any
  | mostRecent
deriving DecidableEq

/-- What is listed and watched. -/
structure Selection where
  fields : Option String
  labels : Option String
  list : ListSemantic
deriving DecidableEq

/-- The selection of one config map by its name. -/
def Selection.ofConfigMap (r : NamespacedName) : Selection :=
  { fields := some ("metadata.name=" ++ r.name), labels := none, list := .any }

namespace Selection

/-- The parameters that a selection adds to a request. -/
def query (s : Selection) : List (String × String) :=
  (s.fields.map fun f => ("fieldSelector", f)).toList
    ++ (s.labels.map fun l => ("labelSelector", l)).toList

/-- The parameters that say how recent a list has to be. -/
def listQuery (s : Selection) : List (String × String) :=
  match s.list with
  | .any => [("resourceVersion", "0"), ("resourceVersionMatch", "NotOlderThan")]
  | .mostRecent => []

end Selection

/-- The path of the config maps of a namespace. -/
def configMapsPath («namespace» : String) : String :=
  "/api/v1/namespaces/" ++ «namespace» ++ "/configmaps"

def listCall (r : NamespacedName) : ApiCall :=
  let selection := Selection.ofConfigMap r
  .get (withParameters (configMapsPath r.namespace) (selection.query ++ selection.listQuery))

def watchCall (r : NamespacedName) : ApiCall :=
  .get (withParameters (configMapsPath r.namespace)
    (("watch", "true") :: (Selection.ofConfigMap r).query))

/-! ## Changes -/

inductive WatchEvent where
  | applied (m : ConfigMap)
  | deleted (m : ConfigMap)

namespace WatchEvent

open Json (Reader)

/-- The event of a type; events of other types say nothing about a config map. -/
def ofType? (type : String) (m : ConfigMap) : Option WatchEvent :=
  if type = "ADDED" ∨ type = "MODIFIED" then some (.applied m)
  else if type = "DELETED" then some (.deleted m)
  else none

def reader : Reader (Option WatchEvent) := fun depth s => do
  let (type, m) ← Reader.record ("", ConfigMap.empty) [
    .required "type" .string fun x e => (x, e.2),
    .required "object" ConfigMap.reader fun x e => (e.1, x)] depth s
  .ok (ofType? type m)

end WatchEvent

/-! ## The controller -/

structure WatchState where
  controller : ControllerState
  /-- The config maps as they were last seen. -/
  known : List (NamespacedName × ConfigMap)
  /-- When config maps are reconciled again. -/
  due : List (NamespacedName × Nat)
  requests : List ApiRequest

namespace WatchState

def new : WatchState := { controller := .new, known := [], due := [], requests := [] }

/-- The entries but that of a config map. -/
def without {α : Type} (r : NamespacedName) (entries : List (NamespacedName × α)) :
    List (NamespacedName × α) :=
  entries.filter fun e => e.1 ≠ r

/-- Reconciles a config map at a time, if it is still there. -/
def reconcile (settings : ControllerSettings) (server : ApiServer) (time : Nat)
    (r : NamespacedName) (s : WatchState) : WatchState :=
  match s.known.lookup r with
  | none => { s with due := without r s.due }
  | some m =>
    let done := s.controller.reconcile settings server (time * nanosPerSecond) m
    let due := match done.nextStep with
      | .awaitChange => without r s.due
      | .requeue seconds => (r, time + seconds) :: without r s.due
    { s with controller := done.state, due, requests := s.requests ++ done.requests }

/-- Takes notice of a config map, and reconciles it. -/
def apply (settings : ControllerSettings) (server : ApiServer) (time : Nat) (s : WatchState)
    (m : ConfigMap) : WatchState :=
  { s with known := (m.reference, m) :: without m.reference s.known }.reconcile settings server time
    m.reference

def change (settings : ControllerSettings) (server : ApiServer) (time : Nat) (s : WatchState) :
    WatchEvent → WatchState
  | .applied m => s.apply settings server time m
  | .deleted m => { s with known := without m.reference s.known }

/-- Reconciles the config maps that are due. -/
def retry (settings : ControllerSettings) (server : ApiServer) (time : Nat) (s : WatchState) :
    WatchState :=
  (s.due.filter fun e => e.2 ≤ time).foldl
    (fun s e => s.reconcile settings server time e.1) s

/-- Lets seconds pass; each begins with the next change, if there is one. -/
def follow (settings : ControllerSettings) (server : ApiServer) :
    Nat → Nat → List (Option WatchEvent) → WatchState → WatchState
  | 0, _, _, s => s
  | seconds + 1, time, events, s =>
    let s := match events with
      | some e :: _ => s.change settings server time e
      | _ => s
    follow settings server seconds (time + 1) (events.drop 1) (s.retry settings server time)

end WatchState

/-- What a controller asks for when it starts, and what comes of running it. -/
structure ControllerRun where
  watched : List ApiRequest
  state : WatchState

/-- Runs a controller for a number of seconds. The config maps that the server lists are
    reconciled at first, and one change arrives at the beginning of each second. -/
def runController (settings : ControllerSettings) (server : ApiServer) (r : NamespacedName)
    (events : List (Option WatchEvent)) (seconds : Nat) : ControllerRun :=
  let listed := server.call (listCall r) ConfigMap.listReader
  match listed.result with
  | .error _ => { watched := listed.requests, state := .new }
  | .ok configMaps =>
    let started := configMaps.foldl (WatchState.apply settings server 0) .new
    { watched := listed.requests ++ (watchCall r).request?.toList
      state := started.follow settings server seconds 1 events }

end AdmissionRules
