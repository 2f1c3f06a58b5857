import AdmissionRules.Kubernetes.Api
import AdmissionRules.Kubernetes.ConfigMap

set_option autoImplicit false

/-! # Events

Every reload is told by an event about the config map. -/

namespace AdmissionRules

inductive EventType where
  | normal
  | warning
deriving DecidableEq

def EventType.name : EventType → String
  | .normal => "Normal"
  | .warning => "Warning"

/-- What an event says. -/
structure EventText where
  type : EventType
  reason : String
  action : String
  note : String
deriving DecidableEq

/-- Who tells events: a controller and the instance of it. -/
structure Reporter where
  controller : String
  «instance» : Option String
deriving DecidableEq

/-- The config map as an event refers to it. -/
def ConfigMap.regarding (m : ConfigMap) : Json :=
  .ofPresent [
    ("apiVersion", some (.string "v1")),
    ("kind", some (.string "ConfigMap")),
    ("name", m.metadata.name.map .string),
    ("namespace", m.metadata.namespace.map .string),
    ("uid", m.metadata.uid.map .string)]

/-- The nanoseconds of a second. -/
def nanosPerSecond : Nat := tenTo 9

/-- The name of an event about an object, made different by the time: by the nanoseconds as long
    as 64 bits hold them, and then by the seconds. -/
def eventName (reporter : Reporter) (m : ConfigMap) (time : Nat) : String :=
  let count := if isSigned 64 time then time else time / nanosPerSecond
  m.metadata.name.getD reporter.controller ++ "." ++ String.ofList (Nat.toDigits 16 count)

/-- When an event happens, to the microsecond. -/
def eventTime (time : Nat) : String :=
  (Timestamp.ofUnix (time / nanosPerSecond)).textWith
    ("." ++ Timestamp.padded 6 (time % nanosPerSecond / 1000))

/-- An event about a config map as the API server gets it; the time is in nanoseconds. -/
def EventText.toJson (e : EventText) (reporter : Reporter) (m : ConfigMap) (time : Nat) : Json :=
  .ofMembers [
    ("apiVersion", .string "events.k8s.io/v1"),
    ("kind", .string "Event"),
    ("metadata", ObjectMeta.toJson
      { ObjectMeta.empty with
        name := some (eventName reporter m time), «namespace» := m.metadata.namespace }),
    ("action", .string e.action),
    ("eventTime", .string (eventTime time)),
    ("note", .string e.note),
    ("reason", .string e.reason),
    ("regarding", m.regarding),
    ("reportingController", .string reporter.controller),
    ("reportingInstance", .string (reporter.instance.getD reporter.controller)),
    ("type", .string e.type.name)]

/-- The path of the events of a namespace. -/
def eventsPath («namespace» : String) : String :=
  "/apis/events.k8s.io/v1/namespaces/" ++ «namespace» ++ "/events"

/-- The call that publishes an event, in the namespace of the object that it is about. -/
def EventText.call (e : EventText) (reporter : Reporter) (m : ConfigMap) (time : Nat) : ApiCall :=
  { method := "POST"
    target := withParameters (eventsPath (m.metadata.namespace.getD "default")) []
    contentType := some "application/json"
    body := some (e.toJson reporter m time) }

end AdmissionRules
