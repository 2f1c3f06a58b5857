import AdmissionRules.Json.Record
import AdmissionRules.Kubernetes.Timestamp

set_option autoImplicit false

/-! # Object metadata

The metadata that every object of a cluster carries. Fields are absent when they are null, and
what is not known is dropped, so that metadata is written back in a normal form. -/

namespace AdmissionRules

open Json (Reader RecordField)

/-! ## Types -/

/-- A set of names with values, in ascending order of the names. -/
abbrev StringMap := List (String × String)

/-- An object that another one belongs to. -/
structure OwnerReference where
  apiVersion : String
  blockOwnerDeletion : Option Bool
  controller : Option Bool
  kind : String
  name : String
  uid : String
deriving DecidableEq

/-- Who manages which fields of an object. -/
structure ManagedFields where
  apiVersion : Option String
  fieldsType : Option String
  fields : Option Json
  manager : Option String
  operation : Option String
  subresource : Option String
  time : Option Timestamp

structure ObjectMeta where
  annotations : Option StringMap
  creationTimestamp : Option Timestamp
  deletionGracePeriodSeconds : Option Int
  deletionTimestamp : Option Timestamp
  finalizers : Option (List String)
  generateName : Option String
  generation : Option Int
  labels : Option StringMap
  managedFields : Option (List ManagedFields)
  name : Option String
  «namespace» : Option String
  ownerReferences : Option (List OwnerReference)
  resourceVersion : Option String
  selfLink : Option String
  uid : Option String

/-! ## Writing -/

def StringMap.toJson (m : StringMap) : Json := .object (m.map fun e => (e.1, .string e.2))

def Json.ofStrings (items : List String) : Json := .array (items.map .string)

namespace OwnerReference

def toJson (r : OwnerReference) : Json :=
  .ofPresent [
    ("apiVersion", some (.string r.apiVersion)),
    ("blockOwnerDeletion", r.blockOwnerDeletion.map .bool),
    ("controller", r.controller.map .bool),
    ("kind", some (.string r.kind)),
    ("name", some (.string r.name)),
    ("uid", some (.string r.uid))]

end OwnerReference

namespace ManagedFields

def toJson (m : ManagedFields) : Json :=
  .ofPresent [
    ("apiVersion", m.apiVersion.map .string),
    ("fieldsType", m.fieldsType.map .string),
    ("fieldsV1", m.fields),
    ("manager", m.manager.map .string),
    ("operation", m.operation.map .string),
    ("subresource", m.subresource.map .string),
    ("time", m.time.map Timestamp.toJson)]

end ManagedFields

namespace ObjectMeta

def toJson (m : ObjectMeta) : Json :=
  .ofPresent [
    ("annotations", m.annotations.map StringMap.toJson),
    ("creationTimestamp", m.creationTimestamp.map Timestamp.toJson),
    ("deletionGracePeriodSeconds", m.deletionGracePeriodSeconds.map Json.ofInt),
    ("deletionTimestamp", m.deletionTimestamp.map Timestamp.toJson),
    ("finalizers", m.finalizers.map Json.ofStrings),
    ("generateName", m.generateName.map .string),
    ("generation", m.generation.map Json.ofInt),
    ("labels", m.labels.map StringMap.toJson),
    ("managedFields", m.managedFields.map fun ms => .array (ms.map ManagedFields.toJson)),
    ("name", m.name.map .string),
    ("namespace", m.namespace.map .string),
    ("ownerReferences", m.ownerReferences.map fun rs => .array (rs.map OwnerReference.toJson)),
    ("resourceVersion", m.resourceVersion.map .string),
    ("selfLink", m.selfLink.map .string),
    ("uid", m.uid.map .string)]

end ObjectMeta

/-! ## Reading -/

namespace OwnerReference

def empty : OwnerReference :=
  { apiVersion := "", blockOwnerDeletion := none, controller := none, kind := "", name := "",
    uid := "" }

def reader : Reader OwnerReference :=
  .looseRecord empty [
    .loose "apiVersion" .string fun x r => { r with apiVersion := x.getD "" },
    .loose "blockOwnerDeletion" .bool fun x r => { r with blockOwnerDeletion := x },
    .loose "controller" .bool fun x r => { r with controller := x },
    .loose "kind" .string fun x r => { r with kind := x.getD "" },
    .loose "name" .string fun x r => { r with name := x.getD "" },
    .loose "uid" .string fun x r => { r with uid := x.getD "" }]

end OwnerReference

namespace ManagedFields

def empty : ManagedFields :=
  { apiVersion := none, fieldsType := none, fields := none, manager := none, operation := none,
    subresource := none, time := none }

def reader : Reader ManagedFields :=
  .looseRecord empty [
    .loose "apiVersion" .string fun x m => { m with apiVersion := x },
    .loose "fieldsType" .string fun x m => { m with fieldsType := x },
    .loose "fieldsV1" .any fun x m => { m with fields := x },
    .loose "manager" .string fun x m => { m with manager := x },
    .loose "operation" .string fun x m => { m with operation := x },
    .loose "subresource" .string fun x m => { m with subresource := x },
    .loose "time" Timestamp.reader fun x m => { m with time := x }]

end ManagedFields

namespace ObjectMeta

/-- Metadata that says nothing. -/
def empty : ObjectMeta :=
  { annotations := none, creationTimestamp := none, deletionGracePeriodSeconds := none,
    deletionTimestamp := none, finalizers := none, generateName := none, generation := none,
    labels := none, managedFields := none, name := none, «namespace» := none,
    ownerReferences := none, resourceVersion := none, selfLink := none, uid := none }

def reader : Reader ObjectMeta :=
  .looseRecord empty [
    .loose "annotations" (.map .string) fun x m => { m with annotations := x },
    .loose "creationTimestamp" Timestamp.reader fun x m => { m with creationTimestamp := x },
    .loose "deletionGracePeriodSeconds" .int64
      fun x m => { m with deletionGracePeriodSeconds := x },
    .loose "deletionTimestamp" Timestamp.reader fun x m => { m with deletionTimestamp := x },
    .loose "finalizers" (.list .string) fun x m => { m with finalizers := x },
    .loose "generateName" .string fun x m => { m with generateName := x },
    .loose "generation" .int64 fun x m => { m with generation := x },
    .loose "labels" (.map .string) fun x m => { m with labels := x },
    .loose "managedFields" (.list ManagedFields.reader) fun x m => { m with managedFields := x },
    .loose "name" .string fun x m => { m with name := x },
    .loose "namespace" .string fun x m => { m with «namespace» := x },
    .loose "ownerReferences" (.list OwnerReference.reader)
      fun x m => { m with ownerReferences := x },
    .loose "resourceVersion" .string fun x m => { m with resourceVersion := x },
    .loose "selfLink" .string fun x m => { m with selfLink := x },
    .loose "uid" .string fun x m => { m with uid := x }]

/-- The name that an object is called by: its own, or else the one that a name is made from. -/
def displayName (m : ObjectMeta) : String := m.name.getD (m.generateName.getD "")

end ObjectMeta

end AdmissionRules
