import AdmissionRules.Kubernetes.ObjectMeta

set_option autoImplicit false

/-! # Submitted objects

An object of any kind. Its metadata is read as such; its API version and kind count only if both
are texts, and everything else is kept as it is. `SubmittedObject.tree` is the object as rules
see it. -/

namespace AdmissionRules

open Json (Reader Fault Source)

/-- The API version and the kind that an object names. -/
structure ObjectTypes where
  apiVersion : String
  kind : String
deriving DecidableEq

structure SubmittedObject where
  types : Option ObjectTypes
  metadata : ObjectMeta
  /-- All other members, in ascending order of their keys. -/
  rest : List (String × Json)

namespace SubmittedObject

/-- The object as a value. It always has metadata. -/
def tree (o : SubmittedObject) : Json :=
  let types := match o.types with
    | some t => [("apiVersion", Json.string t.apiVersion), ("kind", Json.string t.kind)]
    | none => []
  .ofMembers (types ++ ("metadata", o.metadata.toJson) :: o.rest)

/-! ## Types

API version and kind are taken from the members in the order written. The first of them that is
no text, or that comes a second time, ends the search without types; what was taken up to then is
lost, and what follows stays. -/

def takeTypes (apiVersion kind : Option String) :
    List (String × Json) → Option ObjectTypes × List (String × Json)
  | [] =>
    match apiVersion, kind with
    | some apiVersion, some kind => (some { apiVersion, kind }, [])
    | _, _ => (none, [])
  | (key, value) :: rest =>
    if key = "apiVersion" then
      match apiVersion, value with
      | none, .string s => takeTypes (some s) kind rest
      | _, _ => (none, rest)
    else if key = "kind" then
      match kind, value with
      | none, .string s => takeTypes apiVersion (some s) rest
      | _, _ => (none, rest)
    else
      let (types, others) := takeTypes apiVersion kind rest
      (types, (key, value) :: others)

/-! ## Reading -/

/-- The members read so far: the metadata apart, the others from last to first. -/
structure Members where
  metadata : Option ObjectMeta
  others : List (String × Json)

def readMember (depth : Nat) (members : Members) (key : String) (s : Source) :
    Except Fault Members :=
  if key = "metadata" then
    match members.metadata with
    | some _ => .error .mismatch
    | none => do
      let metadata ← ObjectMeta.reader depth s
      .ok { members with metadata := some metadata }
  else do
    let value ← Reader.any depth s
    .ok { members with others := (key, value) :: members.others }

def ofMembers (members : Members) : SubmittedObject :=
  let (types, rest) := takeTypes none none members.others.reverse
  { types, metadata := members.metadata.getD .empty, rest := Ascending.ofList rest }

def reader : Reader SubmittedObject := fun depth s =>
  (Reader.object { metadata := none, others := [] } readMember depth s).map ofMembers

end SubmittedObject

end AdmissionRules
