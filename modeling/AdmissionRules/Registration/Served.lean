import AdmissionRules.Ascending

set_option autoImplicit false

/-! # Served resources

What a cluster serves: for each kind the resources that serve it, in the order in which they were
found. A kind may be served by several groups. -/

namespace AdmissionRules

structure ServedResource where
  group : String
  version : String
  /-- The name of the resource in paths, a plural. -/
  plural : String
  namespaced : Bool
deriving DecidableEq

/-- The scope of a resource as it is written in rules of webhooks. -/
def scopeName (namespaced : Bool) : String := if namespaced then "Namespaced" else "Cluster"

/-- The resources of the kinds, in ascending order of the kinds. -/
abbrev ServedResources := List (String × List ServedResource)

namespace ServedResources

def empty : ServedResources := []

def insert (kind : String) (r : ServedResource) (served : ServedResources) : ServedResources :=
  Ascending.alter kind (fun rs => rs.getD [] ++ [r]) served

/-- The resources that serve a kind. -/
def forKind (served : ServedResources) (kind : String) : List ServedResource :=
  (Ascending.get? kind served).getD []

/-- The resources found, each with its kind, in order. -/
def ofList (found : List (String × ServedResource)) : ServedResources :=
  found.foldl (fun served f => insert f.1 f.2 served) empty

/-- The number of kinds that are served. -/
def kindCount (served : ServedResources) : Nat := served.length

end ServedResources

end AdmissionRules
