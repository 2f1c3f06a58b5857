import AdmissionRules.Json.Record

set_option autoImplicit false

/-! # Groups, versions and kinds

A kind of objects is named by an API group, a version of the group and a name. The group and the
version together are the API version; the core group has no name and leaves only its version. -/

namespace AdmissionRules

open Json (Reader RecordField)

structure GroupVersionKind where
  group : String
  version : String
  kind : String
deriving DecidableEq

structure GroupVersionResource where
  group : String
  version : String
  resource : String
deriving DecidableEq

/-- The text of a group with a version. -/
def apiVersionText (group version : String) : String :=
  if group.isEmpty then version else group ++ "/" ++ version

namespace GroupVersionKind

def apiVersion (k : GroupVersionKind) : String := apiVersionText k.group k.version

def reader : Reader GroupVersionKind :=
  .record { group := "", version := "", kind := "" } [
    .required "group" .string fun x k => { k with group := x },
    .required "version" .string fun x k => { k with version := x },
    .required "kind" .string fun x k => { k with kind := x }]

end GroupVersionKind

def GroupVersionResource.reader : Reader GroupVersionResource :=
  .record { group := "", version := "", resource := "" } [
    .required "group" .string fun x r => { r with group := x },
    .required "version" .string fun x r => { r with version := x },
    .required "resource" .string fun x r => { r with resource := x },
    .checked .optional "api_version" .string]

end AdmissionRules
