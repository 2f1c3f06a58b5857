import AdmissionRules.Admission.Review
import AdmissionRules.Decision.Basic

set_option autoImplicit false

/-! # Subjects of requests

What a request asks a decision about. The object names its own kind, and if it does not, the
request names it; kind and API version come from the same place. -/

namespace AdmissionRules

/-- Why a request is about nothing. An object that was read is always a tree, so that nothing else
    can be wrong with it. -/
inductive DecodeError where
  | missingObject (uid : String)
  | missingKind (uid : String)
deriving DecidableEq

def DecodeError.message : DecodeError → String
  | .missingObject uid => "request " ++ uid ++ " carries no object"
  | .missingKind uid => "request " ++ uid ++ " does not name a kind"

namespace AdmissionRequest

/-- The types by which rules are found: those of the object if it names a kind, or else those of
    the request. -/
def typesOf (r : AdmissionRequest) (object : SubmittedObject) : ObjectTypes :=
  let reported : ObjectTypes := { apiVersion := r.kind.apiVersion, kind := r.kind.kind }
  match object.types with
  | some t => if t.kind.isEmpty then reported else t
  | none => reported

/-- The subject of a request. -/
def decode (r : AdmissionRequest) : Except DecodeError Subject :=
  match r.object with
  | none => .error (.missingObject r.uid)
  | some object =>
    let types := r.typesOf object
    if types.kind.isEmpty then .error (.missingKind r.uid)
    else
      .ok { kind := types.kind, apiVersion := types.apiVersion, groups := r.groups.getD [],
            object := object.tree }

end AdmissionRequest

end AdmissionRules
