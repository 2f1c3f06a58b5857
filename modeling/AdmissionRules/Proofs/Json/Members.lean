import AdmissionRules.FieldPath
import AdmissionRules.Proofs.Ascending

set_option autoImplicit false

/-! # Members of objects

What stands in an object that is made from a list of members, and at a path of it. -/

namespace AdmissionRules.Json

/-- Of the members with one key the last one is found. -/
theorem get?_ofMembers (members : List (String × Json)) (k : String) :
    (ofMembers members).get? k = members.reverse.lookup k :=
  Ascending.get?_ofList members k

theorem at?_cons (j : Json) (key : String) (path : List String) :
    j.at? (key :: path) = (j.get? key).bind (·.at? path) := by
  rw [at?]
  cases j.get? key <;> rfl

theorem at?_ofMembers (members : List (String × Json)) (key : String) (path : List String) :
    (ofMembers members).at? (key :: path) = (members.reverse.lookup key).bind (·.at? path) := by
  rw [at?_cons, get?_ofMembers]

end AdmissionRules.Json
