set_option autoImplicit false

/-! # References

A reference names an object in a namespace. It is written as namespace and name with a slash
between them, both of which have to be there. -/

namespace AdmissionRules

structure NamespacedName where
  «namespace» : String
  name : String
deriving DecidableEq

namespace NamespacedName

def text (r : NamespacedName) : String := r.namespace ++ "/" ++ r.name

/-- The reference that a text is, split at its only slash. -/
def ofChars? (cs : List Char) : Option NamespacedName :=
  let first := cs.takeWhile (· ≠ '/')
  match cs.dropWhile (· ≠ '/') with
  | _ :: second =>
    if first.isEmpty || second.isEmpty || second.contains '/' then none
    else some { «namespace» := String.ofList first, name := String.ofList second }
  | [] => none

/-- A text that is no reference. -/
structure Invalid where
  text : String
deriving DecidableEq

def Invalid.message (e : Invalid) : String :=
  "invalid reference '" ++ e.text ++ "': expected <namespace>/<name>"

def parse (s : String) : Except Invalid NamespacedName :=
  match ofChars? s.toList with
  | some r => .ok r
  | none => .error { text := s }

end NamespacedName

end AdmissionRules
