import AdmissionRules.Kubernetes.ObjectMeta
import AdmissionRules.Kubernetes.Reference

set_option autoImplicit false

/-! # Config maps

A config map holds texts under keys. -/

namespace AdmissionRules

open Json (Reader Fault RecordField)

structure ConfigMap where
  metadata : ObjectMeta
  data : List (String × String)

namespace ConfigMap

/-- The text under a key. -/
def get? (m : ConfigMap) (key : String) : Option String := Ascending.get? key m.data

/-- The reference to a config map; what it does not name is empty. -/
def reference (m : ConfigMap) : NamespacedName :=
  { «namespace» := m.metadata.namespace.getD "", name := m.metadata.displayName }

def isBeingDeleted (m : ConfigMap) : Bool := m.metadata.deletionTimestamp.isSome

end ConfigMap

/-! ## Binary data -/

/-- The six bits that a character of the base 64 alphabet stands for. -/
def base64Value? (c : Char) : Option Nat :=
  if c.isUpper then some (c.toNat - 'A'.toNat)
  else if c.isLower then some (c.toNat - 'a'.toNat + 26)
  else if c.isDigit then some (c.toNat - '0'.toNat + 52)
  else if c = '+' then some 62
  else if c = '/' then some 63
  else none

/-- Whether a character is of the alphabet, and the bits that it shares with the padding after it
    are zero. -/
def endsBase64 (shared : Nat) (c : Char) : Bool :=
  match base64Value? c with
  | some n => n % shared = 0
  | none => false

/-- Whether a text is binary data in base 64, padded to groups of four characters. -/
def isBase64 : List Char → Bool
  | [] => true
  | [a, b, '=', '='] => endsBase64 1 a && endsBase64 16 b
  | [a, b, c, '='] => endsBase64 1 a && endsBase64 1 b && endsBase64 4 c
  | a :: b :: c :: d :: rest => [a, b, c, d].all (endsBase64 1) && isBase64 rest
  | _ => false

/-- Binary data in base 64; null is no data. -/
def base64 : Reader Unit := fun depth s => do
  match ← Reader.nullable .string depth s with
  | some text => if isBase64 text.toList then .ok () else .error .mismatch
  | none => .ok ()

/-! ## Reading -/

/-- A text that has to be the given one. -/
def Json.Reader.literal (expected : String) : Reader Unit := fun depth s => do
  if (← Reader.string depth s) = expected then .ok () else .error .mismatch

/-- The fields by which an object tells its type; either may be absent. -/
def typeFields {σ : Type} (apiVersion kind : String) : List (RecordField σ) :=
  [.checked .optional "apiVersion" (.literal apiVersion),
    .checked .optional "kind" (.literal kind)]

namespace ConfigMap

def empty : ConfigMap := { metadata := .empty, data := [] }

def reader : Reader ConfigMap :=
  .looseRecord empty (typeFields "v1" "ConfigMap" ++ [
    .checked .optional "binaryData" (.nullable (.map base64)),
    .loose "data" (.map .string) fun x m => { m with data := x.getD [] },
    .checked .optional "immutable" (.nullable .bool),
    .loose "metadata" ObjectMeta.reader fun x m => { m with metadata := x.getD .empty }])

/-- The metadata of a list, of which nothing is kept. -/
def listMeta : Reader Unit :=
  .looseRecord () [
    .checked .optional "continue" (.nullable .string),
    .checked .optional "remainingItemCount" (.nullable .int64),
    .checked .optional "resourceVersion" (.nullable .string),
    .checked .optional "selfLink" (.nullable .string)]

/-- A list of config maps. -/
def listReader : Reader (List ConfigMap) :=
  .mixedRecord [] [
    .checked .optional "metadata" listMeta,
    .required "items" (.nullable (.list reader)) fun x _ => x.getD []]

end ConfigMap

end AdmissionRules
