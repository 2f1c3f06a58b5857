import AdmissionRules.Admission.Object
import AdmissionRules.Kubernetes.GroupVersion

set_option autoImplicit false

/-! # Admission reviews

The API server asks for admission with a review that carries a request. The request is kept as
far as a decision needs it; its other fields only have to be of their types. -/

namespace AdmissionRules

open Json (Reader Fault Source RecordField)

/-! ## Types -/

structure AdmissionRequest where
  uid : String
  kind : GroupVersionKind
  /-- The groups of the requesting user. -/
  groups : Option (List String)
  object : Option SubmittedObject

structure AdmissionReview where
  apiVersion : String
  kind : String
  request : Option AdmissionRequest

/-! ## Requests -/

/-- What may be asked for. -/
def operationNames : List String := ["CREATE", "UPDATE", "DELETE", "CONNECT"]

/-- The groups of a user, of whom more is known. -/
def userGroups : Reader (Option (List String)) :=
  .looseRecord none [
    .checked .optional "extra" (.nullable (.map (.list .string))),
    .loose "groups" (.list .string) fun x _ => x,
    .checked .optional "uid" (.nullable .string),
    .checked .optional "username" (.nullable .string)]

namespace AdmissionRequest

def empty : AdmissionRequest :=
  { uid := "", kind := { group := "", version := "", kind := "" }, groups := none, object := none }

/-- The field of the object that asks for admission. -/
def objectField : RecordField AdmissionRequest :=
  .of .nullable "object" (.nullable SubmittedObject.reader) fun x r => { r with object := x }

/-- The fields before that of the object. -/
def fieldsBefore : List (RecordField AdmissionRequest) := [
  .required "uid" .string fun x r => { r with uid := x },
  .required "kind" GroupVersionKind.reader fun x r => { r with kind := x },
  .checked .required "resource" GroupVersionResource.reader,
  .checked .optional "subResource" (.nullable .string),
  .checked .optional "requestKind" (.nullable GroupVersionKind.reader),
  .checked .optional "requestResource" (.nullable GroupVersionResource.reader),
  .checked .optional "requestSubResource" (.nullable .string),
  .checked .optional "name" .string,
  .checked .optional "namespace" (.nullable .string),
  .checked .required "operation" (.name operationNames),
  .required "userInfo" userGroups fun x r => { r with groups := x }]

/-- The fields behind that of the object. -/
def fieldsBehind : List (RecordField AdmissionRequest) := [
  .checked .nullable "oldObject" (.nullable SubmittedObject.reader),
  .checked .optional "dryRun" .bool,
  .checked .optional "options" (.nullable .any)]

def reader : Reader AdmissionRequest := .record empty (fieldsBefore ++ objectField :: fieldsBehind)

end AdmissionRequest

/-! ## Responses

A review may also carry a response, which plays no part. -/

/-- Reads a record of which nothing is kept. -/
def checkedRecord (fields : List (RecordField Unit)) : Reader Unit := .record () fields

def statusCause : Reader Unit :=
  checkedRecord [
    .checked .optional "reason" .string,
    .checked .optional "message" .string,
    .checked .optional "field" .string]

def statusDetails : Reader Unit :=
  checkedRecord [
    .checked .optional "name" .string,
    .checked .optional "group" .string,
    .checked .optional "kind" .string,
    .checked .optional "uid" .string,
    .checked .optional "causes" (.list statusCause),
    .checked .optional "retryAfterSeconds" (.integer (isUnsigned 32))]

def responseStatus : Reader Unit :=
  checkedRecord [
    .checked .optional "status" (.nullable (.name ["Success", "Failure"])),
    .checked .optional "code" (.integer (isUnsigned 16)),
    .checked .optional "message" .string,
    .checked .optional "reason" .string,
    .checked .optional "details" (.nullable statusDetails)]

def admissionResponse : Reader Unit :=
  checkedRecord [
    .checked .required "uid" .string,
    .checked .required "allowed" .bool,
    .checked .required "status" responseStatus,
    .checked .nullable "patch" (.nullable (.list (.integer (isUnsigned 8)))),
    .checked .nullable "patchType" (.nullable (.name ["JSONPatch"])),
    .checked .optional "auditAnnotations" (.map .string),
    .checked .nullable "warnings" (.nullable (.list .string))]

/-! ## Reviews -/

namespace AdmissionReview

/-- The members of a review read so far, the others than request and response from last to
    first. -/
structure Members where
  request : Option (Option AdmissionRequest)
  hasResponse : Bool
  others : List (String × Json)

def readMember (depth : Nat) (members : Members) (key : String) (s : Source) :
    Except Fault Members :=
  if key = "request" then
    if members.request.isSome then .error .mismatch
    else do
      let request ← Reader.nullable AdmissionRequest.reader depth s
      .ok { members with request := some request }
  else if key = "response" then
    if members.hasResponse then .error .mismatch
    else do
      let _ ← Reader.nullable admissionResponse depth s
      .ok { members with hasResponse := true }
  else do
    let value ← Reader.any depth s
    .ok { members with others := (key, value) :: members.others }

/-- A review has to name its API version and its kind, each once. -/
def ofMembers (members : Members) : Except Fault AdmissionReview :=
  match (SubmittedObject.takeTypes none none members.others.reverse).1 with
  | some t => .ok { apiVersion := t.apiVersion, kind := t.kind, request := members.request.join }
  | none => .error .mismatch

def reader : Reader AdmissionReview := fun depth s => do
  ofMembers (← Reader.object { request := none, hasResponse := false, others := [] } readMember
    depth s)

/-- The review of a JSON text. -/
def parse (text : String) : Except Fault AdmissionReview := Reader.run reader text

end AdmissionReview

end AdmissionRules
