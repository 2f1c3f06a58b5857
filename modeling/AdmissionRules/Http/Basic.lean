import AdmissionRules.Http.MediaType
import AdmissionRules.Http.Target
import AdmissionRules.Json.Reader

set_option autoImplicit false

/-! # HTTP

Requests and responses as far as they matter here, and the answers that do not depend on what a
server does: unknown paths, methods that a path does not take, bodies that are not what they
should be. -/

namespace AdmissionRules.Http

/-! ## Messages -/

structure Request where
  method : String
  /-- The text of the target. -/
  target : String
  contentType : Option String
  body : Option String

/-- What a response carries. -/
inductive Content where
  | empty
  | json (j : Json)
  | text (type : String) (s : String)

structure Response where
  status : Nat
  /-- The methods that the path takes, told when another one was used. -/
  allow : Option String
  content : Content

namespace Response

/-- A response that carries nothing. -/
def bare (status : Nat) : Response := { status, allow := none, content := .empty }

def json (status : Nat) (j : Json) : Response := { status, allow := none, content := .json j }

def text (status : Nat) (type s : String) : Response :=
  { status, allow := none, content := .text type s }

/-- The type of plain text. -/
def plainType : String := "text/plain; charset=utf-8"

def plain (status : Nat) (s : String) : Response := text status plainType s

def notFound : Response := bare 404

def methodNotAllowed (methods : List String) : Response :=
  { bare 405 with allow := some (",".intercalate methods) }

/-- The answer to a `HEAD` request: that to a `GET` request without its content. -/
def headOnly (r : Response) : Response :=
  { r with content := match r.content with
      | .text type _ => .text type ""
      | c => c }

end Response

/-! ## Requests -/

namespace Request

/-- The path that a request names; it is empty if the target has none. -/
def path (r : Request) : String := ((Target.ofText? r.target).map (·.path)).getD ""

/-- Whether the request says that it carries JSON text. -/
def saysJson (r : Request) : Bool :=
  match r.contentType.bind MediaType.ofText? with
  | some m => m.isJson
  | none => false

/-- A body has at most this many bytes. -/
def maxBodyBytes : Nat := 2097152

/-- The response to a body that cannot be read. -/
def unread : Json.Fault → Response
  | .malformed => .bare 400
  | .mismatch => .bare 422

/-- The body as `parse` reads it, or the response that says why it cannot be read. -/
def readJson {α : Type} (r : Request) (parse : String → Except Json.Fault α) :
    Except Response α :=
  let body := r.body.getD ""
  if !r.saysJson then .error (.bare 415)
  else if maxBodyBytes < body.utf8ByteSize then .error (.bare 413)
  else (parse body).mapError unread

/-- Answers a request to a path that is only read. -/
def answerRead (r : Request) (page : Response) : Response :=
  if r.method = "GET" then page
  else if r.method = "HEAD" then page.headOnly
  else .methodNotAllowed ["GET", "HEAD"]

end Request

end AdmissionRules.Http
