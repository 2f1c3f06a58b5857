import AdmissionRules.Http.Target
import AdmissionRules.Json.Record

set_option autoImplicit false

/-! # The API server

Requests to the API server of a cluster and what can come back. A server is any function from
requests to answers, so what a program does against it can be stated for all servers. An
`Exchange` is the outcome of a conversation: its result and the requests that arrived, in order.
Names go into targets as they are, so a name may end the path or make a target that cannot be
sent. -/

namespace AdmissionRules

open Json (Reader RecordField)

/-! ## Requests and answers -/

/-- A request as it is made: its target is a text, which need not give one. -/
structure ApiCall where
  method : String
  target : String
  contentType : Option String
  body : Option Json

/-- A request as it arrives. -/
structure ApiRequest where
  method : String
  target : Http.Target
  contentType : Option String
  body : Option Json

/-- The request that arrives when a call is made. -/
def ApiCall.request? (c : ApiCall) : Option ApiRequest :=
  (Http.Target.ofText? c.target).map fun target =>
    { method := c.method, target, contentType := c.contentType, body := c.body }

inductive ApiAnswer where
  | unreachable
  | response (status : Nat) (body : String)

abbrev ApiServer := ApiRequest → ApiAnswer

/-- Why a request to the API server fails. -/
inductive ApiError where
  /-- The server refuses with a code. -/
  | refused (code : Nat)
  /-- The server cannot be reached. -/
  | unreachable
  /-- The response is not what was asked for. -/
  | unreadable
  /-- An API group has no version. -/
  | emptyGroup
  /-- The request cannot be made. -/
  | unsendable
deriving DecidableEq, Repr

/-! ## Query text -/

/-- Whether a byte stands for itself in a query. -/
def isQueryByte (b : UInt8) : Bool :=
  let c := Char.ofNat b.toNat
  c.isAlphanum || c = '*' || c = '-' || c = '.' || c = '_'

/-- A byte in a query: a blank is a plus sign, and what stands not for itself is given by its
    code. -/
def queryByte (b : UInt8) : List Char :=
  if isQueryByte b then [Char.ofNat b.toNat]
  else if b = 0x20 then ['+']
  else
    let digits := (Nat.toDigits 16 b.toNat).map Char.toUpper
    '%' :: (List.replicate (2 - digits.length) '0' ++ digits)

def queryText (s : String) : String := String.ofList (s.toUTF8.toList.flatMap queryByte)

/-- A path with parameters, each behind an ampersand. -/
def withParameters (path : String) (parameters : List (String × String)) : String :=
  path ++ "?" ++ String.join (parameters.map fun p => "&" ++ queryText p.1 ++ "=" ++ queryText p.2)

/-! ## Reading answers -/

/-- The code in the body of a refusal, if it is a status. -/
def refusalCode : Reader Nat :=
  .record 0 [
    .checked .required "status" .string,
    .checked .optional "message" .string,
    .checked .optional "reason" .string,
    .required "code" (.integer (isUnsigned 16)) fun code _ => code.toNat]

namespace ApiAnswer

/-- The code of a refusal: the one in the body counts before that of the response. -/
def codeOf (status : Nat) (body : String) : Nat :=
  match Reader.run refusalCode body with
  | .ok code => code
  | .error _ => status

/-- What an answer says, if it is of the form asked for. -/
def read {α : Type} (reader : Reader α) : ApiAnswer → Except ApiError α
  | .unreachable => .error .unreachable
  | .response status body =>
    if 400 ≤ status ∧ status < 600 then .error (.refused (codeOf status body))
    else
      match Reader.run reader body with
      | .ok x => .ok x
      | .error _ => .error .unreadable

end ApiAnswer

/-! ## Exchanges -/

structure Exchange (α : Type) where
  result : Except ApiError α
  requests : List ApiRequest

namespace Exchange

variable {α β : Type}

/-- A result without a request. -/
def done (result : Except ApiError α) : Exchange α := { result, requests := [] }

/-- Goes on with the result, unless there is none. -/
def andThen (e : Exchange α) (next : α → Exchange β) : Exchange β :=
  match e.result with
  | .error problem => { result := .error problem, requests := e.requests }
  | .ok x =>
    let later := next x
    { result := later.result, requests := e.requests ++ later.requests }

instance : Monad Exchange where
  pure x := done (.ok x)
  bind := andThen

/-- Asks for each member of a list in turn, up to the first failure. -/
def forEach (ask : α → Exchange β) : List α → Exchange (List β)
  | [] => done (.ok [])
  | x :: rest => do
    let y ← ask x
    let ys ← forEach ask rest
    pure (y :: ys)

end Exchange

/-- Makes a call. Without a target nothing is sent. -/
def ApiServer.call {α : Type} (server : ApiServer) (c : ApiCall) (reader : Reader α) :
    Exchange α :=
  match c.request? with
  | some request => { result := (server request).read reader, requests := [request] }
  | none => .done (.error .unsendable)

/-- The call that reads what stands at a target. -/
def ApiCall.get (target : String) : ApiCall :=
  { method := "GET", target, contentType := none, body := none }

/-- Reads what stands at a target. -/
def ApiServer.get {α : Type} (server : ApiServer) (target : String) (reader : Reader α) :
    Exchange α :=
  server.call (.get target) reader

end AdmissionRules
