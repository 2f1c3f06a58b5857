import AdmissionRules.Json.Source

set_option autoImplicit false

/-! # Readers of JSON text

A reader takes the source of a value to a value of its own type. It walks the source in the
order of the text and reports the first thing that is wrong: a fault of the text itself, or a
value of another form than the one read. Arrays and objects nest at most `maxDepth` deep where
they are read; what is skipped only has to be JSON. -/

namespace AdmissionRules.Json

/-! ## Faults -/

inductive Fault where
  /-- The text is not JSON, or a numeral, an escape or the nesting is out of bounds. -/
  | malformed
  /-- The text is JSON of another form. -/
  | mismatch
deriving DecidableEq, Repr

/-- Reads the source of a value that lies inside the given number of arrays and objects. -/
abbrev Reader (α : Type) := Nat → Source → Except Fault α

/-- Arrays and objects nest at most this deep. -/
def maxDepth : Nat := 127

namespace Reader

variable {α β σ : Type}

/-- The fault of a value that is not of the form wanted; a scalar that has no value at all is a
    fault of the text. -/
def unwanted : Source → Fault
  | .broken => .malformed
  | .number n => if n.value?.isSome then .mismatch else .malformed
  | .string s => if s.isSome then .mismatch else .malformed
  | _ => .mismatch

/-! ## Scalars -/

def string : Reader String := fun _ s =>
  match s with
  | .string (some s) => .ok s
  | s => .error (unwanted s)

def bool : Reader Bool := fun _ s =>
  match s with
  | .bool b => .ok b
  | s => .error (unwanted s)

/-- An integer in the range that `fits` tells. -/
def integer (fits : Int → Bool) : Reader Int := fun _ s =>
  match s with
  | .number n =>
    match n.value? with
    | some (.integer n) => if fits n then .ok n else .error .mismatch
    | some (.real _) => .error .mismatch
    | none => .error .malformed
  | s => .error (unwanted s)

def int64 : Reader Int := integer (isSigned 64)

/-! ## Containers -/

/-- Null, or a value that `read` reads. -/
def nullable (read : Reader α) : Reader (Option α) := fun depth s =>
  match s with
  | .null => .ok none
  | s => (read depth s).map some

/-- The reading of something inside an array or object, which must not be too deep. -/
def inside (depth : Nat) (read : Nat → Except Fault α) : Except Fault α :=
  if depth < maxDepth then read (depth + 1) else .error .malformed

def listItems (read : Reader α) (depth : Nat) (closed : Bool) :
    List Source → Except Fault (List α)
  | [] => if closed then .ok [] else .error .malformed
  | s :: rest => do
    let x ← read depth s
    let xs ← listItems read depth closed rest
    .ok (x :: xs)

def list (read : Reader α) : Reader (List α) := fun depth s =>
  match s with
  | .array items closed => inside depth fun depth => listItems read depth closed items
  | s => .error (unwanted s)

/-- Handles the members of an object in the order written. -/
def foldMembers (step : σ → String → Source → Except Fault σ) (closed : Bool) :
    σ → List (StringText × Source) → Except Fault σ
  | state, [] => if closed then .ok state else .error .malformed
  | _, (none, _) :: _ => .error .malformed
  | state, (some key, s) :: rest => do
    let state ← step state key s
    foldMembers step closed state rest

/-- An object, its members handled in the order written; `step` gets the depth of the members. -/
def object (init : σ) (step : Nat → σ → String → Source → Except Fault σ) : Reader σ :=
  fun depth s =>
    match s with
    | .object members closed =>
      inside depth fun depth => foldMembers (step depth) closed init members
    | .unkeyed _ => .error .malformed
    | s => .error (unwanted s)

/-- What an object holds that is written in place of a name: the name as its only key, and null
    under it. -/
def nameObject (names : List String) (closed : Bool) :
    List (StringText × Source) → Except Fault String
  | (some s, content) :: rest =>
    if s ∈ names then
      match content, rest with
      | .null, [] => if closed then .ok s else .error .malformed
      | .null, _ :: _ => .error .malformed
      | content, _ => .error (unwanted content)
    else .error .mismatch
  | _ => .error .malformed

/-- One of the given names, which may also be written as an object. Other forms are faults of the
    text. -/
def name (names : List String) : Reader String := fun depth s =>
  match s with
  | .string (some s) => if s ∈ names then .ok s else .error .mismatch
  | .object members closed => inside depth fun _ => nameObject names closed members
  | .unkeyed s => inside depth fun _ => .error (unwanted s)
  | _ => .error .malformed

/-- A value that is not looked at. -/
def skip (s : Source) : Except Fault Unit :=
  if s.intact then .ok () else .error .malformed

/-- A map; of members with one key the last one stays. -/
def map (read : Reader α) : Reader (List (String × α)) :=
  object [] fun depth entries key s => do
    let value ← read depth s
    .ok (Ascending.insert key value entries)

mutual

/-- Any value at all. -/
def any : Nat → Source → Except Fault Json
  | _, .null => .ok .null
  | _, .bool b => .ok (.bool b)
  | _, .number n =>
    match n.value? with
    | some n => .ok (.number n)
    | none => .error .malformed
  | _, .string s =>
    match s with
    | some s => .ok (.string s)
    | none => .error .malformed
  | depth, .array items closed =>
    if depth < maxDepth then do
      let items ← anyItems (depth + 1) items
      if closed then .ok (.array items) else .error .malformed
    else .error .malformed
  | depth, .object members closed =>
    if depth < maxDepth then do
      let members ← anyMembers (depth + 1) members
      if closed then .ok (.ofMembers members) else .error .malformed
    else .error .malformed
  | _, .unkeyed _ => .error .malformed
  | _, .broken => .error .malformed

def anyItems : Nat → List Source → Except Fault (List Json)
  | _, [] => .ok []
  | depth, s :: rest => do
    let j ← any depth s
    let js ← anyItems depth rest
    .ok (j :: js)

def anyMembers : Nat → List (StringText × Source) → Except Fault (List (String × Json))
  | _, [] => .ok []
  | _, (none, _) :: _ => .error .malformed
  | depth, (some key, s) :: rest => do
    let j ← any depth s
    let ms ← anyMembers depth rest
    .ok ((key, j) :: ms)

end

/-! ## Whole texts -/

/-- Reads a text that holds one value. -/
def run (read : Reader α) (text : String) : Except Fault α := do
  let (source, ended) := Source.ofText text
  let x ← read 0 source
  if ended then .ok x else .error .malformed

end Reader

/-- The value of a JSON text. -/
def parse (text : String) : Except Fault Json := Reader.run Reader.any text

end AdmissionRules.Json
