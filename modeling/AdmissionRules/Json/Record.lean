import AdmissionRules.Json.Reader

set_option autoImplicit false

/-! # Records

A record is an object with known keys. A strict record has no key twice and may demand keys, and
is also written as the array of its fields. In a loose record every field may be absent or null,
and of a repeated key the last value counts. Keys that are not known are skipped in both. A mixed
record has no key twice and may demand keys too, but reads what is not known in full, and has no
form as an array. -/

namespace AdmissionRules.Json

/-- Whether a strict record may lack a field. -/
inductive Presence where
  | required
  /-- The field may be absent from an object, but not from an array. -/
  | nullable
  /-- The field may be absent from an object, and from the end of an array. -/
  | optional
deriving DecidableEq

/-- A field of a record: its key, whether it has to be there, and how its value is put into the
    record that is being built. -/
structure RecordField (σ : Type) where
  key : String
  presence : Presence
  read : σ → Reader σ

namespace RecordField

variable {α σ : Type}

/-- A field whose value is put into the record by `put`. -/
def of (presence : Presence) (key : String) (read : Reader α) (put : α → σ → σ) : RecordField σ :=
  { key, presence, read := fun record depth s => (read depth s).map (put · record) }

def required (key : String) (read : Reader α) (put : α → σ → σ) : RecordField σ :=
  of .required key read put

/-- A field that is absent from the record when it is null. -/
def loose (key : String) (read : Reader α) (put : Option α → σ → σ) : RecordField σ :=
  of .optional key (Reader.nullable read) put

/-- A field whose value has to be right but plays no part. -/
def checked (presence : Presence) (key : String) (read : Reader α) : RecordField σ :=
  of presence key read fun _ record => record

end RecordField

namespace Reader

variable {σ : Type}

/-! ## Strict records -/

/-- Puts one member into the record; the keys known so far are kept, since none may repeat. What
    is not known goes to `pass`. -/
def strictMember (pass : Nat → Source → Except Fault Unit) (fields : List (RecordField σ))
    (depth : Nat) (state : List String × σ) (key : String) (s : Source) :
    Except Fault (List String × σ) :=
  match fields.find? fun f => f.key = key with
  | none => do pass depth s; .ok state
  | some f =>
    if key ∈ state.1 then .error .mismatch
    else do
      let record ← f.read state.2 depth s
      .ok (key :: state.1, record)

/-- Puts the items of an array into the fields in their order. -/
def strictItems (depth : Nat) (closed : Bool) :
    σ → List (RecordField σ) → List Source → Except Fault σ
  | record, [], [] => if closed then .ok record else .error .malformed
  | _, [], _ :: _ => .error .malformed
  | record, f :: fields, [] =>
    if !closed then .error .malformed
    else if f.presence = .optional then strictItems depth closed record fields []
    else .error .mismatch
  | record, f :: fields, s :: rest => do
    let record ← f.read record depth s
    strictItems depth closed record fields rest

/-- A record as an object, in which no demanded key may be missing. -/
def strictObject (pass : Nat → Source → Except Fault Unit) (init : σ)
    (fields : List (RecordField σ)) : Reader σ := fun depth s => do
  let (keys, record) ← object ([], init) (strictMember pass fields) depth s
  if fields.all fun f => f.presence != .required || keys.contains f.key then .ok record
  else .error .mismatch

/-- A strict record, given what its fields are before any is read. -/
def record (init : σ) (fields : List (RecordField σ)) : Reader σ := fun depth s =>
  match s with
  | .array items closed => inside depth fun depth => strictItems depth closed init fields items
  | s => strictObject (fun _ s => skip s) init fields depth s

/-- A mixed record, given what its fields are before any is read. -/
def mixedRecord (init : σ) (fields : List (RecordField σ)) : Reader σ :=
  strictObject (fun depth s => (any depth s).map fun _ => ()) init fields

/-! ## Loose records -/

def looseMember (fields : List (RecordField σ)) (depth : Nat) (record : σ) (key : String)
    (s : Source) : Except Fault σ :=
  match fields.find? fun f => f.key = key with
  | none => do skip s; .ok record
  | some f => f.read record depth s

/-- A loose record, given what its fields are before any is read. -/
def looseRecord (init : σ) (fields : List (RecordField σ)) : Reader σ := fun depth s =>
  match s with
  | .array _ _ => inside depth fun _ => .error .mismatch
  | s => object init (looseMember fields) depth s

end Reader

end AdmissionRules.Json
