import AdmissionRules.Json

set_option autoImplicit false

/-! # Fields of objects

A path is a list of keys. A field is missing when a key of its path is, or when a value on the
way is not an object. A field that is there is read as a type; a value of another type is a
`FieldMismatch`. -/

namespace AdmissionRules

/-! ## Paths -/

/-- The parts of a text between the separators. -/
def splitChars (separator : Char) : List Char → List (List Char)
  | [] => [[]]
  | c :: rest =>
    if c = separator then [] :: splitChars separator rest
    else match splitChars separator rest with
      | part :: parts => (c :: part) :: parts
      | [] => [[c]]

/-- The keys that a dotted path names. -/
def FieldPath.ofText (field : String) : List String :=
  (splitChars '.' field.toList).map String.ofList

/-- The value at a path. -/
def Json.at? (object : Json) : List String → Option Json
  | [] => some object
  | key :: path =>
    match object.get? key with
    | some j => j.at? path
    | none => none

/-! ## Types of fields -/

/-- The name of a value's type; a number written as an integer counts as one. -/
def Json.typeName : Json → String
  | .null => "null"
  | .bool _ => "bool"
  | .number (.integer _) => "int64"
  | .number (.real _) => "float64"
  | .string _ => "string"
  | .array _ => "array"
  | .object _ => "object"

/-- The value at the end of a path has another type than expected. -/
structure FieldMismatch where
  path : List String
  value : Json
  expected : String

namespace FieldMismatch

def pathText (m : FieldMismatch) : String := "." ++ ".".intercalate m.path

def message (m : FieldMismatch) : String :=
  m.pathText ++ " accessor error: " ++ m.value.render ++ " is of the type " ++ m.value.typeName
    ++ ", expected " ++ m.expected

end FieldMismatch

namespace FieldPath

/-- The field at a path read by `read?`, or nothing if it is missing. -/
def get {α : Type} (expected : String) (read? : Json → Option α) (object : Json)
    (path : List String) : Except FieldMismatch (Option α) :=
  match object.at? path with
  | none => .ok none
  | some value =>
    match read? value with
    | some x => .ok (some x)
    | none => .error { path, value, expected }

/-- The integer of 64 bits that a number is: an integer in range, or a binary64 number that is
    whole and in range. An integer out of range is first rounded to a binary64 number. -/
def wholeInt64? (n : Json.Number) : Option Int :=
  let viaBinary64 := n.toBinary64.toInt?.filter (isSigned 64)
  match n with
  | .integer n => if isSigned 64 n then some n else viaBinary64
  | .real _ => viaBinary64

def asInt64? : Json → Option Int
  | .number n => wholeInt64? n
  | _ => none

def asFloat64? : Json → Option Binary64
  | .number n => some n.toBinary64
  | _ => none

def getString : Json → List String → Except FieldMismatch (Option String) :=
  get "string" Json.asString?

def getBool : Json → List String → Except FieldMismatch (Option Bool) := get "bool" Json.asBool?

def getInt64 : Json → List String → Except FieldMismatch (Option Int) := get "int64" asInt64?

def getFloat64 : Json → List String → Except FieldMismatch (Option Binary64) :=
  get "float64" asFloat64?

end FieldPath

end AdmissionRules
