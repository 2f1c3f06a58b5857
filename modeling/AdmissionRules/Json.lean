import AdmissionRules.Ascending
import AdmissionRules.Binary64.Layout

set_option autoImplicit false

/-! # JSON values

A value as it is looked at and printed: the members of an object stand in ascending order of
their keys, each key once, and a number is an integer or a binary64 number. The text of a value
is compact. -/

namespace AdmissionRules

/-! ## Values -/

/-- A number, as an integer when it was written as one. -/
inductive Json.Number where
  | integer (n : Int)
  | real (x : Binary64)
deriving DecidableEq, Inhabited

inductive Json where
  | null
  | bool (b : Bool)
  | number (n : Json.Number)
  | string (s : String)
  | array (items : List Json)
  | object (members : List (String × Json))
deriving Inhabited

namespace Json

/-- The nearest binary64 number. -/
def Number.toBinary64 : Number → Binary64
  | .integer n => .ofInt n
  | .real x => x

/-- An object with the given members; of members with one key the last one stays. -/
def ofMembers (members : List (String × Json)) : Json := .object (Ascending.ofList members)

/-- An object with the members that are present. -/
def ofPresent (members : List (String × Option Json)) : Json :=
  ofMembers (members.filterMap fun m => m.2.map (m.1, ·))

def ofNat (n : Nat) : Json := .number (.integer n)

def ofInt (n : Int) : Json := .number (.integer n)

/-- The member of an object under a key; other values have no members. -/
def get? (key : String) : Json → Option Json
  | .object members => Ascending.get? key members
  | _ => none

def asString? : Json → Option String
  | .string s => some s
  | _ => none

def asBool? : Json → Option Bool
  | .bool b => some b
  | _ => none

/-! ## Text -/

/-- Numbers in JSON text show a point or an exponent; the exponent is used from `10¹⁶` on and
    below `10⁻⁵`. -/
def realLayout : Binary64.Layout :=
  { lowest := some (-4), highest := some 16, wholeMark := true, plusSign := true,
    select := Binary64.shortest false }

def Number.render : Number → String
  | .integer n => toString n
  | .real x => x.render realLayout

/-- The last four hexadecimal digits of a character's code. -/
def hex4 (c : Char) : List Char :=
  let digits := Nat.toDigits 16 c.toNat
  List.replicate (4 - digits.length) '0' ++ digits

/-- One character as it stands inside a JSON string. -/
def escapedChar (c : Char) : List Char :=
  if c = '"' then ['\\', '"']
  else if c = '\\' then ['\\', '\\']
  else if c = '\x08' then ['\\', 'b']
  else if c = '\x0c' then ['\\', 'f']
  else if c = '\n' then ['\\', 'n']
  else if c = '\r' then ['\\', 'r']
  else if c = '\t' then ['\\', 't']
  else if c.toNat < 0x20 then ['\\', 'u'] ++ hex4 c
  else [c]

/-- A JSON string with its quotes. -/
def renderString (s : String) : String :=
  String.ofList ('"' :: s.toList.flatMap escapedChar ++ ['"'])

mutual

/-- The compact text of a value. -/
def render : Json → String
  | .null => "null"
  | .bool b => if b then "true" else "false"
  | .number n => n.render
  | .string s => renderString s
  | .array items => "[" ++ ",".intercalate (renderItems items) ++ "]"
  | .object members => "\x7b" ++ ",".intercalate (renderMembers members) ++ "\x7d"

def renderItems : List Json → List String
  | [] => []
  | j :: rest => render j :: renderItems rest

def renderMembers : List (String × Json) → List String
  | [] => []
  | (k, j) :: rest => (renderString k ++ ":" ++ render j) :: renderMembers rest

end

end Json

end AdmissionRules
