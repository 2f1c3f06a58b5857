import AdmissionRules.Rule.Operator
import AdmissionRules.Text.Quoted
import AdmissionRules.Yaml.Value

set_option autoImplicit false

/-! # Expected values of rules

The expected value of a rule is a text, a set of texts, a truth value, an integer or a number.
`RuleValue.matches` says which of these a type and an operator call for, `RuleValue.ofYaml`
converts a YAML value to it: an integer is widened where a number is wanted, and nothing else is
converted. -/

namespace AdmissionRules

/-! ## Shapes -/

/-- The shape of a value, as it is named in messages. -/
inductive Shape where
  | null
  | bool
  | int
  | float
  | string
  | strings
  | sequence
  | mapping
  | tagged
deriving DecidableEq, Repr

def Shape.name : Shape → String
  | .null => "null"
  | .bool => "bool"
  | .int => "int"
  | .float => "float"
  | .string => "string"
  | .strings => "[]string"
  | .sequence => "sequence"
  | .mapping => "mapping"
  | .tagged => "tagged value"

/-- The shape of a YAML value itself, tags included. -/
def Yaml.Value.shape : Yaml.Value → Shape
  | .null => .null
  | .bool _ => .bool
  | .integer _ => .int
  | .real _ => .float
  | .string _ => .string
  | .sequence _ => .sequence
  | .mapping _ => .mapping
  | .tagged _ _ => .tagged

/-! ## Values -/

inductive RuleValue where
  | string (s : String)
  | strings (items : List String)
  | bool (b : Bool)
  | integer (n : Int)
  | float (x : Binary64)
deriving DecidableEq

/-- A rule that is not consistent in itself. -/
inductive RuleDefect where
  | emptyField
  | emptyPathSegment (field : String)
  | unsupportedOperator (type : ValueType) (op : Operator)
  | valueMismatch (type : ValueType) (op : Operator) (found : Shape)
deriving DecidableEq

namespace RuleDefect

/-- The text of a defect that concerns an operator and a type. -/
def unsupportedText (type : ValueType) (op : Operator) : String :=
  "operator " ++ op.name ++ " is not supported for type " ++ type.name

def mismatchText (type : ValueType) (op : Operator) (found : Shape) : String :=
  "value (of type " ++ found.name ++ ") in rule is not of type " ++ type.name
    ++ " with operator " ++ op.name

def message : RuleDefect → String
  | .emptyField => "rule field path must not be empty"
  | .emptyPathSegment field =>
    "rule field path " ++ Text.quoted field ++ " contains an empty segment"
  | .unsupportedOperator type op => unsupportedText type op
  | .valueMismatch type op found => mismatchText type op found

end RuleDefect

namespace RuleValue

def shape : RuleValue → Shape
  | .string _ => .string
  | .strings _ => .strings
  | .bool _ => .bool
  | .integer _ => .int
  | .float _ => .float

/-- Whether the value is the one that a type and an operator call for. -/
def «matches» (v : RuleValue) (t : ValueType) (o : Operator) : Bool :=
  match t.kind, v with
  | .string, .strings _ => o.isMembership
  | .string, .string _ => !o.isMembership
  | .bool, .bool _ => true
  | .integer, .integer _ => true
  | .float, .float _ => true
  | _, _ => false

/-! ## Text -/

/-- Numbers of rules are written without an exponent and without a point when whole. -/
def floatLayout : Binary64.Layout :=
  { lowest := none, highest := none, wholeMark := false, plusSign := false,
    select := Binary64.shortest true }

def text : RuleValue → String
  | .string s => Text.quoted s
  | .strings items => Text.quotedList items
  | .bool b => if b then "true" else "false"
  | .integer n => toString n
  | .float x => x.render floatLayout

/-! ## Conversion -/

/-- The text of a YAML value, under its tags. -/
def string? (v : Yaml.Value) : Option String :=
  match v.untagged with
  | .string s => some s
  | _ => none

def strings? (v : Yaml.Value) : Option (List String) :=
  match v.untagged with
  | .sequence items => items.mapM string?
  | _ => none

def bool? (v : Yaml.Value) : Option Bool :=
  match v.untagged with
  | .bool b => some b
  | _ => none

def integer? (v : Yaml.Value) : Option Int :=
  match v.untagged with
  | .integer n => if isSigned 64 n then some n else none
  | _ => none

def float? (v : Yaml.Value) : Option Binary64 :=
  match v.untagged with
  | .integer n => some (.ofInt n)
  | .real x => some x
  | _ => none

/-- The value that a type and an operator call for, if the YAML value is one. -/
def ofYaml? (t : ValueType) (o : Operator) (v : Yaml.Value) : Option RuleValue :=
  match t.kind with
  | .string => if o.isMembership then (strings? v).map .strings else (string? v).map .string
  | .bool => (bool? v).map .bool
  | .integer => (integer? v).map .integer
  | .float => (float? v).map .float

def ofYaml (t : ValueType) (o : Operator) (v : Yaml.Value) : Except RuleDefect RuleValue :=
  match ofYaml? t o v with
  | some x => .ok x
  | none => .error (.valueMismatch t o v.shape)

end RuleValue

end AdmissionRules
