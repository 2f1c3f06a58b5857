import AdmissionRules.FieldPath
import AdmissionRules.Rule.Value

set_option autoImplicit false

/-! # Rules

A rule compares one field of an object with an expected value. `Rule.make` builds a rule and
reports the first defect, in the order field, operator, value. -/

namespace AdmissionRules

structure Rule where
  field : String
  type : ValueType
  op : Operator
  value : RuleValue
deriving DecidableEq

namespace Rule

/-- The keys of the field's path. -/
def path (r : Rule) : List String := FieldPath.ofText r.field

/-- The first defect of a rule. -/
def defect? (r : Rule) : Option RuleDefect :=
  if r.field.isEmpty then some .emptyField
  else if r.path.any String.isEmpty then some (.emptyPathSegment r.field)
  else if !r.op.supports r.type then some (.unsupportedOperator r.type r.op)
  else if !r.value.matches r.type r.op then some (.valueMismatch r.type r.op r.value.shape)
  else none

/-- A rule without defects. -/
def make (field : String) (type : ValueType) (op : Operator) (value : RuleValue) :
    Except RuleDefect Rule :=
  let r : Rule := { field, type, op, value }
  match r.defect? with
  | some d => .error d
  | none => .ok r

/-- The text of a rule, as it is shown in messages. -/
def text (r : Rule) : String :=
  "\x7bfield: " ++ r.field ++ ", type: " ++ r.type.name ++ ", op: " ++ r.op.name
    ++ ", value: " ++ r.value.text ++ "\x7d"

end Rule

end AdmissionRules
