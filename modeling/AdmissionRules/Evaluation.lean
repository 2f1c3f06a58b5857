import AdmissionRules.Rule.Basic

set_option autoImplicit false

/-! # Evaluation of rules

A rule is satisfied by an object, violated by it, or cannot be evaluated on it. A missing field
is a failure, not a violation. -/

namespace AdmissionRules

/-! ## Failures -/

/-- Why a rule cannot be evaluated. -/
inductive EvaluationError where
  | fieldNotFound (field : String) (object : Json)
  | fieldMismatch (m : FieldMismatch)
  | valueMismatch (type : ValueType) (op : Operator) (found : Shape)
  | unsupportedOperator (type : ValueType) (op : Operator)

namespace EvaluationError

/-- The name of the kind of failure. -/
def kind : EvaluationError → String
  | .fieldNotFound _ _ => "FieldNotFound"
  | .fieldMismatch _ => "FieldTypeMismatch"
  | .valueMismatch _ _ _ => "ValueTypeMismatch"
  | .unsupportedOperator _ _ => "UnsupportedOperator"

def message : EvaluationError → String
  | .fieldNotFound field object => "field not found at " ++ field ++ " into " ++ object.render
  | .fieldMismatch m => m.message
  | .valueMismatch type op found => RuleDefect.mismatchText type op found
  | .unsupportedOperator type op => RuleDefect.unsupportedText type op

end EvaluationError

/-! ## Comparing -/

def compareStrings : Comparable String :=
  { eq := fun a b => decide (a = b), lt := fun a b => decide (a < b),
    le := fun a b => !decide (b < a) }

def compareBools : Comparable Bool :=
  { eq := fun a b => a == b, lt := fun a b => !a && b, le := fun a b => !a || b }

def compareInts : Comparable Int :=
  { eq := fun a b => decide (a = b), lt := fun a b => decide (a < b),
    le := fun a b => decide (a ≤ b) }

def compareFloats : Comparable Binary64 :=
  { eq := Binary64.eqv, lt := Binary64.lt, le := Binary64.le }

namespace Rule

/-- The field of a rule, read as its type. -/
def fetch {α : Type} (r : Rule) (object : Json)
    (get : Json → List String → Except FieldMismatch (Option α)) : Except EvaluationError α :=
  match get object r.path with
  | .error m => .error (.fieldMismatch m)
  | .ok none => .error (.fieldNotFound r.field object)
  | .ok (some x) => .ok x

/-- The answer of an operator, which may not apply. -/
def answer (r : Rule) (result : Option Bool) : Except EvaluationError Bool :=
  match result with
  | some b => .ok b
  | none => .error (.unsupportedOperator r.type r.op)

/-- Compares the field with the expected value. -/
def compareField {α : Type} (r : Rule) (object : Json)
    (get : Json → List String → Except FieldMismatch (Option α)) (c : Comparable α)
    (expected : α) : Except EvaluationError Bool := do
  let actual ← r.fetch object get
  r.answer (r.op.comparison.holds? c actual expected)

/-- Looks the field up in the expected set. -/
def lookField (r : Rule) (object : Json) (expected : List String) :
    Except EvaluationError Bool := do
  let actual ← r.fetch object FieldPath.getString
  r.answer (match r.op.comparison with
    | .member => some (expected.contains actual)
    | .notMember => some !(expected.contains actual)
    | _ => none)

/-- Whether an object satisfies a rule. -/
def evaluate (r : Rule) (object : Json) : Except EvaluationError Bool :=
  if !r.op.supports r.type then .error (.unsupportedOperator r.type r.op)
  else if !r.value.matches r.type r.op then .error (.valueMismatch r.type r.op r.value.shape)
  else
    match r.type.kind, r.value with
    | .string, .strings expected => r.lookField object expected
    | .string, .string expected => r.compareField object FieldPath.getString compareStrings expected
    | .bool, .bool expected => r.compareField object FieldPath.getBool compareBools expected
    | .integer, .integer expected => r.compareField object FieldPath.getInt64 compareInts expected
    | .float, .float expected => r.compareField object FieldPath.getFloat64 compareFloats expected
    | _, value => .error (.valueMismatch r.type r.op value.shape)

end Rule

end AdmissionRules
