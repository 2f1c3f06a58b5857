set_option autoImplicit false

/-! # Types and operators of rules

The declared type of a rule says how its field is read, its operator how the field is compared
with the expected value. Several names mean the same type or comparison and are kept apart, so
that a rule is printed the way it was written; `ValueType.kind` and `Operator.comparison` tell
what they mean. -/

namespace AdmissionRules

/-! ## Value types -/

/-- The declared type of a rule. -/
inductive ValueType where
  | string
  | bool
  | int
  | int64
  | float
  | float64
deriving DecidableEq, Repr

/-- What a field is read and compared as. -/
inductive ScalarKind where
  | string
  | bool
  | integer
  | float
deriving DecidableEq, Repr

namespace ValueType

def all : List ValueType := [.string, .bool, .int, .int64, .float, .float64]

def name : ValueType → String
  | .string => "string"
  | .bool => "bool"
  | .int => "int"
  | .int64 => "int64"
  | .float => "float"
  | .float64 => "float64"

def ofName? (s : String) : Option ValueType := all.find? fun t => t.name = s

def kind : ValueType → ScalarKind
  | .string => .string
  | .bool => .bool
  | .int => .integer
  | .int64 => .integer
  | .float => .float
  | .float64 => .float

end ValueType

/-! ## Operators -/

/-- The operator of a rule as it is written. -/
inductive Operator where
  | is
  | isNot
  | isIn
  | notIn
  | greaterThan
  | moreThan
  | smallerThan
  | lessThan
  | equalOrGreaterThan
  | equalOrMoreThan
  | equalOrSmallerThan
  | equalOrLessThan
deriving DecidableEq, Repr

/-- What an operator asks of the field and the expected value. -/
inductive Comparison where
  | equal
  | notEqual
  | member
  | notMember
  | greater
  | less
  | greaterOrEqual
  | lessOrEqual
deriving DecidableEq, Repr

namespace Operator

def all : List Operator :=
  [.is, .isNot, .isIn, .notIn, .greaterThan, .moreThan, .smallerThan, .lessThan,
    .equalOrGreaterThan, .equalOrMoreThan, .equalOrSmallerThan, .equalOrLessThan]

def name : Operator → String
  | .is => "Is"
  | .isNot => "IsNot"
  | .isIn => "In"
  | .notIn => "NotIn"
  | .greaterThan => "GreaterThan"
  | .moreThan => "MoreThan"
  | .smallerThan => "SmallerThan"
  | .lessThan => "LessThan"
  | .equalOrGreaterThan => "EqualOrGreaterThan"
  | .equalOrMoreThan => "EqualOrMoreThan"
  | .equalOrSmallerThan => "EqualOrSmallerThan"
  | .equalOrLessThan => "EqualOrLessThan"

def ofName? (s : String) : Option Operator := all.find? fun o => o.name = s

def comparison : Operator → Comparison
  | .is => .equal
  | .isNot => .notEqual
  | .isIn => .member
  | .notIn => .notMember
  | .greaterThan => .greater
  | .moreThan => .greater
  | .smallerThan => .less
  | .lessThan => .less
  | .equalOrGreaterThan => .greaterOrEqual
  | .equalOrMoreThan => .greaterOrEqual
  | .equalOrSmallerThan => .lessOrEqual
  | .equalOrLessThan => .lessOrEqual

/-- Whether the operator asks for membership in a set of texts. -/
def isMembership (o : Operator) : Bool :=
  match o.comparison with
  | .member => true
  | .notMember => true
  | _ => false

/-- Whether the operator applies to values of a type: equality to all, membership to texts,
    order to numbers. -/
def supports (o : Operator) (t : ValueType) : Bool :=
  match o.comparison with
  | .equal => true
  | .notEqual => true
  | .member => t.kind == .string
  | .notMember => t.kind == .string
  | _ => t.kind == .integer || t.kind == .float

end Operator

/-! ## Comparing -/

/-- The comparisons of a type. -/
structure Comparable (α : Type) where
  eq : α → α → Bool
  lt : α → α → Bool
  le : α → α → Bool

/-- The answer of a comparison of a field with the expected value; membership is not one of
    them. -/
def Comparison.holds? {α : Type} (c : Comparable α) (actual expected : α) :
    Comparison → Option Bool
  | .equal => some (c.eq actual expected)
  | .notEqual => some !(c.eq actual expected)
  | .greater => some (c.lt expected actual)
  | .less => some (c.lt actual expected)
  | .greaterOrEqual => some (c.le expected actual)
  | .lessOrEqual => some (c.le actual expected)
  | .member => none
  | .notMember => none

end AdmissionRules
