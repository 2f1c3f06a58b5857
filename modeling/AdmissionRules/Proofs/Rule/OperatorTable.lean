import AdmissionRules.Evaluation
import AdmissionRules.Proofs.FieldPath.Walk
import AdmissionRules.Proofs.Rule.WellFormed

set_option autoImplicit false

/-! # The table of operators

What comes of a rule on an object, told without a way to find it out: which operators go with which
kinds of values, what a field is read as, and what each operator says of the value of a field and
the expected one (`Operator.Holds`). `Rule.Outcome` puts these together, one case for each way in
which an evaluation ends and in the order in which the ends come. The main statement
(`Rule.evaluate_table`) says that evaluation comes to exactly this outcome for every rule and every
object, also for rules that were never checked, and that nothing beyond these cases is ever
reached. Evaluating a well-formed rule fails on account of the object's field only
(`evaluate_fromField`). -/

namespace AdmissionRules

/-! ## Operators -/

/-- The operators that go with a kind of values. -/
def ScalarKind.operators : ScalarKind → List Operator
  | .string => [.is, .isNot, .isIn, .notIn]
  | .bool => [.is, .isNot]
  | .integer | .float =>
    [.is, .isNot, .greaterThan, .moreThan, .smallerThan, .lessThan, .equalOrGreaterThan,
      .equalOrMoreThan, .equalOrSmallerThan, .equalOrLessThan]

theorem Operator.supports_iff (o : Operator) (t : ValueType) :
    o.supports t = true ↔ o ∈ t.kind.operators := by
  cases o <;> cases t <;> decide

/-- All operators but those that ask for membership go with integers. -/
theorem Operator.mem_integer_operators {o : Operator} (h : o.isMembership = false) :
    o ∈ ScalarKind.integer.operators := by
  cases o <;> first | decide | cases h

theorem Operator.mem_float_operators {o : Operator} (h : o.isMembership = false) :
    o ∈ ScalarKind.float.operators :=
  mem_integer_operators h

/-! ## Fields -/

/-- What a field is read as. -/
inductive FieldValue where
  | string (s : String)
  | bool (b : Bool)
  | integer (n : Int)
  | float (x : Binary64)

/-- The value is of a kind, and is read as this: a number as an integer if it is one of 64 bits, and
    any number as a binary64 number. -/
inductive Json.ReadsAs : Json → ScalarKind → FieldValue → Prop where
  | string (s : String) : ReadsAs (.string s) .string (.string s)
  | bool (b : Bool) : ReadsAs (.bool b) .bool (.bool b)
  | integer (n : Json.Number) (k : Int) (h : FieldPath.wholeInt64? n = some k) :
      ReadsAs (.number n) .integer (.integer k)
  | float (n : Json.Number) : ReadsAs (.number n) .float (.float n.toBinary64)

/-- The name of a kind of values where a field is expected to be of it. -/
def ScalarKind.fieldName : ScalarKind → String
  | .string => "string"
  | .bool => "bool"
  | .integer => "int64"
  | .float => "float64"

theorem Json.readsAs_string_iff (value : Json) (x : FieldValue) :
    value.ReadsAs .string x ↔ ∃ s, value.asString? = some s ∧ x = .string s := by
  constructor
  · rintro ⟨⟩
    exact ⟨_, rfl, rfl⟩
  · rintro ⟨s, h, rfl⟩
    cases value <;> cases h
    exact .string s

theorem Json.readsAs_bool_iff (value : Json) (x : FieldValue) :
    value.ReadsAs .bool x ↔ ∃ b, value.asBool? = some b ∧ x = .bool b := by
  constructor
  · rintro ⟨⟩
    exact ⟨_, rfl, rfl⟩
  · rintro ⟨b, h, rfl⟩
    cases value <;> cases h
    exact .bool b

theorem Json.readsAs_integer_iff (value : Json) (x : FieldValue) :
    value.ReadsAs .integer x ↔ ∃ k, FieldPath.asInt64? value = some k ∧ x = .integer k := by
  constructor
  · rintro ⟨⟩
    exact ⟨_, ‹_›, rfl⟩
  · rintro ⟨k, h, rfl⟩
    cases value with
    | number n => exact .integer n k h
    | _ => cases h

theorem Json.readsAs_float_iff (value : Json) (x : FieldValue) :
    value.ReadsAs .float x ↔ ∃ y, FieldPath.asFloat64? value = some y ∧ x = .float y := by
  constructor
  · rintro ⟨⟩
    exact ⟨_, rfl, rfl⟩
  · rintro ⟨y, h, rfl⟩
    cases value <;> cases h
    exact .float _

/-! ## Answers -/

/-- What an operator says of the value of a field and the expected value. -/
def Operator.Holds (o : Operator) : FieldValue → RuleValue → Prop
  | .string s, .strings items =>
    match o with
    | .isIn => s ∈ items
    | .notIn => s ∉ items
    | _ => False
  | .string s, .string t =>
    match o with
    | .is => s = t
    | .isNot => s ≠ t
    | _ => False
  | .bool a, .bool b =>
    match o with
    | .is => a = b
    | .isNot => a ≠ b
    | _ => False
  | .integer m, .integer n =>
    match o with
    | .is => m = n
    | .isNot => m ≠ n
    | .greaterThan | .moreThan => m > n
    | .smallerThan | .lessThan => m < n
    | .equalOrGreaterThan | .equalOrMoreThan => m ≥ n
    | .equalOrSmallerThan | .equalOrLessThan => m ≤ n
    | .isIn | .notIn => False
  | .float x, .float y =>
    match o with
    | .is => x.eqv y = true
    | .isNot => ¬ x.eqv y = true
    | .greaterThan | .moreThan => y.lt x = true
    | .smallerThan | .lessThan => x.lt y = true
    | .equalOrGreaterThan | .equalOrMoreThan => y.le x = true
    | .equalOrSmallerThan | .equalOrLessThan => x.le y = true
    | .isIn | .notIn => False
  | _, _ => False

namespace Operator

/-- A result says whether the operator holds. -/
def Decides (o : Operator) (x : FieldValue) (expected : RuleValue) (result : Option Bool) : Prop :=
  ∃ b, result = some b ∧ (b = true ↔ o.Holds x expected)

theorem decides_some (o : Operator) (x : FieldValue) (expected : RuleValue) (b : Bool) :
    o.Decides x expected (some b) ↔ (b = true ↔ o.Holds x expected) := by
  simp only [Decides, Option.some.injEq, exists_eq_left']

/-- The result of looking a text up in a set. -/
def lookResult (o : Operator) (items : List String) (s : String) : Option Bool :=
  match o.comparison with
  | .member => some (items.contains s)
  | .notMember => some !(items.contains s)
  | _ => none

variable {o : Operator}

theorem lookResult_decides (hmember : o.isMembership = true) (items : List String) (s : String) :
    o.Decides (.string s) (.strings items) (o.lookResult items s) := by
  cases o with
  | isIn => simp [lookResult, comparison, decides_some, Holds]
  | notIn => simp [lookResult, comparison, decides_some, Holds]
  | _ => exact absurd hmember (by decide)

theorem compareStrings_decides (hop : o ∈ ScalarKind.string.operators)
    (hmember : o.isMembership = false) (s t : String) :
    o.Decides (.string s) (.string t) (o.comparison.holds? compareStrings s t) := by
  cases o with
  | is => simp [comparison, Comparison.holds?, decides_some, Holds, compareStrings]
  | isNot => simp [comparison, Comparison.holds?, decides_some, Holds, compareStrings]
  | isIn => exact absurd hmember (by decide)
  | notIn => exact absurd hmember (by decide)
  | _ => exact absurd hop (by decide)

theorem compareBools_decides (hop : o ∈ ScalarKind.bool.operators) (a b : Bool) :
    o.Decides (.bool a) (.bool b) (o.comparison.holds? compareBools a b) := by
  cases o with
  | is => simp [comparison, Comparison.holds?, decides_some, Holds, compareBools]
  | isNot => simp [comparison, Comparison.holds?, decides_some, Holds, compareBools]
  | _ => exact absurd hop (by decide)

theorem compareInts_decides (hop : o ∈ ScalarKind.integer.operators) (m n : Int) :
    o.Decides (.integer m) (.integer n) (o.comparison.holds? compareInts m n) := by
  cases o with
  | isIn => exact absurd hop (by decide)
  | notIn => exact absurd hop (by decide)
  | _ => simp [comparison, Comparison.holds?, decides_some, Holds, compareInts]

theorem compareFloats_decides (hop : o ∈ ScalarKind.float.operators) (x y : Binary64) :
    o.Decides (.float x) (.float y) (o.comparison.holds? compareFloats x y) := by
  cases o with
  | isIn => exact absurd hop (by decide)
  | notIn => exact absurd hop (by decide)
  | _ => simp [comparison, Comparison.holds?, decides_some, Holds, compareFloats]

end Operator

namespace Rule

/-! ## Evaluation with other answers

Evaluation answers also where an operator has no answer for the values at hand, and where the kind
and the value of a rule do not go together. `evaluateOr` has the answers for these places as
parameters; that it does not depend on them says that the places are never reached. -/

/-- Evaluation with the given answers where there is no result, and where kind and value do not go
    together. -/
def evaluateOr (r : Rule) (object : Json) (unanswered : Except EvaluationError Bool)
    (unpaired : RuleValue → Except EvaluationError Bool) : Except EvaluationError Bool :=
  if !r.op.supports r.type then .error (.unsupportedOperator r.type r.op)
  else if !r.value.matches r.type r.op then .error (.valueMismatch r.type r.op r.value.shape)
  else
    match r.type.kind, r.value with
    | .string, .strings expected => do
      let s ← r.fetch object FieldPath.getString
      (r.op.lookResult expected s).elim unanswered .ok
    | .string, .string expected => do
      let s ← r.fetch object FieldPath.getString
      (r.op.comparison.holds? compareStrings s expected).elim unanswered .ok
    | .bool, .bool expected => do
      let b ← r.fetch object FieldPath.getBool
      (r.op.comparison.holds? compareBools b expected).elim unanswered .ok
    | .integer, .integer expected => do
      let n ← r.fetch object FieldPath.getInt64
      (r.op.comparison.holds? compareInts n expected).elim unanswered .ok
    | .float, .float expected => do
      let x ← r.fetch object FieldPath.getFloat64
      (r.op.comparison.holds? compareFloats x expected).elim unanswered .ok
    | _, value => unpaired value

theorem answer_eq (r : Rule) (result : Option Bool) :
    r.answer result = result.elim (.error (.unsupportedOperator r.type r.op)) .ok := by
  cases result <;> rfl

/-- Evaluation gives the answers that the checks before would have given. -/
theorem evaluate_eq_evaluateOr (r : Rule) (object : Json) :
    r.evaluate object =
      r.evaluateOr object (.error (.unsupportedOperator r.type r.op))
        fun value => .error (.valueMismatch r.type r.op value.shape) := by
  simp only [evaluateOr, ← answer_eq]
  rfl

/-- A rule that passes the checks reads its field in one way and answers about what it reads. -/
theorem exists_reading {r : Rule} (hop : r.op ∈ r.type.kind.operators)
    (hvalue : r.value.Suits r.type r.op) :
    ∃ (α : Type) (read? : Json → Option α) (wrap : α → FieldValue) (result : α → Option Bool),
      (∀ value x, value.ReadsAs r.type.kind x ↔ ∃ a, read? value = some a ∧ x = wrap a) ∧
      (∀ a, r.op.Decides (wrap a) r.value (result a)) ∧
      ∀ object unanswered unpaired, r.evaluateOr object unanswered unpaired =
        r.fetch object (FieldPath.get r.type.kind.fieldName read?) >>= fun a =>
          (result a).elim unanswered .ok := by
  have hsupports := (r.op.supports_iff r.type).2 hop
  have hmatches := (r.value.matches_iff_suits r.type r.op).2 hvalue
  simp only [evaluateOr, hsupports, hmatches, Bool.not_true, Bool.false_eq_true, if_false]
  generalize r.value = value at hvalue
  -- on the form of the value, which tells the type that is read
  cases hvalue with
  | strings items hkind h =>
      rw [hkind] at hop ⊢
      exact ⟨String, Json.asString?, .string, r.op.lookResult items, Json.readsAs_string_iff,
        Operator.lookResult_decides h items, fun _ _ _ => rfl⟩
  | string s hkind h =>
      rw [hkind] at hop ⊢
      exact ⟨String, Json.asString?, .string, _, Json.readsAs_string_iff,
        fun t => Operator.compareStrings_decides hop h t s, fun _ _ _ => rfl⟩
  | bool b hkind =>
      rw [hkind] at hop ⊢
      exact ⟨Bool, Json.asBool?, .bool, _, Json.readsAs_bool_iff,
        fun a => Operator.compareBools_decides hop a b, fun _ _ _ => rfl⟩
  | integer n hkind =>
      rw [hkind] at hop ⊢
      exact ⟨Int, FieldPath.asInt64?, .integer, _, Json.readsAs_integer_iff,
        fun m => Operator.compareInts_decides hop m n, fun _ _ _ => rfl⟩
  | float x hkind =>
      rw [hkind] at hop ⊢
      exact ⟨Binary64, FieldPath.asFloat64?, .float, _, Json.readsAs_float_iff,
        fun y => Operator.compareFloats_decides hop y x, fun _ _ _ => rfl⟩

section Checks

variable {r : Rule} (object : Json) (unanswered : Except EvaluationError Bool)
  (unpaired : RuleValue → Except EvaluationError Bool)

theorem evaluateOr_of_unsupported (hop : r.op ∉ r.type.kind.operators) :
    r.evaluateOr object unanswered unpaired = .error (.unsupportedOperator r.type r.op) := by
  have hsupports : r.op.supports r.type = false := by
    rwa [← r.op.supports_iff, Bool.not_eq_true] at hop
  simp only [evaluateOr, hsupports, Bool.not_false, if_true]

theorem evaluateOr_of_unsuited (hop : r.op ∈ r.type.kind.operators)
    (hvalue : ¬ r.value.Suits r.type r.op) :
    r.evaluateOr object unanswered unpaired =
      .error (.valueMismatch r.type r.op r.value.shape) := by
  have hsupports := (r.op.supports_iff r.type).2 hop
  have hmatches : r.value.matches r.type r.op = false := by
    rwa [← r.value.matches_iff_suits, Bool.not_eq_true] at hvalue
  simp only [evaluateOr, hsupports, hmatches, Bool.not_true, Bool.not_false, Bool.false_eq_true,
    if_false, if_true]

/-- What the places are answered with plays no part. -/
theorem evaluateOr_eq_evaluate : r.evaluateOr object unanswered unpaired = r.evaluate object := by
  rw [evaluate_eq_evaluateOr]
  by_cases hop : r.op ∈ r.type.kind.operators
  · by_cases hvalue : r.value.Suits r.type r.op
    · obtain ⟨α, read?, wrap, result, -, hdecides, heval⟩ := exists_reading hop hvalue
      rw [heval, heval]
      congr 1
      funext a
      obtain ⟨b, hb, -⟩ := hdecides a
      rw [hb]
      rfl
    · rw [evaluateOr_of_unsuited _ _ _ hop hvalue, evaluateOr_of_unsuited _ _ _ hop hvalue]
  · rw [evaluateOr_of_unsupported _ _ _ hop, evaluateOr_of_unsupported _ _ _ hop]

end Checks

/-! ## Outcomes -/

/-- What comes of a rule on an object. The operator does not go with the type; or the value does not
    suit both; or the walk along the path breaks off; or the value that it leads to is not of the
    type; or the operator holds or does not hold of the two values. -/
inductive Outcome (r : Rule) (object : Json) : Except EvaluationError Bool → Prop where
  | unsupported (hop : r.op ∉ r.type.kind.operators) :
      Outcome r object (.error (.unsupportedOperator r.type r.op))
  | unsuited (hop : r.op ∈ r.type.kind.operators) (hvalue : ¬ r.value.Suits r.type r.op) :
      Outcome r object (.error (.valueMismatch r.type r.op r.value.shape))
  | missing (hop : r.op ∈ r.type.kind.operators) (hvalue : r.value.Suits r.type r.op)
      (h : object.BreaksOff r.path) : Outcome r object (.error (.fieldNotFound r.field object))
  | mistyped (hop : r.op ∈ r.type.kind.operators) (hvalue : r.value.Suits r.type r.op)
      (value : Json) (h : object.Leads r.path value)
      (hread : ∀ x, ¬ value.ReadsAs r.type.kind x) :
      Outcome r object
        (.error (.fieldMismatch { path := r.path, value, expected := r.type.kind.fieldName }))
  | answer (hop : r.op ∈ r.type.kind.operators) (hvalue : r.value.Suits r.type r.op)
      (value : Json) (h : object.Leads r.path value) (x : FieldValue)
      (hread : value.ReadsAs r.type.kind x) (b : Bool) (hb : b = true ↔ r.op.Holds x r.value) :
      Outcome r object (.ok b)

variable {r : Rule} {object : Json} {result : Except EvaluationError Bool}

theorem exists_outcome (r : Rule) (object : Json) : ∃ result, r.Outcome object result := by
  by_cases hop : r.op ∈ r.type.kind.operators
  · by_cases hvalue : r.value.Suits r.type r.op
    · rcases object.leads_or_breaksOff r.path with ⟨value, hlead⟩ | hbreaks
      · by_cases hread : ∃ x, value.ReadsAs r.type.kind x
        · obtain ⟨x, hx⟩ := hread
          classical
          exact ⟨_, .answer hop hvalue value hlead x hx (decide (r.op.Holds x r.value))
            decide_eq_true_iff⟩
        · exact ⟨_, .mistyped hop hvalue value hlead fun x hx => hread ⟨x, hx⟩⟩
      · exact ⟨_, .missing hop hvalue hbreaks⟩
    · exact ⟨_, .unsuited hop hvalue⟩
  · exact ⟨_, .unsupported hop⟩

theorem fetch_of_breaksOff {α : Type} (h : object.BreaksOff r.path) (expected : String)
    (read? : Json → Option α) :
    r.fetch object (FieldPath.get expected read?) = .error (.fieldNotFound r.field object) := by
  simp only [fetch, FieldPath.get, h.at?]

theorem fetch_of_leads {α : Type} {value : Json} (h : object.Leads r.path value)
    (expected : String) (read? : Json → Option α) :
    r.fetch object (FieldPath.get expected read?) =
      match read? value with
      | some a => .ok a
      | none => .error (.fieldMismatch { path := r.path, value, expected }) := by
  simp only [fetch, FieldPath.get, h.at?]
  cases read? value <;> rfl

/-- Evaluation comes to the outcome. -/
theorem evaluate_of_outcome (h : r.Outcome object result) : r.evaluate object = result := by
  rw [evaluate_eq_evaluateOr]
  cases h with
  | unsupported hop => exact evaluateOr_of_unsupported _ _ _ hop
  | unsuited hop hvalue => exact evaluateOr_of_unsuited _ _ _ hop hvalue
  | missing hop hvalue h =>
      obtain ⟨α, read?, wrap, result, -, -, heval⟩ := exists_reading hop hvalue
      rw [heval, fetch_of_breaksOff h]
      rfl
  | mistyped hop hvalue value h hread =>
      obtain ⟨α, read?, wrap, result, hreads, -, heval⟩ := exists_reading hop hvalue
      have hnone : read? value = none := by
        rw [Option.eq_none_iff_forall_ne_some]
        intro a ha
        exact hread (wrap a) ((hreads value _).2 ⟨a, ha, rfl⟩)
      rw [heval, fetch_of_leads h, hnone]
      rfl
  | answer hop hvalue value h x hread b hb =>
      obtain ⟨α, read?, wrap, result, hreads, hdecides, heval⟩ := exists_reading hop hvalue
      obtain ⟨a, ha, rfl⟩ := (hreads value x).1 hread
      obtain ⟨b', hresult, hb'⟩ := hdecides a
      -- `b` and `b'` answer one question, the former by the table and the latter by the program
      have hbool : b = b' := by rw [Bool.eq_iff_iff, hb, hb']
      rw [heval, fetch_of_leads h, ha, hbool]
      show (result a).elim _ _ = _
      rw [hresult]
      rfl

theorem evaluate_eq_iff (r : Rule) (object : Json) (result : Except EvaluationError Bool) :
    r.evaluate object = result ↔ r.Outcome object result := by
  refine ⟨?_, evaluate_of_outcome⟩
  rintro rfl
  obtain ⟨result, h⟩ := r.exists_outcome object
  rw [evaluate_of_outcome h]
  exact h

/-- A rule answers about a field that can be read as its type. -/
theorem exists_answer {value : Json} {x : FieldValue} (hop : r.op ∈ r.type.kind.operators)
    (hvalue : r.value.Suits r.type r.op) (hat : object.at? r.path = some value)
    (hread : value.ReadsAs r.type.kind x) :
    ∃ b, r.evaluate object = .ok b ∧ (b = true ↔ r.op.Holds x r.value) := by
  classical
  have hlead := (object.at?_eq_some_iff value r.path).1 hat
  exact ⟨decide (r.op.Holds x r.value), (r.evaluate_eq_iff object _).2
    (.answer hop hvalue value hlead x hread _ decide_eq_true_iff), decide_eq_true_iff⟩

/-- A mismatch is about what the path of the rule leads to. -/
theorem mismatch_of_evaluate {m : FieldMismatch}
    (h : r.evaluate object = .error (.fieldMismatch m)) :
    m.path = r.path ∧ object.Leads r.path m.value ∧ m.expected = r.type.kind.fieldName := by
  cases (r.evaluate_eq_iff object _).1 h with
  | mistyped _ _ value hlead _ => exact ⟨rfl, hlead, rfl⟩

/-! ## Well-formed rules -/

/-- The results that the field of an object decides: an answer, or a failure to read the
    field. -/
inductive FromField (r : Rule) (object : Json) : Except EvaluationError Bool → Prop where
  | answer (b : Bool) : FromField r object (.ok b)
  | missing : FromField r object (.error (.fieldNotFound r.field object))
  | mismatch (m : FieldMismatch) : FromField r object (.error (.fieldMismatch m))

theorem FromField.ne_unsupportedOperator (h : r.FromField object result) (type : ValueType)
    (op : Operator) : result ≠ .error (.unsupportedOperator type op) := by
  cases h <;> simp

theorem FromField.ne_valueMismatch (h : r.FromField object result) (type : ValueType)
    (op : Operator) (found : Shape) : result ≠ .error (.valueMismatch type op found) := by
  cases h <;> simp

/-- **Evaluating a well-formed rule**: whatever the object, only its field decides. -/
theorem evaluate_fromField (hr : r.WellFormed) (object : Json) :
    r.FromField object (r.evaluate object) := by
  have hop := (r.op.supports_iff r.type).1 hr.operator
  have houtcome := (r.evaluate_eq_iff object _).1 rfl
  generalize r.evaluate object = result at houtcome ⊢
  cases houtcome with
  | unsupported hnot => exact absurd hop hnot
  | unsuited _ hnot => exact absurd hr.value hnot
  | missing => exact .missing
  | mistyped => exact .mismatch _
  | answer _ _ _ _ _ _ b _ => exact .answer b

/-! ## The table -/

/-- **Evaluation follows the table of operators**, for every rule, checked or not, and every
    object. It comes to a result if and only if this is the outcome. The keys of the path are the
    parts of the rule's field between its dots. A mismatch is told with a dot before the field, the
    text and the type of the value that the field leads to, and the expected type. The answers for
    an operator that has no result, and for a kind and a value that do not go together, are never
    given: they can be replaced by any others. -/
theorem evaluate_table (r : Rule) (object : Json) :
    (∀ result, r.evaluate object = result ↔ r.Outcome object result) ∧
    (".".intercalate r.path = r.field ∧ ∀ key ∈ r.path, '.' ∉ key.toList) ∧
    (∀ m, r.evaluate object = .error (.fieldMismatch m) →
      m.pathText = "." ++ r.field ∧
      object.Leads r.path m.value ∧
      m.expected = r.type.kind.fieldName ∧
      (EvaluationError.fieldMismatch m).message =
        "." ++ r.field ++ " accessor error: " ++ m.value.render ++ " is of the type "
          ++ m.value.typeName ++ ", expected " ++ r.type.kind.fieldName) ∧
    (∀ unanswered unpaired,
      r.evaluateOr object unanswered unpaired = r.evaluate object) := by
  have hfield : ".".intercalate r.path = r.field := FieldPath.intercalate_ofText r.field
  refine ⟨r.evaluate_eq_iff object, ⟨hfield, fun key => FieldPath.not_mem_of_mem_ofText⟩, ?_,
    evaluateOr_eq_evaluate object⟩
  intro m hm
  obtain ⟨hpath, hlead, hexpected⟩ := mismatch_of_evaluate hm
  have htext : m.pathText = "." ++ r.field := by rw [FieldMismatch.pathText, hpath, hfield]
  have hmessage : (EvaluationError.fieldMismatch m).message = m.message := rfl
  refine ⟨htext, hlead, hexpected, ?_⟩
  rw [hmessage, FieldMismatch.message, htext, hexpected]

end Rule

end AdmissionRules
