import AdmissionRules.Proofs.Binary64.Rounding
import AdmissionRules.Proofs.Rule.Conversion
import AdmissionRules.Proofs.Rule.OperatorTable

set_option autoImplicit false

/-! # Integers compared as numbers

The same integer in a field, and the same expected integer in a document, can be compared as
integers or as binary64 numbers, which are rounded to the nearest number first. Up to `2⁵³` there
is no difference. Past it rounding may make different integers equal but never turns their order
round, so what is told apart as numbers is told apart as integers, and what is in order as integers
is in order as numbers (`Rule.evaluate_widened`). -/

namespace AdmissionRules

namespace Operator

variable {o : Operator} {n v : Int}

/-- Integers that are numbers themselves are compared alike. -/
theorem holds_float_iff (hn : n.natAbs ≤ 2 ^ 53) (hv : v.natAbs ≤ 2 ^ 53) :
    o.Holds (.float (.ofInt n)) (.float (.ofInt v)) ↔ o.Holds (.integer n) (.integer v) := by
  have hx := Binary64.rational?_ofInt hn
  have hy := Binary64.rational?_ofInt hv
  have heqv := (Binary64.eqv_iff_of_rational? hx hy).trans Int.cast_inj
  cases o with
  | is => exact heqv
  | isNot => exact not_congr heqv
  | isIn | notIn => exact Iff.rfl
  | greaterThan | moreThan => exact (Binary64.lt_iff_of_rational? hy hx).trans Int.cast_lt
  | smallerThan | lessThan => exact (Binary64.lt_iff_of_rational? hx hy).trans Int.cast_lt
  | equalOrGreaterThan | equalOrMoreThan =>
      exact (Binary64.le_iff_of_rational? hy hx).trans Int.cast_le
  | equalOrSmallerThan | equalOrLessThan =>
      exact (Binary64.le_iff_of_rational? hx hy).trans Int.cast_le

/-- What is told apart as numbers is told apart as integers. -/
theorem holds_integer_of_float (ho : o.comparison ∈ [.greater, .less, .notEqual])
    (h : o.Holds (.float (.ofInt n)) (.float (.ofInt v))) : o.Holds (.integer n) (.integer v) := by
  cases o with
  | isNot =>
      rintro rfl
      exact h (Binary64.ofInt_eqv_self n)
  | greaterThan | moreThan | smallerThan | lessThan => exact Binary64.lt_of_ofInt_lt h
  | _ => exact absurd ho (by decide)

/-- What is in order as integers is in order as numbers. -/
theorem holds_float_of_integer (ho : o.comparison ∈ [.greaterOrEqual, .lessOrEqual, .equal])
    (h : o.Holds (.integer n) (.integer v)) : o.Holds (.float (.ofInt n)) (.float (.ofInt v)) := by
  cases o with
  | is =>
      obtain rfl : n = v := h
      exact Binary64.ofInt_eqv_self n
  | equalOrGreaterThan | equalOrMoreThan | equalOrSmallerThan | equalOrLessThan =>
      exact Binary64.ofInt_le_ofInt h
  | _ => exact absurd ho (by decide)

end Operator

namespace Rule

/-- **Comparing integers as numbers.** Let a field hold an integer of 64 bits, and let a document
    give one as the expected value. A rule of an integer type takes it as it is, a rule of a float
    type as the nearest number. Then both rules have an answer for every operator but those that
    ask for membership. Between integers up to `2⁵³` the answers are the same. In any case, if the
    rule of the float type finds the field greater, less or different, so does the other, and what
    the rule of the integer type finds equal, or in order with equality allowed, so does that of the
    float type. -/
theorem evaluate_widened {object : Json} {field : String} {n : Int}
    (hat : object.at? (FieldPath.ofText field) = some (.number (.integer n)))
    (hn : -2 ^ 63 ≤ n ∧ n < 2 ^ 63) {v : Int} (hv : -2 ^ 63 ≤ v ∧ v < 2 ^ 63) {t u : ValueType}
    (ht : t.kind = .integer) (hu : u.kind = .float) {op : Operator}
    (hop : op.isMembership = false) :
    RuleValue.ofYaml t op (.integer v) = .ok (.integer v) ∧
    RuleValue.ofYaml u op (.integer v) = .ok (.float (.ofInt v)) ∧
    ∃ asInteger asFloat,
      evaluate { field, type := t, op, value := .integer v } object = .ok asInteger ∧
      evaluate { field, type := u, op, value := .float (.ofInt v) } object = .ok asFloat ∧
      (n.natAbs ≤ 2 ^ 53 → v.natAbs ≤ 2 ^ 53 → asInteger = asFloat) ∧
      (op.comparison ∈ [.greater, .less, .notEqual] → asFloat = true → asInteger = true) ∧
      (op.comparison ∈ [.greaterOrEqual, .lessOrEqual, .equal] →
        asInteger = true → asFloat = true) := by
  have hwhole : FieldPath.wholeInt64? (.integer n) = some n := by
    rw [FieldPath.wholeInt64?, if_pos ((Binary64.isSigned_64_iff n).2 hn)]
  obtain ⟨i, hi, hinteger⟩ := exists_answer
    (r := { field, type := t, op, value := .integer v }) (x := .integer n)
    (by rw [ht]; exact Operator.mem_integer_operators hop) (.integer v ht) hat
    (by rw [ht]; exact .integer _ n hwhole)
  obtain ⟨f, hf, hfloat⟩ := exists_answer
    (r := { field, type := u, op, value := .float (.ofInt v) }) (x := .float (.ofInt n))
    (by rw [hu]; exact Operator.mem_float_operators hop) (.float _ hu) hat
    (by rw [hu]; exact .float _)
  refine ⟨?_, ?_, i, f, hi, hf, fun hsmall hsmall' => ?_, fun ho h => ?_, fun ho h => ?_⟩
  · exact (RuleValue.ofYaml_eq_ok_iff _ _ _ _).2 (.integer v ht rfl hv)
  · exact (RuleValue.ofYaml_eq_ok_iff _ _ _ _).2 (.widened v hu rfl)
  · rw [Bool.eq_iff_iff, hinteger, hfloat]
    exact (Operator.holds_float_iff hsmall hsmall').symm
  · exact hinteger.2 (Operator.holds_integer_of_float ho (hfloat.1 h))
  · exact hfloat.2 (Operator.holds_float_of_integer ho (hinteger.1 h))

/-- A field with the first integer that is no number. -/
def manyReplicas : Json :=
  .ofMembers [("spec", .ofMembers [("replicas", .number (.integer (2 ^ 53 + 1)))])]

/-- A rule that sets a lower limit. -/
def replicasRule (type : ValueType) (value : RuleValue) : Rule :=
  { field := "spec.replicas", type, op := .equalOrMoreThan, value }

/-- The integer before is a number, and rounding makes the two equal. As integers they are in order,
    so as numbers they are too. -/
theorem evaluate_widened_replicas :
    manyReplicas.at? (FieldPath.ofText "spec.replicas") =
      some (.number (.integer (2 ^ 53 + 1))) ∧
    ((-2 : Int) ^ 63 ≤ 2 ^ 53 + 1 ∧ (2 : Int) ^ 53 + 1 < 2 ^ 63) ∧
    ((-2 : Int) ^ 63 ≤ 2 ^ 53 ∧ (2 : Int) ^ 53 < 2 ^ 63) ∧
    ValueType.int.kind = .integer ∧ ValueType.float.kind = .float ∧
    Operator.equalOrMoreThan.isMembership = false ∧
    (replicasRule .int (.integer (2 ^ 53))).evaluate manyReplicas = .ok true ∧
    (replicasRule .float (.float (.ofInt (2 ^ 53)))).evaluate manyReplicas = .ok true := by
  have hat : manyReplicas.at? (FieldPath.ofText "spec.replicas") =
      some (.number (.integer (2 ^ 53 + 1))) := rfl
  have hn : (-2 : Int) ^ 63 ≤ 2 ^ 53 + 1 ∧ (2 : Int) ^ 53 + 1 < 2 ^ 63 := by decide
  have hv : (-2 : Int) ^ 63 ≤ 2 ^ 53 ∧ (2 : Int) ^ 53 < 2 ^ 63 := by decide
  have hop : Operator.equalOrMoreThan.isMembership = false := rfl
  have hinteger : (replicasRule .int (.integer (2 ^ 53))).evaluate manyReplicas = .ok true := rfl
  obtain ⟨-, -, i, f, hi, hf, -, -, hweak⟩ :=
    evaluate_widened hat hn hv (t := .int) (u := .float) rfl rfl hop
  obtain rfl : i = true := Except.ok.inj (hi.symm.trans hinteger)
  obtain rfl : f = true := hweak (by decide) rfl
  exact ⟨hat, hn, hv, rfl, rfl, hop, hinteger, hf⟩

end Rule

end AdmissionRules
