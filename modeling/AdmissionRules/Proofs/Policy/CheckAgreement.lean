import AdmissionRules.Proofs.Policy.WellFormed

set_option autoImplicit false

/-! # Checks at load and at evaluation agree

A rule is checked when it is loaded, its path first, and its type, operator and value are checked
again at every evaluation, where nothing is said of its path. The two checks are written apart.
`RuleDefect.Conflict` tells without either what is wrong with a type, an operator and a value; each
check finds exactly that (`evaluate_eq_error_iff`, `defect?_eq_some_iff_conflict`). The main
statement (`Rule.checks_agree`) follows: the rules that are denied on every object for what is
wrong with themselves are those that no path makes loadable. -/

namespace AdmissionRules

/-! ## Conflicts -/

namespace RuleDefect

/-- The defect shows at evaluation as this error, of the same name and about the same. Defects of
    the path do not show. -/
inductive ShownAs : RuleDefect → EvaluationError → Prop where
  | unsupportedOperator (type : ValueType) (op : Operator) :
      ShownAs (.unsupportedOperator type op) (.unsupportedOperator type op)
  | valueMismatch (type : ValueType) (op : Operator) (found : Shape) :
      ShownAs (.valueMismatch type op found) (.valueMismatch type op found)

/-- What is wrong with a type, an operator and a value: the operator does not go with the type, or
    the value does not suit both. -/
inductive Conflict (type : ValueType) (op : Operator) (value : RuleValue) : RuleDefect → Prop where
  | operator (hop : op ∉ type.kind.operators) :
      Conflict type op value (.unsupportedOperator type op)
  | value (hop : op ∈ type.kind.operators) (hvalue : ¬ value.Suits type op) :
      Conflict type op value (.valueMismatch type op value.shape)

theorem Conflict.exists_shownAs {type : ValueType} {op : Operator} {value : RuleValue}
    {defect : RuleDefect} (h : Conflict type op value defect) : ∃ e, defect.ShownAs e := by
  cases h with
  | operator _ => exact ⟨_, .unsupportedOperator _ _⟩
  | value _ _ => exact ⟨_, .valueMismatch _ _ _⟩

end RuleDefect

open RuleDefect (Conflict)

namespace Rule

variable {r : Rule} {defect : RuleDefect} {e : EvaluationError}

/-! ## The two checks -/

/-- Evaluation shows a defect exactly if it is one, whatever the path and the object. -/
theorem evaluate_eq_error_iff (hshown : defect.ShownAs e) (object : Json) :
    r.evaluate object = .error e ↔ Conflict r.type r.op r.value defect := by
  rw [r.evaluate_eq_iff]
  constructor
  · intro h
    cases hshown with
    | unsupportedOperator =>
        cases h with
        | unsupported hop => exact .operator hop
    | valueMismatch =>
        cases h with
        | unsuited hop hvalue => exact .value hop hvalue
  · intro h
    cases h with
    | operator hop =>
        cases hshown
        exact .unsupported hop
    | value hop hvalue =>
        cases hshown
        exact .unsuited hop hvalue

/-- If the path of a rule is in order, its defects are those of its other parts. -/
theorem defect?_eq_some_iff_conflict (hfield : r.field ≠ "") (hsegments : "" ∉ r.path) :
    r.defect? = some defect ↔ Conflict r.type r.op r.value defect := by
  have hpath : r.path.any String.isEmpty = false := by
    rw [List.any_eq_false]
    intro segment hsegment hempty
    exact hsegments (String.isEmpty_iff.1 hempty ▸ hsegment)
  simp only [defect?, String.isEmpty_iff, hfield, hpath, if_false, Bool.false_eq_true]
  constructor
  · intro h
    split_ifs at h with hop hvalue
    · cases h
      exact .operator (by simpa [← Operator.supports_iff] using hop)
    · cases h
      exact .value (by simpa [← Operator.supports_iff] using hop)
        (by simpa [← RuleValue.matches_iff_suits] using hvalue)
  · intro h
    cases h with
    | operator hop =>
        rw [← Operator.supports_iff, Bool.not_eq_true] at hop
        simp [hop]
    | value hop hvalue =>
        rw [← Operator.supports_iff] at hop
        rw [← RuleValue.matches_iff_suits, Bool.not_eq_true] at hvalue
        simp [hop, hvalue]

/-- What shows at evaluation is no defect of the path. -/
theorem conflict_of_defect? (hshown : defect.ShownAs e) (h : r.defect? = some defect) :
    Conflict r.type r.op r.value defect := by
  by_cases hfield : r.field = ""
  · simp only [defect?, String.isEmpty_iff, hfield, if_true, Option.some.injEq] at h
    cases h
    cases hshown
  · by_cases hsegments : "" ∈ r.path
    · have hpath : r.path.any String.isEmpty = true :=
        List.any_eq_true.2 ⟨"", hsegments, rfl⟩
      simp only [defect?, String.isEmpty_iff, hfield, hpath, if_true, if_false,
        Option.some.injEq] at h
      cases h
      cases hshown
    · exact (defect?_eq_some_iff_conflict hfield hsegments).1 h

theorem WellFormed.not_conflict (hr : r.WellFormed) : ¬ Conflict r.type r.op r.value defect := by
  intro h
  cases h with
  | operator hop => exact hop ((r.op.supports_iff r.type).1 hr.operator)
  | value _ hvalue => exact hvalue hr.value

/-! ## Rules denied for themselves -/

/-- Whatever the object, evaluation shows a defect of the rule itself. -/
def DeniedForItself (r : Rule) : Prop :=
  ∀ object, ∃ defect e, RuleDefect.ShownAs defect e ∧ r.evaluate object = .error e

theorem deniedForItself_iff :
    r.DeniedForItself ↔ ∃ defect, Conflict r.type r.op r.value defect := by
  constructor
  · intro h
    obtain ⟨defect, e, hshown, heval⟩ := h .null
    exact ⟨defect, (evaluate_eq_error_iff hshown _).1 heval⟩
  · rintro ⟨defect, hconflict⟩ object
    obtain ⟨e, hshown⟩ := hconflict.exists_shownAs
    exact ⟨defect, e, hshown, (evaluate_eq_error_iff hshown object).2 hconflict⟩

/-- A rule is denied for itself exactly if it cannot be made, under whatever path. -/
theorem deniedForItself_iff_make :
    r.DeniedForItself ↔ ∀ field, ∃ defect, make field r.type r.op r.value = .error defect := by
  rw [deniedForItself_iff]
  constructor
  · rintro ⟨defect, hconflict⟩ field
    cases hmake : make field r.type r.op r.value with
    | error defect => exact ⟨defect, rfl⟩
    | ok made =>
        obtain ⟨rfl, hwell⟩ := (make_eq_ok_iff _ _ _ _ _).1 hmake
        exact absurd hconflict hwell.not_conflict
  · intro h
    -- any path that is in order will do
    have hfield : "spec" ≠ "" := by decide
    have hsegments : "" ∉ FieldPath.ofText "spec" := by decide
    obtain ⟨defect, hmake⟩ := h "spec"
    have hdefect := (make_eq_error_iff _ _ _ _ _).1 hmake
    exact ⟨defect, (defect?_eq_some_iff_conflict (r := { r with field := "spec" }) hfield
      hsegments).1 hdefect⟩

/-- **The check at load and the check at evaluation agree**, for every rule, however it was made.
    A rule without a defect never fails at evaluation on account of its operator or its value. A
    defect of either, found at load, is what every evaluation fails with, of the same name and
    about the same type, operator and shape. What evaluation says in this respect depends neither
    on the path nor on the object: with any path that is in order, it is what the check at load
    says. So the rules that are denied on every object for what is wrong with themselves are exactly
    those that cannot be loaded for what is wrong with them besides their path: with a path in
    order, those that have a defect, and in general those that cannot be made under any path. None
    of them comes from a document. -/
theorem checks_agree (r : Rule) :
    (r.defect? = none → ∀ defect e, RuleDefect.ShownAs defect e → ∀ object,
      r.evaluate object ≠ .error e) ∧
    (∀ defect e, RuleDefect.ShownAs defect e → r.defect? = some defect → ∀ object,
      r.evaluate object = .error e) ∧
    (∀ field, field ≠ "" → "" ∉ FieldPath.ofText field →
      ∀ defect e, RuleDefect.ShownAs defect e → ∀ object object',
        (r.evaluate object = .error e ↔ { r with field }.evaluate object' = .error e) ∧
        (r.evaluate object = .error e ↔ { r with field }.defect? = some defect)) ∧
    (r.field ≠ "" → "" ∉ r.path →
      (r.DeniedForItself ↔ ∃ defect, r.defect? = some defect)) ∧
    (r.DeniedForItself ↔ ∀ field, ∃ defect, make field r.type r.op r.value = .error defect) ∧
    (r.DeniedForItself → ∀ text document, PolicyDocument.parse text = .ok document →
      ∀ entry ∈ document.entries, r ∉ entry.rules) := by
  refine ⟨?_, ?_, ?_, ?_, deniedForItself_iff_make, ?_⟩
  · intro hnone defect e hshown object heval
    exact (r.defect?_eq_none_iff.1 hnone).not_conflict
      ((evaluate_eq_error_iff hshown object).1 heval)
  · intro defect e hshown hdefect object
    exact (evaluate_eq_error_iff hshown object).2 (conflict_of_defect? hshown hdefect)
  · intro field hfield hsegments defect e hshown object object'
    -- both sides come to a conflict of type, operator and value, which has no path
    have hconflict := evaluate_eq_error_iff (r := r) hshown object
    refine ⟨hconflict.trans (evaluate_eq_error_iff (r := { r with field }) hshown object').symm, ?_⟩
    exact hconflict.trans
      (defect?_eq_some_iff_conflict (r := { r with field }) hfield hsegments).symm
  · intro hfield hsegments
    simp only [deniedForItself_iff, defect?_eq_some_iff_conflict hfield hsegments]
  · intro hdenied text document hparse entry hentry hr
    obtain ⟨defect, hconflict⟩ := deniedForItself_iff.1 hdenied
    exact (((PolicyDocument.parse_wellFormed hparse).entries entry hentry).rules r hr).not_conflict
      hconflict

end Rule

end AdmissionRules
