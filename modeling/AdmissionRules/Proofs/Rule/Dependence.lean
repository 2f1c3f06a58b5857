import AdmissionRules.Proofs.Rule.OperatorTable

set_option autoImplicit false

/-! # What the evaluation of a rule depends on

A rule looks at nothing but the field at its path: on two objects that have the same there it
comes to the same result (`Rule.evaluate_of_at?_eq`). Only the failure to find the field quotes the
object, and it means that nothing is there (`Rule.at?_of_fieldNotFound`). -/

namespace AdmissionRules

/-- A failure as it is told of another object. -/
def EvaluationError.quoting (object : Json) : EvaluationError → EvaluationError
  | .fieldNotFound field _ => .fieldNotFound field object
  | e => e

namespace Rule

variable {r : Rule} {a b : Json}

/-- **A rule depends on its field only.** On two objects with the same at its path it comes to the
    same answer or the same failure, but that a missing field is told of the object at hand. -/
theorem evaluate_of_at?_eq (h : a.at? r.path = b.at? r.path) :
    r.evaluate a = (r.evaluate b).mapError (·.quoting a) := by
  have hleads : ∀ value, b.Leads r.path value → a.Leads r.path value := by
    intro value hlead
    rw [← Json.at?_eq_some_iff] at hlead ⊢
    exact h.trans hlead
  have houtcome := (r.evaluate_eq_iff b _).1 rfl
  generalize r.evaluate b = result at houtcome ⊢
  rw [r.evaluate_eq_iff]
  cases houtcome with
  | unsupported hop => exact .unsupported hop
  | unsuited hop hvalue => exact .unsuited hop hvalue
  | missing hop hvalue hbreaks =>
      rw [← Json.at?_eq_none_iff, ← h, Json.at?_eq_none_iff] at hbreaks
      exact .missing hop hvalue hbreaks
  | mistyped hop hvalue value hlead hread =>
      exact .mistyped hop hvalue value (hleads value hlead) hread
  | answer hop hvalue value hlead x hread b hb =>
      exact .answer hop hvalue value (hleads value hlead) x hread b hb

/-- What is not found is not there, and its rule and the object are named. -/
theorem at?_of_fieldNotFound {field : String} {object : Json}
    (h : r.evaluate a = .error (.fieldNotFound field object)) :
    a.at? r.path = none ∧ field = r.field ∧ object = a := by
  cases (r.evaluate_eq_iff a _).1 h with
  | missing _ _ hbreaks => exact ⟨hbreaks.at?, rfl, rfl⟩

end Rule

end AdmissionRules
