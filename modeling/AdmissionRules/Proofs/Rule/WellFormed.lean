import AdmissionRules.Rule.Basic
import Mathlib.Tactic.SplitIfs

set_option autoImplicit false

/-! # Well-formed rules

A rule is well formed when nothing is wrong with it apart from any object: its path has keys, its
operator applies to its type, and its value suits both. This is what `Rule.defect?` checks
(`defect?_eq_none_iff`). -/

namespace AdmissionRules

/-! ## Values -/

/-- The values that a type and an operator call for. -/
inductive RuleValue.Suits (t : ValueType) (o : Operator) : RuleValue → Prop where
  | strings (items : List String) (hkind : t.kind = .string) (h : o.isMembership = true) :
      Suits t o (.strings items)
  | string (s : String) (hkind : t.kind = .string) (h : o.isMembership = false) :
      Suits t o (.string s)
  | bool (b : Bool) (hkind : t.kind = .bool) : Suits t o (.bool b)
  | integer (n : Int) (hkind : t.kind = .integer) : Suits t o (.integer n)
  | float (x : Binary64) (hkind : t.kind = .float) : Suits t o (.float x)

theorem RuleValue.matches_iff_suits (v : RuleValue) (t : ValueType) (o : Operator) :
    v.matches t o = true ↔ v.Suits t o := by
  constructor
  · intro h
    cases v with
    | strings items =>
        cases hkind : t.kind with
        | string => exact .strings items hkind (by simpa [RuleValue.matches, hkind] using h)
        | _ => simp [RuleValue.matches, hkind] at h
    | string s =>
        cases hkind : t.kind with
        | string => exact .string s hkind (by simpa [RuleValue.matches, hkind] using h)
        | _ => simp [RuleValue.matches, hkind] at h
    | bool b =>
        cases hkind : t.kind with
        | bool => exact .bool b hkind
        | _ => simp [RuleValue.matches, hkind] at h
    | integer n =>
        cases hkind : t.kind with
        | integer => exact .integer n hkind
        | _ => simp [RuleValue.matches, hkind] at h
    | float x =>
        cases hkind : t.kind with
        | float => exact .float x hkind
        | _ => simp [RuleValue.matches, hkind] at h
  · intro h
    cases h with
    | strings items hkind h => simp [RuleValue.matches, hkind, h]
    | string s hkind h => simp [RuleValue.matches, hkind, h]
    | bool b hkind => simp [RuleValue.matches, hkind]
    | integer n hkind => simp [RuleValue.matches, hkind]
    | float x hkind => simp [RuleValue.matches, hkind]

namespace Rule

/-! ## Defects -/

/-- A rule with nothing wrong with it. -/
structure WellFormed (r : Rule) : Prop where
  field : r.field ≠ ""
  segments : ∀ segment ∈ r.path, segment ≠ ""
  operator : r.op.supports r.type = true
  value : r.value.Suits r.type r.op

theorem defect?_eq_none_iff (r : Rule) : r.defect? = none ↔ r.WellFormed := by
  unfold defect?
  constructor
  · intro h
    split_ifs at h with hfield hsegments hoperator hvalue
    have hmatches : r.value.matches r.type r.op = true := by simpa using hvalue
    refine ⟨by simpa using hfield, ?_, by simpa using hoperator,
      (r.value.matches_iff_suits _ _).1 hmatches⟩
    intro segment hsegment hempty
    exact hsegments (List.any_eq_true.2 ⟨segment, hsegment, by simp [hempty]⟩)
  · rintro ⟨hfield, hsegments, hoperator, hvalue⟩
    have hpath : r.path.any String.isEmpty = false := by
      rw [List.any_eq_false]
      intro segment hsegment
      simpa using hsegments segment hsegment
    have hmatches := (r.value.matches_iff_suits _ _).2 hvalue
    simp [hfield, hpath, hoperator, hmatches]

/-- A rule that is made has the given parts and is well formed. -/
theorem make_eq_ok_iff (field : String) (type : ValueType) (op : Operator) (value : RuleValue)
    (r : Rule) :
    make field type op value = .ok r ↔ r = { field, type, op, value } ∧ r.WellFormed := by
  simp only [make]
  split
  · rename_i d hdefect
    constructor
    · intro h
      exact absurd h (by simp)
    · rintro ⟨rfl, hr⟩
      rw [(defect?_eq_none_iff _).2 hr] at hdefect
      exact absurd hdefect (by simp)
  · rename_i hdefect
    constructor
    · intro h
      cases h
      exact ⟨rfl, (defect?_eq_none_iff _).1 hdefect⟩
    · rintro ⟨rfl, -⟩
      rfl

theorem make_eq_error_iff (field : String) (type : ValueType) (op : Operator) (value : RuleValue)
    (defect : RuleDefect) :
    make field type op value = .error defect ↔
      defect? { field, type, op, value } = some defect := by
  simp only [make]
  cases defect? { field, type, op, value } <;> simp

/-- With an operator for its type and a value for both, only the path of a rule can be wrong. -/
theorem defect?_eq_some_iff {r : Rule} (hoperator : r.op.supports r.type = true)
    (hvalue : r.value.Suits r.type r.op) (defect : RuleDefect) :
    r.defect? = some defect ↔
      (r.field = "" ∧ defect = .emptyField) ∨
        (r.field ≠ "" ∧ "" ∈ r.path ∧ defect = .emptyPathSegment r.field) := by
  have hmatches := (r.value.matches_iff_suits _ _).2 hvalue
  have hsegment : r.path.any String.isEmpty = true ↔ "" ∈ r.path := by simp
  rw [defect?, hoperator, hmatches]
  simp only [String.isEmpty_iff, hsegment]
  by_cases hfield : r.field = ""
  · simp [hfield, eq_comm]
  · by_cases hempty : "" ∈ r.path
    · simp [hfield, hempty, eq_comm]
    · simp [hfield, hempty]

end Rule

end AdmissionRules
