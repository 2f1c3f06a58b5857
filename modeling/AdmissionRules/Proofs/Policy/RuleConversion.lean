import AdmissionRules.Proofs.Policy.Grammar

set_option autoImplicit false

/-! # Nothing is coerced, and nothing is lost

A type and an operator call for YAML values of one form (`RuleValue.Wanted`), and conversion
succeeds on these only. What it makes then is what the value says (`RuleValue.Converts`), so it
suits both, and nothing but the path of its rule is left that can be wrong
(`RuleValue.ofYaml_exact`). -/

namespace AdmissionRules

/-- Every member of a list has a partner if there is a list of partners. -/
theorem exists_forall₂_iff {α β : Type} (r : α → β → Prop) (xs : List α) :
    (∃ ys, List.Forall₂ r xs ys) ↔ ∀ x ∈ xs, ∃ y, r x y := by
  induction xs with
  | nil => exact iff_of_true ⟨[], .nil⟩ (List.forall_mem_nil _)
  | cons x rest ih =>
      rw [List.forall_mem_cons, ← ih]
      constructor
      · rintro ⟨_, _ | ⟨hxy, hrest⟩⟩
        exact ⟨⟨_, hxy⟩, _, hrest⟩
      · rintro ⟨⟨y, hxy⟩, ys, hrest⟩
        exact ⟨y :: ys, .cons hxy hrest⟩

namespace RuleValue

/-- The YAML values that a type and an operator call for, whatever their tags: a sequence of texts
    where membership is asked for, and otherwise one text; a truth value; an integer of 64 bits;
    any number. -/
def Wanted (t : ValueType) (o : Operator) (v : Yaml.Value) : Prop :=
  match t.kind with
  | .string =>
    if o.isMembership then
      ∃ values, v.untagged = .sequence values ∧ ∀ value ∈ values, ∃ s, value.untagged = .string s
    else ∃ s, v.untagged = .string s
  | .bool => ∃ b, v.untagged = .bool b
  | .integer => ∃ n, v.untagged = .integer n ∧ -(twoTo 63 : Int) ≤ n ∧ n < (twoTo 63 : Int)
  | .float => (∃ n, v.untagged = .integer n) ∨ ∃ x, v.untagged = .real x

theorem exists_converts_iff (t : ValueType) (o : Operator) (v : Yaml.Value) :
    (∃ x, Converts t o v x) ↔ Wanted t o v := by
  unfold Wanted
  constructor
  · rintro ⟨x, h⟩
    -- each form of conversion is for one kind, so the kind tells what is wanted
    cases h with
    | strings values items hkind hmember hv hitems =>
        rw [hkind, hmember]
        exact ⟨values, hv, (exists_forall₂_iff _ _).1 ⟨items, hitems⟩⟩
    | string s hkind hmember hv =>
        rw [hkind, hmember]
        exact ⟨s, hv⟩
    | bool b hkind hv =>
        rw [hkind]
        exact ⟨b, hv⟩
    | integer n hkind hv hrange =>
        rw [hkind]
        exact ⟨n, hv, hrange⟩
    | widened n hkind hv =>
        rw [hkind]
        exact .inl ⟨n, hv⟩
    | float x hkind hv =>
        rw [hkind]
        exact .inr ⟨x, hv⟩
  · intro h
    cases hkind : t.kind with
    | string =>
        cases hmember : o.isMembership with
        | true =>
            rw [hkind, hmember] at h
            obtain ⟨values, hv, hvalues⟩ := h
            obtain ⟨items, hitems⟩ := (exists_forall₂_iff _ _).2 hvalues
            exact ⟨_, .strings values items hkind hmember hv hitems⟩
        | false =>
            rw [hkind, hmember] at h
            obtain ⟨s, hv⟩ := h
            exact ⟨_, .string s hkind hmember hv⟩
    | bool =>
        rw [hkind] at h
        obtain ⟨b, hv⟩ := h
        exact ⟨_, .bool b hkind hv⟩
    | integer =>
        rw [hkind] at h
        obtain ⟨n, hv, hrange⟩ := h
        exact ⟨_, .integer n hkind hv hrange⟩
    | float =>
        rw [hkind] at h
        rcases h with ⟨n, hv⟩ | ⟨x, hv⟩
        · exact ⟨_, .widened n hkind hv⟩
        · exact ⟨_, .float x hkind hv⟩

theorem forall_not_converts_iff (t : ValueType) (o : Operator) (v : Yaml.Value) :
    (∀ x, ¬ Converts t o v x) ↔ ¬ Wanted t o v := by
  rw [← exists_converts_iff, not_exists]

end RuleValue

open RuleValue (Wanted Converts)

/-- A rule with known names and an operator for its type is rejected if its value is not wanted, and
    otherwise for its path only. -/
theorem Rule.ofDraft_eq_error_iff {t : ValueType} {o : Operator} (hsupports : o.supports t = true)
    {d : RuleDraft} (ht : t.name = d.type) (ho : o.name = d.op) (place : RulePlace)
    (e : DocumentError) :
    ofDraft place d = .error e ↔
      (¬ Wanted t o d.value ∧ e = .invalidRule place (.valueMismatch t o d.value.shape)) ∨
      (Wanted t o d.value ∧ d.field = "" ∧ e = .invalidRule place .emptyField) ∨
      (Wanted t o d.value ∧ d.field ≠ "" ∧ "" ∈ FieldPath.ofText d.field ∧
        e = .invalidRule place (.emptyPathSegment d.field)) := by
  have htype := (ValueType.ofName?_eq_some_iff _ _).2 ht
  have hop := (Operator.ofName?_eq_some_iff _ _).2 ho
  simp only [ofDraft, htype, hop, hsupports, Bool.not_true, Bool.false_eq_true, if_false,
    mapError_eq_error_iff, make_ofYaml_eq_error_iff hsupports, RuleValue.exists_converts_iff,
    RuleValue.forall_not_converts_iff]
  constructor
  · rintro ⟨defect, ⟨h, rfl⟩ | ⟨h, ⟨hfield, rfl⟩ | ⟨hfield, hsegment, rfl⟩⟩, rfl⟩
    · exact .inl ⟨h, rfl⟩
    · exact .inr (.inl ⟨h, hfield, rfl⟩)
    · exact .inr (.inr ⟨h, hfield, hsegment, rfl⟩)
  · rintro (⟨h, rfl⟩ | ⟨h, hfield, rfl⟩ | ⟨h, hfield, hsegment, rfl⟩)
    · exact ⟨_, .inl ⟨h, rfl⟩, rfl⟩
    · exact ⟨_, .inr ⟨h, .inl ⟨hfield, rfl⟩⟩, rfl⟩
    · exact ⟨_, .inr ⟨h, .inr ⟨hfield, hsegment, rfl⟩⟩, rfl⟩

example :
    RuleValue.ofYaml .string .isIn
        (.sequence [.string "b", .tagged "name" (.string "a"), .string "b"])
      = .ok (.strings ["b", "a", "b"]) := by
  rfl

end AdmissionRules
