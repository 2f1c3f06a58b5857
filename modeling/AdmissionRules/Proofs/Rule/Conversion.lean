import AdmissionRules.Proofs.Except
import AdmissionRules.Proofs.Rule.WellFormed

set_option autoImplicit false

/-! # Conversion of YAML values

The expected value of a rule is what stands in the document under all tags: texts, a text, a truth
value, an integer of 64 bits or a number. The one thing that is changed is that an integer becomes
a number where a number is wanted (`RuleValue.Converts`). Conversion succeeds exactly on such
values (`RuleValue.ofYaml?_eq_some_iff`), and what it makes suits the type and the operator. -/

namespace AdmissionRules

namespace RuleValue

/-- The value that a type and an operator call for, as a YAML value says it. -/
inductive Converts (t : ValueType) (o : Operator) (v : Yaml.Value) : RuleValue → Prop where
  | strings (values : List Yaml.Value) (items : List String) (hkind : t.kind = .string)
      (hmember : o.isMembership = true) (hv : v.untagged = .sequence values)
      (hitems : List.Forall₂ (fun value s => value.untagged = .string s) values items) :
      Converts t o v (.strings items)
  | string (s : String) (hkind : t.kind = .string) (hmember : o.isMembership = false)
      (hv : v.untagged = .string s) : Converts t o v (.string s)
  | bool (b : Bool) (hkind : t.kind = .bool) (hv : v.untagged = .bool b) : Converts t o v (.bool b)
  | integer (n : Int) (hkind : t.kind = .integer) (hv : v.untagged = .integer n)
      (hrange : -(twoTo 63 : Int) ≤ n ∧ n < (twoTo 63 : Int)) : Converts t o v (.integer n)
  | widened (n : Int) (hkind : t.kind = .float) (hv : v.untagged = .integer n) :
      Converts t o v (.float (.ofInt n))
  | float (x : Binary64) (hkind : t.kind = .float) (hv : v.untagged = .real x) :
      Converts t o v (.float x)

theorem Converts.suits {t : ValueType} {o : Operator} {v : Yaml.Value} {x : RuleValue}
    (h : Converts t o v x) : x.Suits t o := by
  cases h with
  | strings values items hkind hmember hv hitems => exact .strings items hkind hmember
  | string s hkind hmember hv => exact .string s hkind hmember
  | bool b hkind hv => exact .bool b hkind
  | integer n hkind hv hrange => exact .integer n hkind
  | widened n hkind hv => exact .float _ hkind
  | float x hkind hv => exact .float x hkind

/-! ## Values under tags -/

variable (v : Yaml.Value)

theorem string?_eq_some_iff (s : String) : string? v = some s ↔ v.untagged = .string s := by
  unfold string?
  cases v.untagged <;> simp

theorem strings?_eq_some_iff (items : List String) :
    strings? v = some items ↔ ∃ values, v.untagged = .sequence values ∧
      List.Forall₂ (fun value s => value.untagged = .string s) values items := by
  unfold strings?
  cases v.untagged with
  | sequence values =>
      simp only [mapM_eq_some_iff, string?_eq_some_iff, Yaml.Value.sequence.injEq,
        exists_eq_left']
  | _ => simp

theorem bool?_eq_some_iff (b : Bool) : bool? v = some b ↔ v.untagged = .bool b := by
  unfold bool?
  cases v.untagged <;> simp

theorem integer?_eq_some_iff (n : Int) :
    integer? v = some n ↔
      v.untagged = .integer n ∧ -(twoTo 63 : Int) ≤ n ∧ n < (twoTo 63 : Int) := by
  unfold integer?
  cases v.untagged with
  | integer k =>
      simp only [Option.ite_none_right_eq_some, Option.some.injEq, Yaml.Value.integer.injEq,
        isSigned_iff]
      constructor
      · rintro ⟨h, rfl⟩
        exact ⟨rfl, h⟩
      · rintro ⟨rfl, h⟩
        exact ⟨h, rfl⟩
  | _ => simp

theorem float?_eq_some_iff (x : Binary64) :
    float? v = some x ↔
      (∃ n, v.untagged = .integer n ∧ x = .ofInt n) ∨ v.untagged = .real x := by
  unfold float?
  cases v.untagged <;> simp [eq_comm]

/-! ## Conversion -/

/-- **Conversion** makes of a YAML value what it says as the value of a type and an operator, and
    nothing of any other value. -/
theorem ofYaml?_eq_some_iff (t : ValueType) (o : Operator) (x : RuleValue) :
    ofYaml? t o v = some x ↔ Converts t o v x := by
  unfold ofYaml?
  constructor
  · intro h
    -- forward by the kind of the type, as the function goes; back by the form of conversion
    cases hkind : t.kind with
    | string =>
        rw [hkind] at h
        cases hmember : o.isMembership with
        | true =>
            simp only [hmember, if_true] at h
            obtain ⟨items, hitems, rfl⟩ := Option.map_eq_some_iff.1 h
            obtain ⟨values, hv, hitems⟩ := (strings?_eq_some_iff v items).1 hitems
            exact .strings values items hkind hmember hv hitems
        | false =>
            simp only [hmember, Bool.false_eq_true, if_false] at h
            obtain ⟨s, hs, rfl⟩ := Option.map_eq_some_iff.1 h
            exact .string s hkind hmember ((string?_eq_some_iff v s).1 hs)
    | bool =>
        rw [hkind] at h
        obtain ⟨b, hb, rfl⟩ := Option.map_eq_some_iff.1 h
        exact .bool b hkind ((bool?_eq_some_iff v b).1 hb)
    | integer =>
        rw [hkind] at h
        obtain ⟨n, hn, rfl⟩ := Option.map_eq_some_iff.1 h
        obtain ⟨hv, hrange⟩ := (integer?_eq_some_iff v n).1 hn
        exact .integer n hkind hv hrange
    | float =>
        rw [hkind] at h
        obtain ⟨y, hy, rfl⟩ := Option.map_eq_some_iff.1 h
        rcases (float?_eq_some_iff v y).1 hy with ⟨n, hv, hy⟩ | hv
        · rw [hy]
          exact .widened n hkind hv
        · exact .float y hkind hv
  · intro h
    cases h with
    | strings values items hkind hmember hv hitems =>
        rw [hkind, hmember]
        exact Option.map_eq_some_iff.2
          ⟨items, (strings?_eq_some_iff v items).2 ⟨values, hv, hitems⟩, rfl⟩
    | string s hkind hmember hv =>
        rw [hkind, hmember]
        exact Option.map_eq_some_iff.2 ⟨s, (string?_eq_some_iff v s).2 hv, rfl⟩
    | bool b hkind hv =>
        rw [hkind]
        exact Option.map_eq_some_iff.2 ⟨b, (bool?_eq_some_iff v b).2 hv, rfl⟩
    | integer n hkind hv hrange =>
        rw [hkind]
        exact Option.map_eq_some_iff.2 ⟨n, (integer?_eq_some_iff v n).2 ⟨hv, hrange⟩, rfl⟩
    | widened n hkind hv =>
        rw [hkind]
        exact Option.map_eq_some_iff.2 ⟨_, (float?_eq_some_iff v _).2 (.inl ⟨n, hv, rfl⟩), rfl⟩
    | float x hkind hv =>
        rw [hkind]
        exact Option.map_eq_some_iff.2 ⟨x, (float?_eq_some_iff v x).2 (.inr hv), rfl⟩

theorem ofYaml_eq_ok_iff (t : ValueType) (o : Operator) (x : RuleValue) :
    ofYaml t o v = .ok x ↔ Converts t o v x := by
  rw [← ofYaml?_eq_some_iff]
  unfold ofYaml
  cases ofYaml? t o v <;> simp

theorem ofYaml_eq_error_iff (t : ValueType) (o : Operator) (defect : RuleDefect) :
    ofYaml t o v = .error defect ↔
      (∀ x, ¬ Converts t o v x) ∧ defect = .valueMismatch t o v.shape := by
  have hnone : ofYaml? t o v = none ↔ ∀ x, ¬ Converts t o v x := by
    rw [Option.eq_none_iff_forall_ne_some]
    exact forall_congr' fun x => not_congr (ofYaml?_eq_some_iff v t o x)
  rw [← hnone]
  unfold ofYaml
  cases ofYaml? t o v <;> simp [eq_comm]

end RuleValue

/-! ## Rules of converted values -/

/-- With an operator for its type, a rule of a YAML value is not made if the value is none for both,
    and otherwise only its path can be wrong. -/
theorem Rule.make_ofYaml_eq_error_iff {t : ValueType} {o : Operator} (h : o.supports t = true)
    (v : Yaml.Value) (field : String) (defect : RuleDefect) :
    (RuleValue.ofYaml t o v >>= fun x => make field t o x) = .error defect ↔
      ((∀ x, ¬ RuleValue.Converts t o v x) ∧ defect = .valueMismatch t o v.shape) ∨
      (∃ x, RuleValue.Converts t o v x) ∧
        ((field = "" ∧ defect = .emptyField) ∨
          (field ≠ "" ∧ "" ∈ FieldPath.ofText field ∧ defect = .emptyPathSegment field)) := by
  have hmake : ∀ {x}, RuleValue.Converts t o v x → (make field t o x = .error defect ↔
      (field = "" ∧ defect = .emptyField) ∨
        (field ≠ "" ∧ "" ∈ FieldPath.ofText field ∧ defect = .emptyPathSegment field)) := by
    intro x hx
    rw [make_eq_error_iff, defect?_eq_some_iff h hx.suits]
    rfl
  rw [bind_eq_error_iff, RuleValue.ofYaml_eq_error_iff]
  refine or_congr_right ?_
  constructor
  · rintro ⟨x, hx, hdefect⟩
    have hx := (RuleValue.ofYaml_eq_ok_iff v t o x).1 hx
    exact ⟨⟨x, hx⟩, (hmake hx).1 hdefect⟩
  · rintro ⟨⟨x, hx⟩, hdefect⟩
    exact ⟨x, (RuleValue.ofYaml_eq_ok_iff v t o x).2 hx, (hmake hx).2 hdefect⟩

end AdmissionRules
