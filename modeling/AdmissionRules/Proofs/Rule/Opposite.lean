import AdmissionRules.Proofs.Json.Numbers
import AdmissionRules.Proofs.Policy.Grammar
import AdmissionRules.Proofs.Rule.OperatorTable

set_option autoImplicit false

/-! # Opposite operators

Every operator has opposites, which ask for exactly what it does not ask for. Where a rule has an
answer, the rule with an opposite operator has the other one; where it has none, both fail alike
(`Rule.evaluate_opposite`). Numbers need care: `nan` is not in order with anything, so of a rule
that orders numbers and expects `nan` neither form is ever satisfied. -/

namespace AdmissionRules

/-! ## Comparisons -/

namespace Comparison

/-- The comparison that asks for what another one does not ask for. -/
def opposite : Comparison → Comparison
  | .equal => .notEqual
  | .notEqual => .equal
  | .member => .notMember
  | .notMember => .member
  | .greater => .lessOrEqual
  | .lessOrEqual => .greater
  | .less => .greaterOrEqual
  | .greaterOrEqual => .less

/-- Whether a comparison asks for an order. -/
def isOrdering : Comparison → Bool
  | .greater | .less | .greaterOrEqual | .lessOrEqual => true
  | .equal | .notEqual | .member | .notMember => false

/-- Where each of two values is at most the other exactly if the other is not less, opposite
    comparisons have opposite answers. -/
theorem holds?_opposite {α : Type} {C : Comparable α} {a e : α} {c : Comparison}
    (h : c.isOrdering = true → C.le a e = !C.lt e a ∧ C.le e a = !C.lt a e) :
    c.opposite.holds? C a e = (c.holds? C a e).map (!·) := by
  cases c with
  | equal | member | notMember => rfl
  | notEqual => simp [opposite, holds?]
  | greater => simp [opposite, holds?, (h rfl).1]
  | less => simp [opposite, holds?, (h rfl).2]
  | greaterOrEqual => simp [opposite, holds?, (h rfl).2]
  | lessOrEqual => simp [opposite, holds?, (h rfl).1]

end Comparison

/-! ## Operators -/

namespace Operator

variable {o o' : Operator}

theorem supports_opposite (h : o'.comparison = o.comparison.opposite) (t : ValueType) :
    o'.supports t = o.supports t := by
  rw [supports, supports, h]
  cases o.comparison <;> rfl

theorem isMembership_opposite (h : o'.comparison = o.comparison.opposite) :
    o'.isMembership = o.isMembership := by
  rw [isMembership, isMembership, h]
  cases o.comparison <;> rfl

theorem matches_opposite (h : o'.comparison = o.comparison.opposite) (v : RuleValue)
    (t : ValueType) : v.matches t o' = v.matches t o := by
  simp only [RuleValue.matches, isMembership_opposite h]

theorem lookResult_opposite (h : o'.comparison = o.comparison.opposite) (items : List String)
    (s : String) : o'.lookResult items s = (o.lookResult items s).map (!·) := by
  rw [lookResult, lookResult, h]
  cases o.comparison <;> simp [Comparison.opposite]

end Operator

/-! ## Order of numbers -/

namespace Binary64

theorem position?_eq_none_iff (x : Binary64) : x.position? = none ↔ x = .nan := by
  cases x with
  | nan => exact iff_of_true rfl rfl
  | infinite negative => exact iff_of_false (Option.some_ne_none _) Binary64.noConfusion
  | finite negative u h => exact iff_of_false (Option.some_ne_none _) Binary64.noConfusion

/-- Numbers are in order one way or the other. -/
theorem le_eq_not_lt {x y : Binary64} (hx : x ≠ .nan) (hy : y ≠ .nan) : x.le y = !y.lt x := by
  obtain ⟨a, ha⟩ := Option.ne_none_iff_exists'.1 (mt (position?_eq_none_iff x).1 hx)
  obtain ⟨b, hb⟩ := Option.ne_none_iff_exists'.1 (mt (position?_eq_none_iff y).1 hy)
  rw [le, lt, related_of_position? ha hb, related_of_position? hb ha, ← decide_not]
  exact decide_eq_decide.2 not_lt.symm

theorem related_nan (r : Int → Int → Bool) (x : Binary64) : related r x .nan = false := by
  unfold related
  cases x.position? <;> rfl

theorem nan_related (r : Int → Int → Bool) (x : Binary64) : related r .nan x = false := rfl

end Binary64

theorem Json.Number.toBinary64_ne_nan {n : Json.Number} (h : n ≠ .real .nan) :
    n.toBinary64 ≠ .nan := by
  cases n with
  | integer n => exact Binary64.ofInt_ne_nan n
  | real x =>
      rintro rfl
      exact h rfl

/-- Nothing is in order with `nan`, and everything differs from it. -/
theorem Operator.holds_nan_iff {o : Operator} (h : o.isMembership = false) (x : Binary64) :
    o.Holds (.float x) (.float .nan) ↔ o.comparison = .notEqual := by
  have hnan : ∀ r, ¬ Binary64.related r x .nan = true := by simp [Binary64.related_nan]
  have hnan' : ∀ r, ¬ Binary64.related r .nan x = true := by simp [Binary64.nan_related]
  cases o with
  | isIn | notIn => cases h
  | isNot => exact iff_of_true (hnan _) rfl
  | is | smallerThan | lessThan | equalOrSmallerThan | equalOrLessThan =>
      exact iff_of_false (hnan _) (by decide)
  | greaterThan | moreThan | equalOrGreaterThan | equalOrMoreThan =>
      exact iff_of_false (hnan' _) (by decide)

/-! ## Results -/

/-- The failure with another operator named, where one is named. -/
def EvaluationError.naming (o : Operator) : EvaluationError → EvaluationError
  | .fieldNotFound field object => .fieldNotFound field object
  | .fieldMismatch m => .fieldMismatch m
  | .valueMismatch type _ found => .valueMismatch type o found
  | .unsupportedOperator type _ => .unsupportedOperator type o

theorem EvaluationError.kind_naming (o : Operator) (e : EvaluationError) :
    (e.naming o).kind = e.kind := by
  cases e <;> rfl

namespace Rule

/-- The same rule with another operator. -/
def withOperator (r : Rule) (o : Operator) : Rule := { r with op := o }

theorem withOperator_op (r : Rule) (o : Operator) : (r.withOperator o).op = o := rfl

theorem withOperator_type (r : Rule) (o : Operator) : (r.withOperator o).type = r.type := rfl

theorem withOperator_value (r : Rule) (o : Operator) : (r.withOperator o).value = r.value := rfl

/-- The result with the other answer, or the same failure with another operator named. -/
def oppositeResult (o : Operator) : Except EvaluationError Bool → Except EvaluationError Bool
  | .ok b => .ok !b
  | .error e => .error (e.naming o)

variable {r : Rule} {o : Operator} {object : Json}

theorem answer_opposite (r : Rule) (o : Operator) (result : Option Bool) :
    (r.withOperator o).answer (result.map (!·)) = oppositeResult o (r.answer result) := by
  cases result <;> rfl

/-- A failure to read the field names no operator. -/
theorem fetch_cases {α : Type} (r : Rule) (object : Json)
    (get : Json → List String → Except FieldMismatch (Option α)) :
    (∃ a, r.fetch object get = .ok a) ∨
      ∃ e, r.fetch object get = .error e ∧ ∀ o, e.naming o = e := by
  unfold fetch
  split
  · exact .inr ⟨_, rfl, fun _ => rfl⟩
  · exact .inr ⟨_, rfl, fun _ => rfl⟩
  · exact .inl ⟨_, rfl⟩

/-- Reading the field and answering about it gives opposite results if the answers are. -/
theorem fetch_bind_opposite {α : Type}
    {get : Json → List String → Except FieldMismatch (Option α)} {result result' : α → Option Bool}
    (h : ∀ a, r.fetch object get = .ok a → result' a = (result a).map (!·)) :
    ((r.withOperator o).fetch object get >>= fun a => (r.withOperator o).answer (result' a)) =
      oppositeResult o (r.fetch object get >>= fun a => r.answer (result a)) := by
  have hfetch : (r.withOperator o).fetch object get = r.fetch object get := rfl
  rw [hfetch]
  rcases r.fetch_cases object get with ⟨a, ha⟩ | ⟨e, he, hnaming⟩
  · rw [ha]
    show (r.withOperator o).answer (result' a) = oppositeResult o (r.answer (result a))
    rw [h a ha, answer_opposite]
  · rw [he]
    show Except.error e = Except.error (e.naming o)
    rw [hnaming]

theorem lookField_opposite (h : o.comparison = r.op.comparison.opposite)
    (items : List String) :
    (r.withOperator o).lookField object items = oppositeResult o (r.lookField object items) :=
  fetch_bind_opposite fun s _ => Operator.lookResult_opposite h items s

theorem compareField_opposite {α : Type} (h : o.comparison = r.op.comparison.opposite)
    {get : Json → List String → Except FieldMismatch (Option α)} {C : Comparable α} {e : α}
    (horder : ∀ a, r.fetch object get = .ok a → r.op.comparison.isOrdering = true →
      C.le a e = !C.lt e a ∧ C.le e a = !C.lt a e) :
    (r.withOperator o).compareField object get C e =
      oppositeResult o (r.compareField object get C e) := by
  refine fetch_bind_opposite fun a ha => ?_
  have hop : (r.withOperator o).op.comparison = r.op.comparison.opposite := h
  rw [hop, Comparison.holds?_opposite (horder a ha)]

/-- What is read as a number is a number. -/
theorem fetch_ne_nan {x : Binary64} (hfield : object.at? r.path ≠ some (.number (.real .nan)))
    (h : r.fetch object FieldPath.getFloat64 = .ok x) : x ≠ .nan := by
  unfold fetch FieldPath.getFloat64 FieldPath.get at h
  cases hat : object.at? r.path with
  | none => simp [hat] at h
  | some value =>
      cases value with
      | number n =>
          simp only [hat, FieldPath.asFloat64?, Except.ok.injEq] at h
          have hne : n ≠ .real .nan := by
            rintro rfl
            exact hfield hat
          exact h ▸ Json.Number.toBinary64_ne_nan hne
      | _ => simp [hat, FieldPath.asFloat64?] at h

theorem evaluate_withOperator (h : o.comparison = r.op.comparison.opposite)
    (hfield : object.at? r.path ≠ some (.number (.real .nan)))
    (hvalue : r.type.kind = .float → r.op.comparison.isOrdering = true →
      r.value ≠ .float .nan) :
    (r.withOperator o).evaluate object = oppositeResult o (r.evaluate object) := by
  have hsupports := Operator.supports_opposite h r.type
  have hmatches := Operator.matches_opposite h r.value r.type
  rw [evaluate, evaluate, withOperator_op, withOperator_type, withOperator_value, hsupports,
    hmatches]
  cases r.op.supports r.type with
  | false => rfl
  | true =>
      cases r.value.matches r.type r.op with
      | false => rfl
      | true =>
          simp only [Bool.not_true, Bool.false_eq_true, if_false]
          split
          · exact lookField_opposite h _
          · exact compareField_opposite h fun a _ _ => by simp [compareStrings]
          · exact compareField_opposite h fun a _ _ => by cases a <;> simp [compareBools]
          · exact compareField_opposite h fun a _ _ => by simp [compareInts, ← decide_not]
          · rename_i y hkind hexpected
            refine compareField_opposite h fun x hx horder => ?_
            -- neither number is `nan`, and other numbers are ordered linearly
            have hx := fetch_ne_nan hfield hx
            have hy : y ≠ .nan := by
              rintro rfl
              exact hvalue hkind horder hexpected
            exact ⟨Binary64.le_eq_not_lt hx hy, Binary64.le_eq_not_lt hy hx⟩
          · rfl

/-- A rule that expects `nan` is only ever satisfied for asking for a difference. -/
theorem evaluate_nan (hkind : r.type.kind = .float) (hvalue : r.value = .float .nan)
    (hop : r.op.isMembership = false) {n : Json.Number}
    (hat : object.at? r.path = some (.number n)) :
    r.evaluate object = .ok (decide (r.op.comparison = .notEqual)) := by
  have hread : (Json.number n).ReadsAs r.type.kind (.float n.toBinary64) := by
    rw [hkind]
    exact .float n
  have hsuits : r.value.Suits r.type r.op := by
    rw [hvalue]
    exact .float .nan hkind
  obtain ⟨b, hb, hholds⟩ :=
    exists_answer (by rw [hkind]; exact Operator.mem_float_operators hop) hsuits hat hread
  rw [hvalue, Operator.holds_nan_iff hop] at hholds
  rw [hb, ← Bool.decide_congr hholds, Bool.decide_eq_true]

/-- **Opposite operators give opposite answers**, for every rule, checked or not, and every object
    with a JSON value in the field, which is never `nan` (`Json.any_at?_ne_nan`). Both rules have
    an answer, and not the same, or they fail alike but for the operator that the failure names.
    This leaves out rules that order numbers and expect `nan`. They are accepted in a document like
    others, and on a field that is a number only the rule that asks for a difference from `nan` is
    ever satisfied, and it always is. -/
theorem evaluate_opposite (r : Rule) (object : Json)
    (hfield : object.at? r.path ≠ some (.number (.real .nan))) :
    (∀ o : Operator, o.comparison = r.op.comparison.opposite →
      (r.type.kind = .float → r.op.comparison.isOrdering = true → r.value ≠ .float .nan) →
      (r.withOperator o).evaluate object = oppositeResult o (r.evaluate object) ∧
        ∀ e : EvaluationError, (e.naming o).kind = e.kind) ∧
    (r.type.kind = .float → r.value = .float .nan → r.op.isMembership = false →
      (r.field ≠ "" → "" ∉ r.path → ∀ place, Rule.ofDraft place
        { field := r.field, type := r.type.name, op := r.op.name, value := .real .nan } = .ok r) ∧
      ∀ n, object.at? r.path = some (.number n) →
        r.evaluate object = .ok (decide (r.op.comparison = .notEqual))) := by
  refine ⟨fun o h hvalue =>
      ⟨evaluate_withOperator h hfield hvalue, EvaluationError.kind_naming o⟩,
    fun hkind hvalue hop => ⟨fun hnamed hsegments place => ?_, fun n hat =>
      evaluate_nan hkind hvalue hop hat⟩⟩
  rw [Rule.ofDraft_eq_ok_iff]
  refine ⟨rfl, rfl, rfl, ?_, ?_, hnamed, fun segment hsegment hempty => hsegments ?_⟩
  · rw [Operator.supports_iff, hkind]
    exact Operator.mem_float_operators hop
  · rw [hvalue]
    exact .float .nan hkind rfl
  · exact hempty ▸ hsegment

/-- A limit for a load. -/
def loadRule (limit : Binary64) : Rule :=
  { field := "load", type := .float, op := .greaterThan, value := .float limit }

/-- A document with a limit that is not a number. -/
def unlimited : String :=
  "forKindsRules:\n- kind: Node\n  rules:\n" ++
    "  - \x7bfield: load, type: float, op: GreaterThan, value: .nan\x7d\n"

def loadText : String := "\x7b\"load\": 2.5\x7d"

/-- An object as it is read from a text. -/
def loaded : Json := (Json.Reader.run Json.Reader.any loadText).toOption.getD .null

theorem loaded_read : Json.Reader.any 0 (Json.Source.ofText loadText).1 = .ok loaded := by
  have hread : (Json.Reader.run Json.Reader.any loadText).toOption.isSome = true := by
    decide +kernel
  obtain ⟨object, hobject⟩ := Option.isSome_iff_exists.1 hread
  have hloaded : loaded = object := by rw [loaded, hobject, Option.getD_some]
  rw [hloaded]
  exact Json.run_eq_ok (eq_ok_of_toOption hobject)

theorem loaded_number : ∃ n, loaded.at? ["load"] = some (.number n) := by
  have hnumber : ((loaded.at? ["load"]).bind FieldPath.asFloat64?).isSome = true := by
    decide +kernel
  obtain ⟨x, hx⟩ := Option.isSome_iff_exists.1 hnumber
  obtain ⟨value, hat, hread⟩ := Option.bind_eq_some_iff.1 hx
  cases (Json.readsAs_float_iff value _).2 ⟨x, hread, rfl⟩ with
  | float n => exact ⟨n, hat⟩

/-- A load above two is not two or less. With `nan` for a limit it is neither, and the document
    that says so is accepted. -/
theorem evaluate_opposite_load :
    loaded.at? ["load"] ≠ some (.number (.real .nan)) ∧
    Operator.equalOrLessThan.comparison = Operator.greaterThan.comparison.opposite ∧
    (loadRule (.ofInt 2)).evaluate loaded = .ok true ∧
    ((loadRule (.ofInt 2)).withOperator .equalOrLessThan).evaluate loaded = .ok false ∧
    (loadRule .nan).evaluate loaded = .ok false ∧
    ((loadRule .nan).withOperator .equalOrLessThan).evaluate loaded = .ok false ∧
    PolicyDocument.parse unlimited = .ok
      { entries := [{ apiVersion := none, kind := "Node", rules := [loadRule .nan] }],
        adminGroups := ["system:masters"] } := by
  have hfield := Json.any_at?_ne_nan loaded_read ["load"]
  have hopposite :
      Operator.equalOrLessThan.comparison = Operator.greaterThan.comparison.opposite := rfl
  have hvalue : RuleValue.float (.ofInt 2) ≠ .float .nan :=
    fun h => Binary64.ofInt_ne_nan 2 (RuleValue.float.inj h)
  have habove : (loadRule (.ofInt 2)).evaluate loaded = .ok true :=
    eq_ok_of_toOption (by decide +kernel)
  obtain ⟨n, hat⟩ := loaded_number
  obtain ⟨hlimit, -⟩ := (evaluate_opposite (loadRule (.ofInt 2)) loaded hfield).1
    .equalOrLessThan hopposite fun _ _ => hvalue
  obtain ⟨-, hgreater⟩ := (evaluate_opposite (loadRule .nan) loaded hfield).2 rfl rfl rfl
  obtain ⟨-, hless⟩ := (evaluate_opposite ((loadRule .nan).withOperator .equalOrLessThan) loaded
    hfield).2 rfl rfl rfl
  refine ⟨hfield, hopposite, habove, ?_, hgreater n hat, hless n hat, by decide +kernel⟩
  rw [hlimit, habove]
  rfl

end Rule

end AdmissionRules
