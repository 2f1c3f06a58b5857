import AdmissionRules.FieldPath
import AdmissionRules.Proofs.Binary64.Exact

set_option autoImplicit false

/-! # Integers in fields

A field with a number is read as an integer of 64 bits exactly if the number is one, whichever way
the number is kept (`getInt64_exact`). An integer that does not fit is rounded to a binary64 number
first, and that does not bring it back into range; of the binary64 numbers those are taken that
have no fraction and lie within the range, on which the conversion changes nothing. -/

namespace AdmissionRules

namespace Json.Number

/-- The number that a JSON number stands for. -/
def rational? : Number → Option ℚ
  | .integer n => some n
  | .real x => x.rational?

/-- The numbers that JSON values hold: integers that 64 bits hold, with a sign or without one, and
    binary64 numbers. -/
inductive Held : Number → Prop where
  | signed (n : Int) (hlow : -2 ^ 63 ≤ n) (hhigh : n < 2 ^ 63) : Held (.integer n)
  | unsigned (n : Nat) (h : n < 2 ^ 64) : Held (.integer n)
  | real (x : Binary64) : Held (.real x)

/-- The number is this integer, and the integer is one of 64 bits. -/
def IsInt64 (n : Number) (k : Int) : Prop := n.rational? = some (k : ℚ) ∧ -2 ^ 63 ≤ k ∧ k < 2 ^ 63

theorem isInt64_integer (n k : Int) :
    IsInt64 (.integer n) k ↔ n = k ∧ -2 ^ 63 ≤ n ∧ n < 2 ^ 63 := by
  rw [IsInt64, rational?, Option.some.injEq, Int.cast_inj]
  constructor
  · rintro ⟨rfl, h⟩
    exact ⟨rfl, h⟩
  · rintro ⟨rfl, h⟩
    exact ⟨rfl, h⟩

theorem isInt64_real (x : Binary64) (k : Int) :
    IsInt64 (.real x) k ↔ x.toInt?.filter (isSigned 64) = some k := by
  rw [IsInt64, rational?, ← Binary64.toInt?_eq_some_iff, Option.filter_eq_some_iff,
    Binary64.isSigned_64_iff]

end Json.Number

namespace FieldPath

/-! ## Numbers -/

/-- An integer past the range stays past it when it is rounded. -/
theorem wholeInt64?_of_le {n : Int} (h : 2 ^ 63 ≤ n) : wholeInt64? (.integer n) = none := by
  have hrange : isSigned 64 n = false := by
    rw [Bool.eq_false_iff, ne_eq, Binary64.isSigned_64_iff]
    omega
  have hrounded : (Binary64.ofInt n).toInt?.filter (isSigned 64) = none := by
    rw [Option.eq_none_iff_forall_ne_some]
    intro k hk
    obtain ⟨htoInt, hsigned⟩ := Option.filter_eq_some_iff.1 hk
    have hlarge : (2 ^ 63 : Int) ≤ k := Binary64.le_of_toInt?_ofInt (e := 63) h htoInt
    have := ((Binary64.isSigned_64_iff k).1 hsigned).2
    omega
  simp only [wholeInt64?, hrange, Bool.false_eq_true, if_false]
  exact hrounded

theorem wholeInt64?_eq_some_iff {n : Json.Number} (hn : n.Held) (k : Int) :
    wholeInt64? n = some k ↔ n.IsInt64 k := by
  have hinside : ∀ m : Int, -2 ^ 63 ≤ m → m < 2 ^ 63 →
      (wholeInt64? (.integer m) = some k ↔ Json.Number.IsInt64 (.integer m) k) := by
    intro m hlow hhigh
    have hsigned := (Binary64.isSigned_64_iff m).2 ⟨hlow, hhigh⟩
    rw [Json.Number.isInt64_integer]
    simp only [wholeInt64?, hsigned, if_true, Option.some.injEq]
    exact ⟨fun h => ⟨h, hlow, hhigh⟩, And.left⟩
  cases hn with
  | signed m hlow hhigh => exact hinside m hlow hhigh
  | unsigned m h =>
      by_cases hhigh : (m : Int) < 2 ^ 63
      · exact hinside m (by omega) hhigh
      · rw [wholeInt64?_of_le (not_lt.1 hhigh), Json.Number.isInt64_integer]
        constructor
        · intro hnone
          cases hnone
        · rintro ⟨-, -, hlt⟩
          exact absurd hlt hhigh
  | real x => exact (Json.Number.isInt64_real x k).symm

/-! ## Fields -/

/-- What there is to say of a field that holds a number but no integer of 64 bits. -/
def notInt64 (path : List String) (n : Json.Number) : FieldMismatch :=
  { path, value := .number n, expected := "int64" }

theorem getInt64_of_at? {object : Json} {path : List String} {n : Json.Number}
    (hat : object.at? path = some (.number n)) :
    getInt64 object path =
      match wholeInt64? n with
      | some k => .ok (some k)
      | none => .error (notInt64 path n) := by
  simp only [getInt64, get, hat, asInt64?, notInt64]
  cases wholeInt64? n <;> rfl

/-- **Reading integers is exact.** At the end of any path, a number is read as an integer if and
    only if it is this integer and the integer is one of 64 bits; otherwise it is a mismatch that
    expects `int64`. So an unsigned integer past the range is never accepted because of its
    rounding, the number `2⁶³` is refused and `-2⁶³` accepted, and negative zero is read as zero. A
    binary64 number is accepted if it has no fraction and lies between the bounds, and what it is
    converted to is the number itself. -/
theorem getInt64_exact {object : Json} {path : List String} {n : Json.Number} (hn : n.Held)
    (hat : object.at? path = some (.number n)) :
    (∀ k, getInt64 object path = .ok (some k) ↔
      n.rational? = some (k : ℚ) ∧ -2 ^ 63 ≤ k ∧ k < 2 ^ 63) ∧
    ((∀ k : Int, n.rational? = some (k : ℚ) → ¬ (-2 ^ 63 ≤ k ∧ k < 2 ^ 63)) →
      getInt64 object path = .error (notInt64 path n)) ∧
    (∀ m : Nat, n = .integer m → 2 ^ 63 ≤ m → getInt64 object path = .error (notInt64 path n)) ∧
    (n = .real (.ofInt (2 ^ 63)) → getInt64 object path = .error (notInt64 path n)) ∧
    (n = .real (.ofInt (-2 ^ 63)) → getInt64 object path = .ok (some (-2 ^ 63))) ∧
    (n = .real (.zero true) → getInt64 object path = .ok (some 0)) ∧
    (∀ x k, n = .real x → (getInt64 object path = .ok (some k) ↔
      (x.isWhole = true ∧ Binary64.lowest.le x = true ∧ x.lt Binary64.bound = true) ∧
        x.toInt64 = k)) := by
  -- the reader finds exactly the integers of 64 bits, so all else is about the number
  have hok : ∀ k, getInt64 object path = .ok (some k) ↔ n.IsInt64 k := by
    intro k
    rw [← wholeInt64?_eq_some_iff hn, getInt64_of_at? hat]
    cases wholeInt64? n <;> simp
  have herror : (∀ k, ¬ n.IsInt64 k) → getInt64 object path = .error (notInt64 path n) := by
    intro h
    have hnone : wholeInt64? n = none :=
      Option.eq_none_iff_forall_ne_some.2 fun k hk => h k ((wholeInt64?_eq_some_iff hn k).1 hk)
    rw [getInt64_of_at? hat, hnone]
  refine ⟨hok, ?_, ?_, ?_, ?_, ?_, ?_⟩
  · intro h
    exact herror fun k hk => h k hk.1 hk.2
  · rintro m rfl hm
    refine herror fun k hk => ?_
    have := ((Json.Number.isInt64_integer m k).1 hk).2.2
    omega
  · rintro rfl
    refine herror fun k hk => ?_
    obtain ⟨hexact, -, hhigh⟩ := hk
    have hk : ((2 ^ 63 : Int) : ℚ) = k :=
      Option.some.inj (Binary64.rational?_bound.symm.trans hexact)
    rw [Int.cast_inj] at hk
    omega
  · rintro rfl
    exact (hok _).2 ⟨Binary64.rational?_lowest, by decide, by decide⟩
  · rintro rfl
    have hzero := (Binary64.toInt?_eq_some_iff (.zero true) 0).1 (by decide +kernel)
    exact (hok _).2 ⟨hzero, by decide, by decide⟩
  · rintro x k rfl
    rw [hok, Json.Number.isInt64_real, Binary64.filter_toInt?_eq_some_iff]

/-- A field that holds `-2⁶³` as a binary64 number. -/
def lowestReplicas : Json :=
  .ofMembers [("spec", .ofMembers [("replicas", .number (.real (.ofInt (-2 ^ 63))))])]

theorem getInt64_exact_lowest :
    (Json.Number.real (.ofInt (-2 ^ 63))).Held ∧
    lowestReplicas.at? ["spec", "replicas"] = some (.number (.real (.ofInt (-2 ^ 63)))) ∧
    getInt64 lowestReplicas ["spec", "replicas"] = .ok (some (-2 ^ 63)) := by
  have hheld : (Json.Number.real (.ofInt (-2 ^ 63))).Held := .real _
  have hat : lowestReplicas.at? ["spec", "replicas"] =
      some (.number (.real (.ofInt (-2 ^ 63)))) := rfl
  exact ⟨hheld, hat, (getInt64_exact hheld hat).2.2.2.2.1 rfl⟩

end FieldPath

end AdmissionRules
