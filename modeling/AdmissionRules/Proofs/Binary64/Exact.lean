import AdmissionRules.Binary64
import Mathlib.Algebra.Order.Field.Rat
import Mathlib.Data.Rat.Cast.Order
import Mathlib.Tactic.Positivity

set_option autoImplicit false

/-! # Exact values of binary64 numbers

A finite number stands for a rational one (`rational?`). The order of numbers is the order of what
they stand for, and `toInt?` finds the integer that a number stands for, if it stands for one.
Rounding an integer does not bring it below a power of two (`twoTo_log2_le_roundUnits`), so a large
integer stays large when it is rounded. -/

namespace AdmissionRules.Binary64

/-! ## Values -/

/-- A magnitude with a sign. -/
def signed (negative : Bool) (m : Nat) : Int := if negative then -(m : Int) else m

/-- The number that a finite number stands for. -/
def rational? : Binary64 → Option ℚ
  | .finite negative u _ => some (signed negative u / 2 ^ 1074)
  | _ => none

theorem unit_pos : (0 : ℚ) < 2 ^ 1074 := pow_pos two_pos _

theorem one_pos : 0 < one := twoTo_pos 1074

theorem twoTo_add (m n : Nat) : twoTo (m + n) = twoTo m * twoTo n := Nat.pow_add 2 m n

theorem cast_twoTo (n : Nat) : (((twoTo n : Nat) : Int) : ℚ) = 2 ^ n := by
  rw [Int.cast_natCast]
  exact Nat.cast_pow 2 n

theorem cast_one : ((one : Int) : ℚ) = 2 ^ 1074 := cast_twoTo 1074

theorem signed_mul (negative : Bool) (m n : Nat) :
    signed negative (m * n) = signed negative m * n := by
  cases negative <;> simp [signed]

theorem natAbs_signed (negative : Bool) (m : Nat) : (signed negative m).natAbs = m := by
  cases negative <;> simp [signed]

/-! ## Order -/

theorem position?_eq_some_of_rational? {x : Binary64} {a : ℚ} (h : x.rational? = some a) :
    ∃ n : Int, x.position? = some n ∧ a = n / 2 ^ 1074 := by
  cases x with
  | nan => cases h
  | infinite negative => cases h
  | finite negative u hu => exact ⟨signed negative u, rfl, (Option.some.inj h).symm⟩

theorem related_of_rational? {x y : Binary64} {a b : ℚ} (hx : x.rational? = some a)
    (hy : y.rational? = some b) (r : Int → Int → Bool) :
    ∃ m n : Int, a = m / 2 ^ 1074 ∧ b = n / 2 ^ 1074 ∧ related r x y = r m n := by
  obtain ⟨m, hm, rfl⟩ := position?_eq_some_of_rational? hx
  obtain ⟨n, hn, rfl⟩ := position?_eq_some_of_rational? hy
  exact ⟨m, n, rfl, rfl, by rw [related, hm, hn]⟩

theorem lt_iff_of_rational? {x y : Binary64} {a b : ℚ} (hx : x.rational? = some a)
    (hy : y.rational? = some b) : x.lt y = true ↔ a < b := by
  obtain ⟨m, n, rfl, rfl, hlt⟩ := related_of_rational? hx hy fun a b => decide (a < b)
  rw [lt, hlt, decide_eq_true_iff, div_lt_div_iff_of_pos_right unit_pos, Int.cast_lt]

theorem le_iff_of_rational? {x y : Binary64} {a b : ℚ} (hx : x.rational? = some a)
    (hy : y.rational? = some b) : x.le y = true ↔ a ≤ b := by
  obtain ⟨m, n, rfl, rfl, hle⟩ := related_of_rational? hx hy fun a b => decide (a ≤ b)
  rw [le, hle, decide_eq_true_iff, div_le_div_iff_of_pos_right unit_pos, Int.cast_le]

/-! ## Whole numbers -/

theorem toInt?_finite (negative : Bool) (u : Nat) (h : Representable u) :
    toInt? (.finite negative u h) =
      if u % one = 0 then some (signed negative (u / one)) else none := rfl

theorem rational?_finite_eq_iff (negative : Bool) (u : Nat) (h : Representable u) (k : Int) :
    rational? (.finite negative u h) = some (k : ℚ) ↔ signed negative u = k * one := by
  rw [rational?, Option.some.injEq, div_eq_iff unit_pos.ne', ← cast_one]
  exact_mod_cast Iff.rfl

/-- **The integer that a number is** is the one that it stands for. -/
theorem toInt?_eq_some_iff (x : Binary64) (k : Int) :
    x.toInt? = some k ↔ x.rational? = some (k : ℚ) := by
  cases x with
  | nan => simp [toInt?, rational?]
  | infinite negative => simp [toInt?, rational?]
  | finite negative u h =>
      rw [rational?_finite_eq_iff, toInt?_finite, Option.ite_none_right_eq_some,
        Option.some.injEq]
      constructor
      · rintro ⟨hwhole, rfl⟩
        rw [← signed_mul, Nat.div_mul_cancel (Nat.dvd_of_mod_eq_zero hwhole)]
      · intro hk
        have hdvd : one ∣ u := by
          have hu := natAbs_signed negative u
          rw [hk, Int.natAbs_mul, Int.natAbs_natCast] at hu
          exact Dvd.intro_left _ hu
        refine ⟨Nat.mod_eq_zero_of_dvd hdvd, ?_⟩
        have hone : ((one : Nat) : Int) ≠ 0 := Int.natCast_ne_zero.2 one_pos.ne'
        apply mul_right_cancel₀ hone
        rw [← signed_mul, Nat.div_mul_cancel hdvd, hk]

/-! ## Rounding -/

theorem div_le_divHalfEven (n d : Nat) : n / d ≤ divHalfEven n d := by
  unfold divHalfEven
  simp only
  split_ifs <;> omega

theorem step_dvd_twoTo_log2 (m : Nat) : step m ∣ twoTo m.log2 :=
  Nat.pow_dvd_pow 2 (Nat.sub_le _ _)

/-- Rounding does not go below a power of two: it is on the grid. -/
theorem twoTo_log2_le_roundUnits {m : Nat} (hm : m ≠ 0) : twoTo m.log2 ≤ roundUnits m 1 := by
  have hpower : twoTo m.log2 ≤ m := Nat.log2_self_le hm
  calc twoTo m.log2 = twoTo m.log2 / step m * step m :=
        (Nat.div_mul_cancel (step_dvd_twoTo_log2 m)).symm
    _ ≤ m / step m * step m := Nat.mul_le_mul_right _ (Nat.div_le_div_right hpower)
    _ ≤ divHalfEven m (step m) * step m := Nat.mul_le_mul_right _ (div_le_divHalfEven _ _)
    _ = roundUnits m 1 := by rw [roundUnits, Nat.div_one, Nat.one_mul]

/-- An integer past a power of two is not rounded to one below it. -/
theorem le_of_toInt?_ofInt {e : Nat} {n k : Int} (hn : (twoTo e : Int) ≤ n)
    (h : (ofInt n).toInt? = some k) : (twoTo e : Int) ≤ k := by
  have hpos : 0 < twoTo e := twoTo_pos e
  have hsign : decide (n < 0) = false := by
    rw [decide_eq_false_iff_not]
    omega
  have hlarge : twoTo (e + 1074) ≤ n.natAbs * one := by
    rw [twoTo_add]
    exact Nat.mul_le_mul_right _ (by omega)
  have hne : n.natAbs * one ≠ 0 := by
    have := twoTo_pos (e + 1074)
    omega
  -- a power of two is a binary64 number itself, so rounding does not go below it
  have hround : twoTo e * one ≤ roundUnits (n.natAbs * one) 1 :=
    calc twoTo e * one = twoTo (e + 1074) := (twoTo_add e 1074).symm
      _ ≤ twoTo (n.natAbs * one).log2 :=
        Nat.pow_le_pow_right two_pos ((Nat.le_log2 hne).2 hlarge)
      _ ≤ roundUnits (n.natAbs * one) 1 := twoTo_log2_le_roundUnits hne
  rw [toInt?_eq_some_iff, ofInt, hsign, ofUnitRatio, ofUnits] at h
  split at h
  · rw [rational?_finite_eq_iff] at h
    have hone : (0 : Int) < one := Int.natCast_pos.2 one_pos
    refine le_of_mul_le_mul_right ?_ hone
    rw [← h, ← Int.natCast_mul]
    exact Int.ofNat_le.2 hround
  · cases h

/-! ## Conversion to integers of 64 bits -/

/-- Whether a number has no fraction. -/
def isWhole : Binary64 → Bool
  | .finite _ u _ => u % one == 0
  | _ => false

/-- The integer next to a number in the direction of zero, or the nearest one that 64 bits hold if
    that is out of range. What is no number becomes zero. -/
def toInt64 : Binary64 → Int
  | .nan => 0
  | .infinite negative => if negative then -2 ^ 63 else 2 ^ 63 - 1
  | .finite negative u _ => max (-2 ^ 63) (min (signed negative (u / one)) (2 ^ 63 - 1))

/-- The least integer of 64 bits. -/
def lowest : Binary64 := ofInt (-2 ^ 63)

/-- The first integer past those of 64 bits. -/
def bound : Binary64 := ofInt (2 ^ 63)

theorem rational?_lowest : lowest.rational? = some ((-2 ^ 63 : Int) : ℚ) :=
  (toInt?_eq_some_iff lowest _).1 (by decide +kernel)

theorem rational?_bound : bound.rational? = some ((2 ^ 63 : Int) : ℚ) :=
  (toInt?_eq_some_iff bound _).1 (by decide +kernel)

theorem isWhole_iff (x : Binary64) : x.isWhole = true ↔ ∃ k, x.toInt? = some k := by
  cases x with
  | nan => simp [isWhole, toInt?]
  | infinite negative => simp [isWhole, toInt?]
  | finite negative u h =>
      simp only [isWhole, beq_iff_eq, toInt?_finite, Option.ite_none_right_eq_some,
        Option.some.injEq]
      constructor
      · intro hwhole
        exact ⟨_, hwhole, rfl⟩
      · rintro ⟨k, hwhole, -⟩
        exact hwhole

/-- Between the bounds a whole number is converted without a change. -/
theorem toInt64_of_toInt? {x : Binary64} {k : Int} (h : x.toInt? = some k) (hlow : -2 ^ 63 ≤ k)
    (hhigh : k < 2 ^ 63) : x.toInt64 = k := by
  cases x with
  | nan => cases h
  | infinite negative => cases h
  | finite negative u hu =>
      rw [toInt?_finite, Option.ite_none_right_eq_some, Option.some.injEq] at h
      obtain ⟨-, rfl⟩ := h
      rw [toInt64]
      omega

theorem isSigned_64_iff (k : Int) : isSigned 64 k = true ↔ -2 ^ 63 ≤ k ∧ k < 2 ^ 63 :=
  isSigned_iff 64 k

/-- **The integers of 64 bits that numbers are** are the conversions of the numbers that have no
    fraction and lie between the bounds. -/
theorem filter_toInt?_eq_some_iff (x : Binary64) (k : Int) :
    x.toInt?.filter (isSigned 64) = some k ↔
      (x.isWhole = true ∧ lowest.le x = true ∧ x.lt bound = true) ∧ x.toInt64 = k := by
  rw [Option.filter_eq_some_iff, isSigned_64_iff]
  have hrange : ∀ m : Int, x.toInt? = some m →
      ((lowest.le x = true ↔ -2 ^ 63 ≤ m) ∧ (x.lt bound = true ↔ m < 2 ^ 63)) := by
    intro m hm
    have hx := (toInt?_eq_some_iff x m).1 hm
    rw [le_iff_of_rational? rational?_lowest hx, lt_iff_of_rational? hx rational?_bound,
      Int.cast_le, Int.cast_lt]
    exact ⟨Iff.rfl, Iff.rfl⟩
  constructor
  · rintro ⟨hk, hlow, hhigh⟩
    exact ⟨⟨x.isWhole_iff.2 ⟨k, hk⟩, (hrange k hk).1.2 hlow, (hrange k hk).2.2 hhigh⟩,
      toInt64_of_toInt? hk hlow hhigh⟩
  · rintro ⟨⟨hwhole, hlow, hhigh⟩, rfl⟩
    obtain ⟨m, hm⟩ := x.isWhole_iff.1 hwhole
    have hlow' := (hrange m hm).1.1 hlow
    have hhigh' := (hrange m hm).2.1 hhigh
    rw [toInt64_of_toInt? hm hlow' hhigh']
    exact ⟨hm, hlow', hhigh'⟩

end AdmissionRules.Binary64
