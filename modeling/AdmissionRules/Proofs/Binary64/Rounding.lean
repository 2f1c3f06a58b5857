import AdmissionRules.Proofs.Binary64.Exact

set_option autoImplicit false

/-! # Integers as binary64 numbers

Where the grid of numbers gets coarser, at the powers of two, the power itself is on the grid below
and on the grid above. So rounding does not cross it from either side, and rounding to the nearest
number keeps the order of the integers (`ofInt_le_ofInt`), although it may make different integers
equal. What is on the grid stays where it is, as every integer up to `2⁵³` does
(`rational?_ofInt`). -/

namespace AdmissionRules.Binary64

/-! ## Halves -/

theorem divHalfEven_mul (k : Nat) {d : Nat} (hd : 0 < d) : divHalfEven (k * d) d = k := by
  unfold divHalfEven
  simp [Nat.mul_div_cancel _ hd, hd]

theorem divHalfEven_le_succ (n d : Nat) : divHalfEven n d ≤ n / d + 1 := by
  unfold divHalfEven
  simp only
  split_ifs <;> omega

theorem divHalfEven_mono {m n : Nat} (h : m ≤ n) (d : Nat) :
    divHalfEven m d ≤ divHalfEven n d := by
  rcases (Nat.div_le_div_right h : m / d ≤ n / d).lt_or_eq with hlt | heq
  · calc divHalfEven m d ≤ m / d + 1 := divHalfEven_le_succ m d
      _ ≤ n / d := hlt
      _ ≤ divHalfEven n d := div_le_divHalfEven n d
  · have hrest : m % d ≤ n % d := by
      have hm := Nat.div_add_mod m d
      have hn := Nat.div_add_mod n d
      rw [heq] at hm
      omega
    unfold divHalfEven
    rw [heq]
    simp only
    split_ifs <;> omega

/-! ## The grid -/

theorem step_pos (u : Nat) : 0 < step u := twoTo_pos _

theorem twoTo_le_twoTo {d e : Nat} (h : d ≤ e) : twoTo d ≤ twoTo e :=
  Nat.pow_le_pow_right two_pos h

theorem twoTo_lt_twoTo {d e : Nat} (h : d < e) : twoTo d < twoTo e :=
  Nat.pow_lt_pow_right (by decide) h

theorem log2_twoTo (e : Nat) : (twoTo e).log2 = e := Nat.log2_two_pow

theorem log2_le_log2 {m n : Nat} (h : m ≤ n) : m.log2 ≤ n.log2 := by
  by_cases hm : m = 0
  · rw [hm]
    exact Nat.zero_le _
  · have hn : n ≠ 0 := by omega
    exact (Nat.le_log2 hn).2 ((Nat.log2_self_le hm).trans h)

theorem step_dvd_step {m n : Nat} (h : m.log2 ≤ n.log2) : step m ∣ step n :=
  Nat.pow_dvd_pow 2 (Nat.sub_le_sub_right h 52)

theorem step_dvd_twoTo {m e : Nat} (h : m.log2 ≤ e) : step m ∣ twoTo e :=
  (step_dvd_twoTo_log2 m).trans (Nat.pow_dvd_pow 2 h)

theorem roundUnits_one (m : Nat) : roundUnits m 1 = divHalfEven m (step m) * step m := by
  rw [roundUnits, Nat.div_one, Nat.one_mul]

/-- What is on the grid is not moved. -/
theorem roundUnits_of_dvd {u : Nat} (h : step u ∣ u) : roundUnits u 1 = u := by
  have hround := divHalfEven_mul (u / step u) (step_pos u)
  rw [Nat.div_mul_cancel h] at hround
  rw [roundUnits_one, hround, Nat.div_mul_cancel h]

/-- Rounding does not cross the next power of two. -/
theorem roundUnits_le_twoTo (m : Nat) : roundUnits m 1 ≤ twoTo (m.log2 + 1) := by
  have hbelow : m ≤ twoTo (m.log2 + 1) := Nat.le_of_lt Nat.lt_log2_self
  have hgrid : twoTo (m.log2 + 1) / step m * step m = twoTo (m.log2 + 1) :=
    Nat.div_mul_cancel (step_dvd_twoTo (Nat.le_succ m.log2))
  calc roundUnits m 1 = divHalfEven m (step m) * step m := roundUnits_one m
    _ ≤ divHalfEven (twoTo (m.log2 + 1)) (step m) * step m :=
      Nat.mul_le_mul_right _ (divHalfEven_mono hbelow _)
    _ = twoTo (m.log2 + 1) := by
      rw [← hgrid, divHalfEven_mul _ (step_pos m), hgrid]

/-- **Rounding keeps the order**, also from one grid to a coarser one. -/
theorem roundUnits_mono : Monotone fun m => roundUnits m 1 := by
  intro m n h
  show roundUnits m 1 ≤ roundUnits n 1
  rcases Nat.lt_or_ge m.log2 n.log2 with hlog | hlog
  · have hn : n ≠ 0 := by
      rintro rfl
      exact absurd hlog (Nat.not_lt_zero _)
    calc roundUnits m 1 ≤ twoTo (m.log2 + 1) := roundUnits_le_twoTo m
      _ ≤ twoTo n.log2 := twoTo_le_twoTo hlog
      _ ≤ roundUnits n 1 := twoTo_log2_le_roundUnits hn
  · have hstep : step m = step n :=
      Nat.dvd_antisymm (step_dvd_step (log2_le_log2 h)) (step_dvd_step hlog)
    rw [roundUnits_one, roundUnits_one, hstep]
    exact Nat.mul_le_mul_right _ (divHalfEven_mono h _)

/-- What is rounded is on the grid. -/
theorem step_dvd_roundUnits (m : Nat) : step (roundUnits m 1) ∣ roundUnits m 1 := by
  rcases (roundUnits_le_twoTo m).lt_or_eq with hlt | heq
  · by_cases hzero : roundUnits m 1 = 0
    · rw [hzero]
      exact Nat.dvd_zero _
    · have hlog : (roundUnits m 1).log2 ≤ m.log2 :=
        Nat.le_of_lt_succ ((Nat.log2_lt hzero).2 hlt)
      refine (step_dvd_step hlog).trans ?_
      rw [roundUnits_one]
      exact Nat.dvd_mul_left _ _
  · rw [heq]
    exact step_dvd_twoTo (Nat.le_of_eq (log2_twoTo _))

/-! ## Order -/

/-- A signed function of the magnitude keeps the order of the integers if it keeps that of the
    magnitudes. -/
theorem signed_mono {f : Nat → Nat} (hf : Monotone f) {m n : Int} (h : m ≤ n) :
    signed (decide (m < 0)) (f m.natAbs) ≤ signed (decide (n < 0)) (f n.natAbs) := by
  by_cases hm : m < 0
  · by_cases hn : n < 0
    · have := hf (show n.natAbs ≤ m.natAbs by omega)
      simp only [hm, hn, decide_true, signed, if_true]
      omega
    · simp only [hm, hn, decide_true, decide_false, signed, if_true, Bool.false_eq_true, if_false]
      omega
  · have hn : ¬ n < 0 := by omega
    have := hf (show m.natAbs ≤ n.natAbs by omega)
    simp only [hm, hn, decide_false, signed, Bool.false_eq_true, if_false]
    omega

theorem position?_ofUnits (negative : Bool) {u : Nat} (h : step u ∣ u) :
    (ofUnits negative u).position? = some (signed negative (min u limit)) := by
  unfold ofUnits
  by_cases hu : Representable u
  · rw [dif_pos hu, Nat.min_eq_left hu.1.le, position?, signed]
  · have hlimit : limit ≤ u :=
      Nat.le_of_not_lt fun hlt => hu ⟨hlt, Nat.mod_eq_zero_of_dvd h⟩
    rw [dif_neg hu, Nat.min_eq_right hlimit, position?, signed]

/-- The units of a natural that is rounded; an infinity stands where all finite numbers end. -/
def roundedUnits (k : Nat) : Nat := min (roundUnits (k * one) 1) limit

theorem roundedUnits_mono : Monotone roundedUnits := by
  intro m n h
  have hunits : m * one ≤ n * one := Nat.mul_le_mul_right one h
  unfold roundedUnits
  exact min_le_min_right limit (roundUnits_mono hunits)

theorem position?_ofInt (n : Int) :
    (ofInt n).position? = some (signed (decide (n < 0)) (roundedUnits n.natAbs)) := by
  rw [ofInt, ofUnitRatio, position?_ofUnits _ (step_dvd_roundUnits _), roundedUnits]

theorem related_of_position? {x y : Binary64} {a b : Int} (hx : x.position? = some a)
    (hy : y.position? = some b) (r : Int → Int → Bool) : related r x y = r a b := by
  rw [related, hx, hy]

/-- **Rounding keeps the order of the integers.** -/
theorem ofInt_le_ofInt {m n : Int} (h : m ≤ n) : (ofInt m).le (ofInt n) = true := by
  rw [le, related_of_position? (position?_ofInt m) (position?_ofInt n), decide_eq_true_iff]
  exact signed_mono roundedUnits_mono h

theorem ofInt_eqv_self (n : Int) : (ofInt n).eqv (ofInt n) = true := by
  rw [eqv, related_of_position? (position?_ofInt n) (position?_ofInt n), decide_eq_true_iff]

/-- Integers that are rounded to numbers in order are in order. -/
theorem lt_of_ofInt_lt {m n : Int} (h : (ofInt m).lt (ofInt n) = true) : m < n := by
  rw [lt, related_of_position? (position?_ofInt m) (position?_ofInt n), decide_eq_true_iff] at h
  by_contra hle
  exact absurd (signed_mono roundedUnits_mono (Int.not_lt.1 hle)) (Int.not_le.2 h)

/-! ## Integers that are numbers -/

/-- On the grid are the multiples of a power of two by at most `2⁵³`. -/
theorem step_dvd_mul_twoTo {k : Nat} (hk : k ≤ 2 ^ 53) (e : Nat) :
    step (k * twoTo e) ∣ k * twoTo e := by
  rcases hk.lt_or_eq with hlt | rfl
  · by_cases hzero : k * twoTo e = 0
    · rw [hzero]
      exact Nat.dvd_zero _
    · have hbelow : k * twoTo e < 2 ^ (53 + e) := by
        rw [Nat.pow_add]
        exact Nat.mul_lt_mul_of_pos_right hlt (twoTo_pos e)
      have hlog : (k * twoTo e).log2 < 53 + e := (Nat.log2_lt hzero).2 hbelow
      have hstep : step (k * twoTo e) ∣ twoTo e := Nat.pow_dvd_pow 2 (by omega)
      exact hstep.mul_left k
  · have hpower : 2 ^ 53 * twoTo e = twoTo (53 + e) := (twoTo_add 53 e).symm
    rw [hpower]
    exact step_dvd_twoTo (Nat.le_of_eq (log2_twoTo _))

theorem representable_mul_twoTo {k : Nat} (hk : k ≤ 2 ^ 53) {e : Nat} (he : 53 + e < 2098) :
    Representable (k * twoTo e) := by
  have hbelow : k * twoTo e ≤ twoTo (53 + e) := by
    rw [twoTo_add]
    exact Nat.mul_le_mul_right _ hk
  have hlimit : twoTo (53 + e) < limit := by
    rw [limit]
    exact twoTo_lt_twoTo he
  exact ⟨hbelow.trans_lt hlimit, Nat.mod_eq_zero_of_dvd (step_dvd_mul_twoTo hk e)⟩

/-- **Integers up to `2⁵³` are numbers themselves.** -/
theorem rational?_ofInt {n : Int} (h : n.natAbs ≤ 2 ^ 53) : (ofInt n).rational? = some (n : ℚ) := by
  have hrepresentable : Representable (n.natAbs * one) := by
    rw [one]
    exact representable_mul_twoTo h (by decide)
  have hround : roundUnits (n.natAbs * one) 1 = n.natAbs * one :=
    roundUnits_of_dvd (Nat.dvd_of_mod_eq_zero hrepresentable.2)
  have hsign : signed (decide (n < 0)) n.natAbs = n := by
    by_cases hn : n < 0
    · simp only [hn, decide_true, signed, if_true]
      omega
    · simp only [hn, decide_false, signed, Bool.false_eq_true, if_false]
      omega
  rw [ofInt, ofUnitRatio, hround, ofUnits, dif_pos hrepresentable, rational?_finite_eq_iff,
    signed_mul, hsign]

theorem eqv_iff_of_rational? {x y : Binary64} {a b : ℚ} (hx : x.rational? = some a)
    (hy : y.rational? = some b) : x.eqv y = true ↔ a = b := by
  obtain ⟨m, n, rfl, rfl, heqv⟩ := related_of_rational? hx hy fun a b => decide (a = b)
  rw [eqv, heqv, decide_eq_true_iff, div_left_inj' unit_pos.ne', Int.cast_inj]

end AdmissionRules.Binary64
