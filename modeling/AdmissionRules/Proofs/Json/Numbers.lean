import AdmissionRules.Proofs.Binary64.Rounding
import AdmissionRules.Proofs.Json.Reading

set_option autoImplicit false

/-! # Numbers of JSON texts

A numeral of a JSON text always stands for a number: neither rounding it nor scaling it by a power
of ten makes `nan` of it. So a walk through an object that was read from a text never comes to
`nan` (`Json.any_at?_ne_nan`). -/

namespace AdmissionRules

namespace Binary64

theorem ofUnits_ne_nan (negative : Bool) (u : Nat) : ofUnits negative u ≠ .nan := by
  unfold ofUnits
  by_cases h : Representable u
  · rw [dif_pos h]
    exact Binary64.noConfusion
  · rw [dif_neg h]
    exact Binary64.noConfusion

theorem ofInt_ne_nan (n : Int) : ofInt n ≠ .nan := by
  rw [ofInt, ofUnitRatio]
  exact ofUnits_ne_nan _ _

theorem neg_ne_nan {x : Binary64} (h : x ≠ .nan) : x.neg ≠ .nan := by
  cases x with
  | nan => exact absurd rfl h
  | infinite negative => exact Binary64.noConfusion
  | finite negative u hu => exact Binary64.noConfusion

/-- Dividing a number by a finite one other than zero gives a number. -/
theorem div_ne_nan {x y : Binary64} (hx : x ≠ .nan) (hy : y.isFinite = true)
    (hzero : y.position? ≠ some 0) : x.div y ≠ .nan := by
  cases y with
  | nan => cases hy
  | infinite negative => cases hy
  | finite negative v hv =>
      cases x with
      | nan => exact absurd rfl hx
      | infinite sign => exact Binary64.noConfusion
      | finite sign u hu =>
          have hne : v ≠ 0 := by
            rintro rfl
            exact hzero (by cases negative <;> rfl)
          rw [div, if_neg hne]
          exact ofUnits_ne_nan _ _

/-- A natural between one and a bound that is in range is in range when it is rounded. -/
theorem ofUnitRatio_spec {m bound : Nat} (hpos : 0 < m) (h : m ≤ bound)
    (hbound : roundUnits bound 1 < limit) :
    (ofUnitRatio false m 1).isFinite = true ∧ (ofUnitRatio false m 1).position? ≠ some 0 := by
  have hround : roundUnits m 1 < limit := (roundUnits_mono h).trans_lt hbound
  have hne : roundUnits m 1 ≠ 0 := by
    have := twoTo_log2_le_roundUnits hpos.ne'
    have := twoTo_pos m.log2
    omega
  have hrepresentable : Representable (roundUnits m 1) :=
    ⟨hround, Nat.mod_eq_zero_of_dvd (step_dvd_roundUnits m)⟩
  rw [ofUnitRatio, ofUnits, dif_pos hrepresentable]
  refine ⟨rfl, ?_⟩
  simp only [position?, Bool.false_eq_true, if_false, ne_eq, Option.some.injEq]
  omega

theorem ne_nan_of_isFinite {x : Binary64} (h : x.isFinite = true) : x ≠ .nan := by
  rintro rfl
  cases h

end Binary64

namespace Json

namespace Numeral

open Binary64 (ofInt_ne_nan div_ne_nan neg_ne_nan ne_nan_of_isFinite)

theorem tenTo_le_tenTo {m n : Nat} (h : m ≤ n) : tenTo m ≤ tenTo n :=
  Nat.pow_le_pow_right (by decide) h

/-- The powers of ten that numbers are divided by are in range, and not zero. -/
theorem ofDecimal_one {e : Int} (hlow : 0 ≤ e) (hhigh : e ≤ 308) :
    (Binary64.ofDecimal false 1 e).isFinite = true ∧
      (Binary64.ofDecimal false 1 e).position? ≠ some 0 := by
  have hlength : (Nat.toDigits 10 1).length = 1 := by decide
  have hdecimal : Binary64.ofDecimal false 1 e =
      .ofUnitRatio false (tenTo e.toNat * Binary64.one) 1 := by
    simp only [Binary64.ofDecimal, hlength, one_mul]
    rw [if_neg (by omega), if_neg (by omega), if_pos hlow]
  have hpower : tenTo e.toNat * Binary64.one ≤ tenTo 308 * Binary64.one :=
    Nat.mul_le_mul_right _ (tenTo_le_tenTo (by omega))
  rw [hdecimal]
  refine Binary64.ofUnitRatio_spec ?_ hpower ?_
  · exact Nat.mul_pos (Nat.pow_pos (by decide)) Binary64.one_pos
  · decide +kernel

theorem div_tenTo_ne_nan {x : Binary64} (hx : x ≠ .nan) {e : Int} (hlow : 0 ≤ e)
    (hhigh : e ≤ 308) : x.div (.ofDecimal false 1 e) ≠ .nan := by
  obtain ⟨hfinite, hzero⟩ := ofDecimal_one hlow hhigh
  exact div_ne_nan hx hfinite hzero

/-- One round of scaling makes no `nan`, if what is left to the next round makes none. -/
theorem ne_nan_of_scaled? {fuel : Nat} {x y : Binary64} {e : Int} (hx : x ≠ .nan)
    (h : scaled? fuel x e = some y)
    (hnext : ∀ fuel', fuel = fuel' + 1 →
      scaled? fuel' (x.div (.ofDecimal false 1 308)) (e + 308) = some y → y ≠ .nan) :
    y ≠ .nan := by
  rw [scaled?.eq_def] at h
  dsimp only at h
  split_ifs at h with hzero hlarge hnonneg hfinite hsmall
  · exact Option.some.inj h ▸ hx
  · exact Option.some.inj h ▸ ne_nan_of_isFinite hfinite
  · exact Option.some.inj h ▸ div_tenTo_ne_nan hx (by omega) (by omega)
  · cases fuel with
    | zero => exact Option.some.inj h ▸ Binary64.noConfusion
    | succ fuel' => exact hnext fuel' rfl h

/-- Scaling by a power of ten, in however many rounds, makes no `nan`. -/
theorem scaled?_ne_nan {fuel : Nat} {x y : Binary64} {e : Int} (hx : x ≠ .nan)
    (h : scaled? fuel x e = some y) : y ≠ .nan := by
  induction fuel generalizing x e with
  | zero => exact ne_nan_of_scaled? hx h fun fuel' hfuel => absurd hfuel (by omega)
  | succ fuel ih =>
      refine ne_nan_of_scaled? hx h fun fuel' hfuel hnext => ?_
      obtain rfl := Nat.succ.inj hfuel
      exact ih (div_tenTo_ne_nan hx (by decide) (by decide)) hnext

theorem real?_ne_nan (x : Numeral) : x.real? ≠ some .nan := by
  intro h
  rw [real?] at h
  obtain ⟨y, hy, hnan⟩ := Option.map_eq_some_iff.1 h
  have hne := scaled?_ne_nan (ofInt_ne_nan _) hy
  split at hnan
  · exact neg_ne_nan hne hnan
  · exact hne hnan

/-- A numeral stands for a number. -/
theorem value?_ne_nan (x : Numeral) : x.value? ≠ some (.real .nan) := by
  intro h
  unfold value? at h
  extract_lets n signed at h
  split at h
  · cases Option.some.inj h
  · obtain ⟨y, hy, hreal⟩ := Option.map_eq_some_iff.1 h
    exact x.real?_ne_nan (Number.real.inj hreal ▸ hy)

end Numeral

/-- A number comes from a numeral alone. -/
theorem any_eq_number {depth : Nat} {s : Source} {x : Number}
    (h : Reader.any depth s = .ok (.number x)) : ∃ n, s = .number n ∧ n.value? = some x := by
  cases s with
  | number n =>
      rw [Reader.any] at h
      split at h
      · rename_i value hvalue
        cases h
        exact ⟨n, rfl, hvalue⟩
      · cases h
  | string text => cases text <;> cases h
  | array items closed =>
      rw [Reader.any] at h
      split at h
      · obtain ⟨js, -, h⟩ := (bind_eq_ok_iff _ _ _).1 h
        split at h <;> cases h
      · cases h
  | object members closed =>
      rw [Reader.any] at h
      split at h
      · obtain ⟨ms, -, h⟩ := (bind_eq_ok_iff _ _ _).1 h
        split at h <;> cases h
      · cases h
  | _ => cases h

/-- **No walk leads to `nan`** in a value that was read from a text. -/
theorem any_at?_ne_nan {depth : Nat} {s : Source} {j : Json} (h : Reader.any depth s = .ok j)
    (path : List String) : j.at? path ≠ some (.number (.real .nan)) := by
  induction path generalizing depth s j with
  | nil =>
      intro hat
      obtain ⟨n, -, hn⟩ := any_eq_number (Option.some.inj hat ▸ h)
      exact n.value?_ne_nan hn
  | cons key path ih =>
      rw [at?_cons]
      have hmember := any_get? h key
      generalize s.member? key = source at hmember
      generalize j.get? key = member at hmember
      cases hmember with
      | none => simp
      | some hread => exact ih hread

end Json

end AdmissionRules
