import AdmissionRules.Binary64.Shortest

set_option autoImplicit false

/-! # Decimals by cutting

`Binary64.cut` selects, for a positive finite number, a decimal that rounds to the number with the
arithmetic of words of 64 bits alone. The number and the midpoints to its two neighbours are
scaled by a power of ten, all with significands of 64 bits, and the scaled upper midpoint is cut
after as few digits as leave it above the lower one. A cut among the first places behind the
point is then lowered towards the number; one further behind stays as it is.

The result nearly always has as few digits as the shortest decimal. With sixteen or seventeen
digits it need not be the one nearest to the number. -/

namespace AdmissionRules.Binary64

/-! ## Significands of 64 bits -/

/-- A number `significand · 2^exponent` with a significand of 64 bits. -/
structure Wide where
  significand : Nat
  exponent : Int
deriving DecidableEq, Repr

namespace Wide

/-- The quotient `n / (d · 2^exponent)`, a half going up. -/
def quotientAt (n d : Nat) (exponent : Int) : Nat :=
  let n := if exponent < 0 then n * twoTo (-exponent).toNat else n
  let d := if exponent < 0 then d else d * twoTo exponent.toNat
  (2 * n + d) / (2 * d)

/-- The number nearest to the quotient of two positive numbers. -/
def ofQuotient (n d : Nat) : Wide :=
  let exponent : Int := (n.log2 : Int) - d.log2 - 63
  let significand := quotientAt n d exponent
  if twoTo 63 ≤ significand then { significand, exponent }
  else { significand := quotientAt n d (exponent - 1), exponent := exponent - 1 }

def powerOfTen (n : Int) : Wide :=
  if n < 0 then ofQuotient 1 (tenTo (-n).toNat) else ofQuotient (tenTo n.toNat) 1

/-- The upper word of the product of two significands, a half going up. -/
def upperWord (x y : Nat) : Nat := (x * y + twoTo 63) / twoTo 64

end Wide

/-! ## Scaling -/

/-- The exponent of the power of ten that scales a number of `u` units; with it the scaled
    numbers have between 4 and 32 bits before the point. -/
def scaleExponent (u : Nat) : Int :=
  let digits : Int := -((((u.log2 : Int) - 1076) * 30103) / 100000)
  8 * ((digits + 347) / 8 + 1) - 348

/-- A number and a narrowed interval around it that rounds to it, counted in parts of which
    `point` make one. -/
structure ScaledInterval where
  number : Nat
  lower : Nat
  upper : Nat
  point : Nat
deriving DecidableEq, Repr

/-- `q` quarters of a unit as a significand next to that of `u` units. -/
def significandNextTo (u q : Nat) : Nat :=
  if u.log2 ≤ 61 then q * twoTo (61 - u.log2) else q / twoTo (u.log2 - 61)

/-- The scaled interval of a number of `u` units. The distance to the neighbour below a power of
    two counts half. -/
def scaledInterval (u : Nat) : ScaledInterval :=
  let power := Wide.powerOfTen (scaleExponent u)
  let below := if u = twoTo u.log2 ∧ 52 ≤ u.log2 then step u else 2 * step u
  let scaled (q : Nat) : Nat := Wide.upperWord (significandNextTo u q) power.significand
  { number := scaled (4 * u)
    lower := scaled (4 * u - below) + 1
    upper := scaled (4 * u + 2 * step u) - 1
    point := twoTo (1073 - (u.log2 : Int) - power.exponent).toNat }

/-! ## Cutting -/

/-- A cut lowered place by place towards a number `gap` below the end that was cut, but not past
    the interval, which reaches `width` below it. The cut itself lies `rest` below the end, and
    `place` is the worth of a place. -/
def lowered (digits rest place width gap : Nat) : Nat :=
  digits - min ((2 * (gap - rest) + place - 1) / (2 * place)) ((width - rest) / place)

namespace ScaledInterval

/-- A cut after one of the last `n` places before the point. -/
def cutBeforePoint? (i : ScaledInterval) : Nat → Option Decimal
  | 0 => none
  | n + 1 =>
    let place := tenTo n * i.point
    let rest := i.upper % place
    if rest ≤ i.upper - i.lower then
      some { digits := lowered (i.upper / place) rest place (i.upper - i.lower) (i.upper - i.number)
             exponent := n }
    else cutBeforePoint? i n

/-- A cut `n` places behind the point, or further behind. -/
def cutBehindPoint (i : ScaledInterval) : Nat → Nat → Decimal
  | 0, n => { digits := i.upper * tenTo n / i.point, exponent := -n }
  | fuel + 1, n =>
    let upper := i.upper * tenTo n
    let rest := upper % i.point
    let width := (i.upper - i.lower) * tenTo n
    if rest < width then
      let gap := if n < 9 then (i.upper - i.number) * tenTo n else 0
      { digits := lowered (upper / i.point) rest i.point width gap, exponent := -n }
    else cutBehindPoint i fuel (n + 1)

/-- The first cut that stays in the interval. -/
def cut (i : ScaledInterval) : Decimal :=
  match i.cutBeforePoint? (Nat.toDigits 10 (i.upper / i.point)).length with
  | some x => x
  | none => i.cutBehindPoint 20 1

end ScaledInterval

/-- The decimal of a positive number of `u` units found by cutting. -/
def cut (u : Nat) : Decimal :=
  let x := (scaledInterval u).cut
  { x with exponent := x.exponent - scaleExponent u }

end AdmissionRules.Binary64
