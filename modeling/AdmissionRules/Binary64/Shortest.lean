import AdmissionRules.Binary64

set_option autoImplicit false

/-! # The shortest decimal of a number

`Binary64.shortest` selects, for a positive finite number, the decimal with the fewest digits
among those that round to the number, and of these the one nearest to it. The decimals that
round to a number with `u` units are those between the midpoints to its two neighbours, the
midpoints included when the significand is even. On the grid of multiples of a power of ten only
the two neighbours of the number have to be tried. -/

namespace AdmissionRules.Binary64

/-! ## The interval that rounds to a number -/

/-- Twice the distance to the midpoint below, in half units; a power of two has its neighbour
    below at half the usual distance. -/
def gapBelow (u : Nat) : Nat :=
  if u = twoTo u.log2 ∧ 52 < u.log2 then step u / 2 else step u

/-- Whether the quotient `n / d` units rounds to the number of `u` units. -/
def roundsTo (u n d : Nat) : Bool :=
  let low := (2 * u - gapBelow u) * d
  let high := (2 * u + step u) * d
  if (u / step u) % 2 = 0 then decide (low ≤ 2 * n) && decide (2 * n ≤ high)
  else decide (low < 2 * n) && decide (2 * n < high)

/-! ## Selection -/

/-- A positive decimal: `digits · 10^exponent`. -/
structure Decimal where
  digits : Nat
  exponent : Int
deriving DecidableEq, Repr

/-- The number of decimal digits before the point; below one it is zero or negative. -/
def scale (u : Nat) : Int :=
  ((Nat.toDigits 10 (u * tenTo 400 / one)).length : Int) - 400

/-- The neighbour of `u` units on the grid of multiples of `10^exponent` that rounds to it, the
    nearer one if both do; `tieUp` says which one wins a tie. -/
def onGrid? (tieUp : Bool) (u : Nat) (exponent : Int) : Option Nat :=
  let n := if exponent < 0 then u * tenTo (-exponent).toNat else u
  let d := if exponent < 0 then one else one * tenTo exponent.toNat
  let unscale := if exponent < 0 then tenTo (-exponent).toNat else 1
  let scaleUp := if exponent < 0 then one else one * tenTo exponent.toNat
  let q := n / d
  let hit (c : Nat) : Bool := roundsTo u (c * scaleUp) unscale
  let r := 2 * (n % d)
  let upFirst := decide (d < r) || (decide (r = d) && (tieUp || decide (q % 2 = 1)))
  if upFirst then (if hit (q + 1) then some (q + 1) else if hit q then some q else none)
  else (if hit q then some q else if hit (q + 1) then some (q + 1) else none)

/-- Trailing zeros of the digits moved into the exponent; `fuel` bounds their number. -/
def Decimal.strip : Nat → Decimal → Decimal
  | 0, x => x
  | fuel + 1, x =>
    if x.digits % 10 = 0 ∧ x.digits ≠ 0 then
      Decimal.strip fuel { digits := x.digits / 10, exponent := x.exponent + 1 }
    else x

/-- The first grid with a hit, trying `count`, `count + 1`, … digits up to `count + fuel`. -/
def search (tieUp : Bool) (u : Nat) (k : Int) : Nat → Nat → Option Decimal
  | 0, _ => none
  | fuel + 1, count =>
    match onGrid? tieUp u (k - count) with
    | some digits => some (Decimal.strip count { digits, exponent := k - count })
    | none => search tieUp u k fuel (count + 1)

/-- The shortest decimal that rounds to a positive number of `u` units. Seventeen digits always
    suffice; the last case is the exact value. -/
def shortest (tieUp : Bool) (u : Nat) : Decimal :=
  match search tieUp u (scale u) 17 1 with
  | some x => x
  | none => { digits := u * Nat.pow 5 1074, exponent := -1074 }

end AdmissionRules.Binary64
