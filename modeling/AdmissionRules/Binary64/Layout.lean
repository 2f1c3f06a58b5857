import AdmissionRules.Binary64.Shortest

set_option autoImplicit false

/-! # Decimal text of numbers

A `Layout` holds the choices that a text format makes about the decimals it writes: which
exponents are written out with zeros, whether a whole number shows a point, how an exponent
looks, and which of the decimals that round to a number is written. -/

namespace AdmissionRules.Binary64

/-- How decimals are written. A decimal `0.d₁d₂… · 10^k` is written without an exponent when
    `lowest ≤ k ≤ highest`; no bound means that every exponent is written out. -/
structure Layout where
  /-- Bounds on `k` for positional writing. -/
  lowest : Option Int
  highest : Option Int
  /-- Whether a whole number ends in `.0`. -/
  wholeMark : Bool
  /-- Whether a positive exponent carries a plus sign. -/
  plusSign : Bool
  /-- The decimal of a positive number of units. -/
  select : Nat → Decimal

private def zeros (n : Nat) : String := String.ofList (List.replicate n '0')

/-- Digits with the point after the first `k`, padded with zeros on either side. -/
def positional (wholeMark : Bool) (digits : List Char) (k : Int) : String :=
  if k ≤ 0 then "0." ++ zeros (-k).toNat ++ String.ofList digits
  else if digits.length ≤ k.toNat then
    String.ofList digits ++ zeros (k.toNat - digits.length) ++ (if wholeMark then ".0" else "")
  else String.ofList (digits.take k.toNat) ++ "." ++ String.ofList (digits.drop k.toNat)

/-- Digits with the point after the first one and an exponent. -/
def scientific (plusSign : Bool) (digits : List Char) (k : Int) : String :=
  let e := k - 1
  let sign := if e < 0 then "-" else if plusSign then "+" else ""
  let fraction := String.ofList (digits.drop 1)
  String.ofList (digits.take 1) ++ (if fraction.isEmpty then "" else "." ++ fraction)
    ++ "e" ++ sign ++ toString e.natAbs

/-- The text of a positive decimal. -/
def Decimal.render (layout : Layout) (x : Decimal) : String :=
  let digits := Nat.toDigits 10 x.digits
  let k : Int := digits.length + x.exponent
  let above := match layout.lowest with | some low => decide (low ≤ k) | none => true
  let below := match layout.highest with | some high => decide (k ≤ high) | none => true
  if above && below then positional layout.wholeMark digits k
  else scientific layout.plusSign digits k

/-- The text of a number. -/
def render (layout : Layout) : Binary64 → String
  | .nan => "NaN"
  | .infinite negative => if negative then "-inf" else "inf"
  | .finite negative u _ =>
    (if negative then "-" else "") ++
      (if u = 0 then (if layout.wholeMark then "0.0" else "0")
       else (layout.select u).render layout)

end AdmissionRules.Binary64
