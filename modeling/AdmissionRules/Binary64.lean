import AdmissionRules.Word

set_option autoImplicit false

/-! # Binary floating-point numbers of 64 bits

A finite number is a signed count of *units*, one unit being `2⁻¹⁰⁷⁴`, the distance between the
smallest numbers of the format. A count is representable when it needs at most 53 significant
bits and stays below `2²⁰⁹⁸` units, that is below `2¹⁰²⁴`. Counting in units makes the order of
the finite numbers the order of the integers, and makes rounding a division of naturals.

Arithmetic is exact arithmetic on counts followed by one rounding to nearest, a half going to
the even neighbour. -/

namespace AdmissionRules

/-! ## The numbers -/

/-- One is this many units. -/
def Binary64.one : Nat := twoTo 1074

/-- Every finite magnitude is below this many units. -/
def Binary64.limit : Nat := twoTo 2098

/-- The distance of neighbouring numbers whose count of units has the size of `u`. -/
def Binary64.step (u : Nat) : Nat := twoTo (u.log2 - 52)

/-- A count of units that is the magnitude of a number. -/
def Binary64.Representable (u : Nat) : Prop := u < limit ∧ u % step u = 0

instance (u : Nat) : Decidable (Binary64.Representable u) :=
  inferInstanceAs (Decidable (_ ∧ _))

/-- A number, an infinity, or no number. -/
inductive Binary64 where
  | nan
  | infinite (negative : Bool)
  | finite (negative : Bool) (units : Nat) (representable : Binary64.Representable units)
deriving DecidableEq

namespace Binary64

theorem limit_pos : 0 < limit := twoTo_pos _

theorem representable_zero : Representable 0 := ⟨limit_pos, Nat.zero_mod (step 0)⟩

/-- The zero of the given sign. -/
def zero (negative : Bool) : Binary64 := .finite negative 0 representable_zero

instance : Inhabited Binary64 := ⟨zero false⟩

/-! ## Rounding -/

/-- The natural nearest to `n / d`; of two equally near the even one. -/
def divHalfEven (n d : Nat) : Nat :=
  let q := n / d
  let r := n % d
  if 2 * r < d then q
  else if d < 2 * r then q + 1
  else if q % 2 = 0 then q else q + 1

/-- The count of units on the grid of numbers nearest to `n / d` units. -/
def roundUnits (n d : Nat) : Nat :=
  let s := step (n / d)
  divHalfEven n (d * s) * s

/-- The number of the given sign with exactly `u` units, an infinity past the range. -/
def ofUnits (negative : Bool) (u : Nat) : Binary64 :=
  if h : Representable u then .finite negative u h else .infinite negative

/-- The number nearest to `n / d` units. -/
def ofUnitRatio (negative : Bool) (n d : Nat) : Binary64 :=
  ofUnits negative (roundUnits n d)

/-- The number nearest to an integer. -/
def ofInt (n : Int) : Binary64 :=
  ofUnitRatio (n < 0) (n.natAbs * one) 1

/-- The number nearest to `digits · 10^exponent`. Beyond the given bounds on the size of the
    decimal the result is an infinity or a zero, and the power of ten is not computed. -/
def ofDecimal (negative : Bool) (digits : Nat) (exponent : Int) : Binary64 :=
  let size : Int := (Nat.toDigits 10 digits).length + exponent
  if digits = 0 ∨ size < -330 then zero negative
  else if 310 < size then .infinite negative
  else if 0 ≤ exponent then ofUnitRatio negative (digits * tenTo exponent.toNat * one) 1
  else ofUnitRatio negative (digits * one) (tenTo (-exponent).toNat)

/-! ## Order -/

/-- The signed count of units, the infinities standing past every finite number. There is none
    for `nan`. -/
def position? : Binary64 → Option Int
  | .nan => none
  | .infinite negative => some (if negative then -(limit : Int) else limit)
  | .finite negative u _ => some (if negative then -(u : Int) else u)

/-- Whether both are numbers and stand in the relation `r`. -/
def related (r : Int → Int → Bool) (x y : Binary64) : Bool :=
  match x.position?, y.position? with
  | some a, some b => r a b
  | _, _ => false

/-- Equality of numbers: the zeros are equal, and `nan` equals nothing. -/
def eqv (x y : Binary64) : Bool := related (fun a b => decide (a = b)) x y

def lt (x y : Binary64) : Bool := related (fun a b => decide (a < b)) x y

def le (x y : Binary64) : Bool := related (fun a b => decide (a ≤ b)) x y

/-! ## Arithmetic -/

/-- Whether the sign is negative; `nan` has none. -/
def isNegative : Binary64 → Bool
  | .nan => false
  | .infinite negative => negative
  | .finite negative _ _ => negative

def isFinite : Binary64 → Bool
  | .finite _ _ _ => true
  | _ => false

def neg : Binary64 → Binary64
  | .nan => .nan
  | .infinite negative => .infinite !negative
  | .finite negative u h => .finite (!negative) u h

def add : Binary64 → Binary64 → Binary64
  | .nan, _ => .nan
  | _, .nan => .nan
  | .infinite a, .infinite b => if a = b then .infinite a else .nan
  | .infinite a, .finite _ _ _ => .infinite a
  | .finite _ _ _, .infinite b => .infinite b
  | .finite a u _, .finite b v _ =>
    if a = b then ofUnitRatio a (u + v) 1
    else if u = v then zero false
    else if u < v then ofUnitRatio b (v - u) 1
    else ofUnitRatio a (u - v) 1

/-- The product of two finite magnitudes, rounded. -/
def mul : Binary64 → Binary64 → Binary64
  | .finite a u _, .finite b v _ => ofUnitRatio (a != b) (u * v) one
  | .nan, _ => .nan
  | _, .nan => .nan
  | x, y =>
    if x.position? = some 0 ∨ y.position? = some 0 then .nan
    else .infinite (x.isNegative != y.isNegative)

/-- The quotient of two finite numbers, the second not zero, rounded. -/
def div : Binary64 → Binary64 → Binary64
  | .finite a u _, .finite b v _ =>
    if v = 0 then (if u = 0 then .nan else .infinite (a != b))
    else ofUnitRatio (a != b) (u * one) v
  | .nan, _ => .nan
  | _, .nan => .nan
  | .infinite _, .infinite _ => .nan
  | .infinite a, .finite b _ _ => .infinite (a != b)
  | .finite a _ _, .infinite b => zero (a != b)

/-! ## Whole numbers -/

/-- The integer that a number is, if it is one. -/
def toInt? : Binary64 → Option Int
  | .finite negative u _ =>
    if u % one = 0 then some (if negative then -((u / one : Nat) : Int) else (u / one : Nat))
    else none
  | _ => none

end Binary64

end AdmissionRules
