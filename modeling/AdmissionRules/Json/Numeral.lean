import AdmissionRules.Json

set_option autoImplicit false

/-! # Numerals of JSON text

A numeral without fraction and exponent that fits 64 bits, signed when negative, is an integer.
Every other numeral is a binary64 number, computed in two rounded steps: the leading digits that
fit an unsigned 64-bit number are taken as a binary64 number, which is then multiplied or divided
by the binary64 number nearest to the power of ten. A result past the range is refused. -/

namespace AdmissionRules.Json

/-- The parts of a numeral as it is written; the exponent is present if it is written. -/
structure Numeral where
  negative : Bool
  whole : List Char
  fraction : List Char
  exponent : Option Int
deriving DecidableEq, Inhabited

namespace Numeral

def digitValue (c : Char) : Nat := c.toNat - '0'.toNat

/-- The natural that a list of digits denotes. -/
def digitsValue (cs : List Char) : Nat := cs.foldl (fun n c => 10 * n + digitValue c) 0

/-! ## Reading the parts -/

/-- The digits at the front and what follows them. -/
def digits (cs : List Char) : List Char × List Char :=
  (cs.takeWhile Char.isDigit, cs.dropWhile Char.isDigit)

/-- The fraction after a point; a point needs a digit after it. -/
def fraction? : List Char → Option (List Char × List Char)
  | '.' :: cs =>
    let (ds, rest) := digits cs
    if ds.isEmpty then none else some (ds, rest)
  | cs => some ([], cs)

/-- The digits of an exponent, of which there must be one. -/
def exponentDigits? (negative : Bool) (cs : List Char) : Option (Option Int × List Char) :=
  let (ds, rest) := digits cs
  if ds.isEmpty then none
  else
    let n : Int := digitsValue ds
    some (some (if negative then -n else n), rest)

def exponent? : List Char → Option (Option Int × List Char)
  | c :: cs =>
    if c = 'e' ∨ c = 'E' then
      match cs with
      | '+' :: rest => exponentDigits? false rest
      | '-' :: rest => exponentDigits? true rest
      | rest => exponentDigits? false rest
    else some (none, c :: cs)
  | [] => some (none, [])

/-- A numeral after its sign. A leading zero is followed by no digit. -/
def unsigned? (negative : Bool) (cs : List Char) : Option (Numeral × List Char) := do
  let (whole, rest) := digits cs
  if whole.isEmpty then none
  else if whole.head? = some '0' ∧ whole.length ≠ 1 then none
  else
    let (fraction, rest) ← fraction? rest
    let (exponent, rest) ← exponent? rest
    some ({ negative, whole, fraction, exponent }, rest)

/-- The numeral at the front of a text and what follows it. -/
def read? : List Char → Option (Numeral × List Char)
  | '-' :: cs => unsigned? true cs
  | cs => unsigned? false cs

/-! ## The number of a numeral -/

/-- The leading digits that fit an unsigned 64-bit number, and how many digits they are. -/
def leading : Nat → Nat → List Char → Nat × Nat
  | value, count, [] => (value, count)
  | value, count, c :: cs =>
    let next := 10 * value + digitValue c
    if isUnsigned 64 next then leading next (count + 1) cs else (value, count)

/-- `x` times `10^exponent`, in at most four rounded steps when the power of ten itself is out
    of range. There is no result past the range. -/
def scaled? : Nat → Binary64 → Int → Option Binary64
  | fuel, x, exponent =>
    if x.position? = some 0 then some x
    else if 308 < exponent then none
    else if 0 ≤ exponent then
      let y := x.mul (.ofDecimal false 1 exponent)
      if y.isFinite then some y else none
    else if -308 ≤ exponent then some (x.div (.ofDecimal false 1 (-exponent)))
    else
      match fuel with
      | 0 => some (.zero false)
      | fuel + 1 => scaled? fuel (x.div (.ofDecimal false 1 308)) (exponent + 308)

/-- The binary64 number of a numeral. Digits of the whole part that do not fit count into the
    exponent, digits of the fraction that do not fit are left out. -/
def real? (x : Numeral) : Option Binary64 :=
  let (wholeValue, wholeCount) := leading 0 0 x.whole
  let dropped : Int := x.whole.length - wholeCount
  let (value, fractionCount) := leading wholeValue 0 x.fraction
  let exponent : Int := dropped - fractionCount + x.exponent.getD 0
  (scaled? 3 (.ofInt value) exponent).map fun y => if x.negative then y.neg else y

/-- The number of a numeral; none if it is out of range. -/
def value? (x : Numeral) : Option Number :=
  let n : Int := digitsValue x.whole
  let signed := if x.negative then -n else n
  if x.fraction.isEmpty && x.exponent.isNone && fitsBits 64 signed && !(x.negative && n == 0) then
    some (.integer signed)
  else x.real?.map .real

end Numeral

end AdmissionRules.Json
