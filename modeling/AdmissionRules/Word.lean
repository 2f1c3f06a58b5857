set_option autoImplicit false

/-! # Words

The ranges of integers that a number of bits holds, with a sign and without one. -/

namespace AdmissionRules

/-- The power of two. -/
def twoTo (n : Nat) : Nat := Nat.pow 2 n

theorem twoTo_pos (n : Nat) : 0 < twoTo n := Nat.two_pow_pos n

/-- The power of ten. -/
def tenTo (n : Nat) : Nat := Nat.pow 10 n

/-- Whether `bits` bits hold an integer, one bit telling its sign. -/
def isSigned (bits : Nat) (n : Int) : Bool :=
  decide (-(twoTo (bits - 1) : Int) ≤ n) && decide (n < (twoTo (bits - 1) : Int))

theorem isSigned_iff (bits : Nat) (n : Int) :
    isSigned bits n = true ↔
      -(twoTo (bits - 1) : Int) ≤ n ∧ n < (twoTo (bits - 1) : Int) := by
  simp [isSigned]

/-- Whether `bits` bits hold an integer without a sign. -/
def isUnsigned (bits : Nat) (n : Int) : Bool := decide (0 ≤ n) && decide (n < (twoTo bits : Int))

/-- Whether `bits` bits hold an integer, with a sign or without one. -/
def fitsBits (bits : Nat) (n : Int) : Bool := isSigned bits n || isUnsigned bits n

end AdmissionRules
