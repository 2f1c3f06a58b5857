import AdmissionRules.Json.Numeral

set_option autoImplicit false

/-! # Stability of versions

The versions of an API group are ranked by their names: stable versions such as `v2` come before
beta versions such as `v2beta1` and these before alpha versions; within one stability the greater
numbers come first. Names of another form come last, in the order of their texts. -/

namespace AdmissionRules

inductive Stability where
  | nonconformant
  | alpha
  | beta
  | stable
deriving DecidableEq

def Stability.rank : Stability → Nat
  | .nonconformant => 0
  | .alpha => 1
  | .beta => 2
  | .stable => 3

/-- What a version is ranked by. -/
structure VersionRank where
  stability : Stability
  major : Nat
  minor : Option Nat
  /-- The name of a version that has no numbers. -/
  name : String
deriving DecidableEq

namespace VersionRank

/-- A number of 32 bits. -/
def number? (cs : List Char) : Option Nat :=
  if cs.isEmpty || !cs.all Char.isDigit then none
  else
    let n := Json.Numeral.digitsValue cs
    if isUnsigned 32 n then some n else none

/-- The number behind a stability word, which may be absent and may have a plus sign. -/
def minor? : List Char → Option (Option Nat)
  | [] => some none
  | '+' :: cs => (number? cs).map some
  | cs => (number? cs).map some

/-- The text behind a word, if it begins with the word. -/
def afterWord? (word : String) (cs : List Char) : Option (List Char) :=
  if word.toList.isPrefixOf cs then some (cs.drop word.length) else none

/-- The rank of a version of the usual form. -/
def ofChars? : List Char → Option VersionRank
  | 'v' :: cs => do
    let major ← number? (cs.takeWhile Char.isDigit)
    let rest := cs.dropWhile Char.isDigit
    if rest.isEmpty then some { stability := .stable, major, minor := none, name := "" }
    else
      match afterWord? "alpha" rest, afterWord? "beta" rest with
      | some cs, _ => do some { stability := .alpha, major, minor := ← minor? cs, name := "" }
      | none, some cs => do some { stability := .beta, major, minor := ← minor? cs, name := "" }
      | none, none => none
  | _ => none

def ofText (s : String) : VersionRank :=
  match ofChars? s.toList with
  | some r => r
  | none => { stability := .nonconformant, major := 0, minor := none, name := s }

/-- A missing number counts less than any other. -/
def minorRank : Option Nat → Nat
  | none => 0
  | some n => n + 1

/-- Whether a version comes before another one. -/
def precedes (a b : VersionRank) : Bool :=
  if a.stability ≠ b.stability then b.stability.rank < a.stability.rank
  else if a.major ≠ b.major then b.major < a.major
  else if a.minor ≠ b.minor then minorRank b.minor < minorRank a.minor
  else a.name < b.name

/-- The first of the names that no other one comes before. -/
def best? : List String → Option String
  | [] => none
  | s :: rest =>
    match best? rest with
    | some t => if precedes (ofText t) (ofText s) then some t else some s
    | none => some s

end VersionRank

end AdmissionRules
