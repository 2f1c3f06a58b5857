import AdmissionRules.Json.Numeral

set_option autoImplicit false

/-! # JSON text

`Source` is what stands in a JSON text: members of an object in the order written, repeated ones
included, strings and numerals not yet checked for a value. A text that is no JSON has a source
too: it holds everything up to the first fault, where `broken` stands or an array or object is
left open. An object that does not begin with a string is `unkeyed`. A reader that walks a source
in order therefore meets the faults of the text and values that do not fit in the order in which
they stand in the text. -/

namespace AdmissionRules.Json

/-- A string as written: its characters, if every escape in it names one. -/
abbrev StringText := Option String

inductive Source where
  | null
  | bool (b : Bool)
  | number (n : Numeral)
  | string (s : StringText)
  | array (items : List Source) (closed : Bool)
  | object (members : List (StringText × Source)) (closed : Bool)
  /-- An object with the given value where its first key should be. -/
  | unkeyed (s : Source)
  | broken
deriving Inhabited

namespace Source

/-! ## Lexical parts -/

def isBlank (c : Char) : Bool := c = ' ' || c = '\n' || c = '\t' || c = '\r'

def skipBlank (cs : List Char) : List Char := cs.dropWhile isBlank

/-- The value of a hexadecimal digit. -/
def hexDigit? (c : Char) : Option Nat :=
  if '0' ≤ c ∧ c ≤ '9' then some (c.toNat - '0'.toNat)
  else if 'a' ≤ c ∧ c ≤ 'f' then some (c.toNat - 'a'.toNat + 10)
  else if 'A' ≤ c ∧ c ≤ 'F' then some (c.toNat - 'A'.toNat + 10)
  else none

/-- The number of four hexadecimal digits. -/
def hex4? (a b c d : Char) : Option Nat := do
  let a ← hexDigit? a
  let b ← hexDigit? b
  let c ← hexDigit? c
  let d ← hexDigit? d
  some (((a * 16 + b) * 16 + c) * 16 + d)

/-- The character of an escape letter. -/
def escapeLetter? (c : Char) : Option Char :=
  match c with
  | '"' => some '"'
  | '\\' => some '\\'
  | '/' => some '/'
  | 'b' => some '\x08'
  | 'f' => some '\x0c'
  | 'n' => some '\n'
  | 'r' => some '\r'
  | 't' => some '\t'
  | _ => none

/-- A unit of a string: a character, or half of a surrogate pair. -/
inductive Unit16 where
  | char (c : Char)
  | high (n : Nat)
  | low (n : Nat)

def unit16 (n : Nat) : Unit16 :=
  if 0xD800 ≤ n ∧ n < 0xDC00 then .high n
  else if 0xDC00 ≤ n ∧ n < 0xE000 then .low n
  else .char (Char.ofNat n)

/-- The characters of a list of units; none if a surrogate stands alone. -/
def joinUnits : List Unit16 → Option (List Char)
  | [] => some []
  | .char c :: rest => (joinUnits rest).map (c :: ·)
  | .high h :: .low l :: rest =>
    (joinUnits rest).map (Char.ofNat (0x10000 + (h - 0xD800) * 0x400 + (l - 0xDC00)) :: ·)
  | .high _ :: _ => none
  | .low _ :: _ => none

/-- The units of a string after its opening quote, and what follows the closing one. There is
    none for a raw control character, an unknown escape or an end inside the string. -/
def stringUnits? : List Char → Option (List Unit16 × List Char)
  | [] => none
  | '"' :: rest => some ([], rest)
  | '\\' :: 'u' :: a :: b :: c :: d :: rest => do
    let n ← hex4? a b c d
    let (units, rest) ← stringUnits? rest
    some (unit16 n :: units, rest)
  | '\\' :: e :: rest => do
    let c ← escapeLetter? e
    let (units, rest) ← stringUnits? rest
    some (.char c :: units, rest)
  | c :: rest => do
    if c.toNat < 0x20 ∨ c = '\\' then none
    else
      let (units, rest) ← stringUnits? rest
      some (.char c :: units, rest)

/-- The string after an opening quote and what follows it. -/
def string? (cs : List Char) : Option (StringText × List Char) :=
  (stringUnits? cs).map fun (units, rest) => ((joinUnits units).map String.ofList, rest)

/-! ## Values

The functions take fuel that the length of the text bounds, as each of them reads a character
before it calls another. A text that is broken leaves nothing to read. -/

mutual

/-- The value at the front of a text, after blanks, and what follows it. -/
def value : Nat → List Char → Source × List Char
  | 0, _ => (.broken, [])
  | fuel + 1, cs =>
    match skipBlank cs with
    | '\x7b' :: rest =>
      match skipBlank rest with
      | '\x7d' :: rest => (.object [] true, rest)
      | '"' :: rest =>
        let (members, closed, rest) := members fuel ('"' :: rest)
        (.object members closed, rest)
      | rest => (.unkeyed (value fuel rest).1, [])
    | '[' :: rest =>
      match skipBlank rest with
      | ']' :: rest => (.array [] true, rest)
      | rest =>
        let (items, closed, rest) := items fuel rest
        (.array items closed, rest)
    | '"' :: rest =>
      match string? rest with
      | some (s, rest) => (.string s, rest)
      | none => (.broken, [])
    | 'n' :: 'u' :: 'l' :: 'l' :: rest => (.null, rest)
    | 't' :: 'r' :: 'u' :: 'e' :: rest => (.bool true, rest)
    | 'f' :: 'a' :: 'l' :: 's' :: 'e' :: rest => (.bool false, rest)
    | rest =>
      match Numeral.read? rest with
      | some (n, rest) => (.number n, rest)
      | none => (.broken, [])

/-- The items from one on, whether the array is closed, and what follows it. -/
def items : Nat → List Char → List Source × Bool × List Char
  | 0, _ => ([], false, [])
  | fuel + 1, cs =>
    let (item, rest) := value fuel cs
    match skipBlank rest with
    | ']' :: rest => ([item], true, rest)
    | ',' :: rest =>
      let (more, closed, rest) := items fuel rest
      (item :: more, closed, rest)
    | _ => ([item], false, [])

/-- The members from one on, whether the object is closed, and what follows it. -/
def members : Nat → List Char → List (StringText × Source) × Bool × List Char
  | 0, _ => ([], false, [])
  | fuel + 1, cs =>
    match skipBlank cs with
    | '"' :: rest =>
      match string? rest with
      | none => ([], false, [])
      | some (key, rest) =>
        match skipBlank rest with
        | ':' :: rest =>
          let (member, rest) := value fuel rest
          match skipBlank rest with
          | '\x7d' :: rest => ([(key, member)], true, rest)
          | ',' :: rest =>
            let (more, closed, rest) := members fuel rest
            ((key, member) :: more, closed, rest)
          | _ => ([(key, member)], false, [])
        | _ => ([(key, .broken)], false, [])
    | _ => ([], false, [])

end

/-- The source of a text, and whether only blanks follow the value. -/
def ofText (text : String) : Source × Bool :=
  let cs := text.toList
  let (source, rest) := value (cs.length + 1) cs
  (source, (skipBlank rest).isEmpty)

mutual

/-- Whether the text of a value is free of faults of grammar. -/
def intact : Source → Bool
  | .broken => false
  | .unkeyed _ => false
  | .array items closed => intactItems items && closed
  | .object members closed => intactMembers members && closed
  | _ => true

def intactItems : List Source → Bool
  | [] => true
  | s :: rest => intact s && intactItems rest

def intactMembers : List (StringText × Source) → Bool
  | [] => true
  | (_, s) :: rest => intact s && intactMembers rest

end

end Source

end AdmissionRules.Json
