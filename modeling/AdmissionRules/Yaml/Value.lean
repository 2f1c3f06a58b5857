import AdmissionRules.Yaml.Node

set_option autoImplicit false

/-! # YAML values

The value of a node. A plain scalar without a tag is null, a boolean, an integer, a number with a
fraction or a string by its spelling; the tags of the core schema force a type, and any other
local tag stays on the value if its name is text. An integer that 128 but not 64 bits hold has no
value, and neither has a mapping with equal keys. -/

namespace AdmissionRules.Yaml

inductive Value where
  | null
  | bool (b : Bool)
  | integer (n : Int)
  | real (x : Binary64)
  | string (s : String)
  | sequence (items : List Value)
  | mapping (entries : List (Value × Value))
  | tagged (tag : String) (value : Value)
deriving Inhabited

namespace Value

/-! ## Spellings of scalars -/

def bool? (s : String) : Option Bool :=
  if s = "true" ∨ s = "True" ∨ s = "TRUE" then some true
  else if s = "false" ∨ s = "False" ∨ s = "FALSE" then some false
  else none

/-- The value of a digit in a base of at most sixteen. -/
def digit? (base : Nat) (c : Char) : Option Nat :=
  match Json.Source.hexDigit? c with
  | some n => if n < base then some n else none
  | none => none

/-- The natural that digits in a base denote; there has to be one. -/
def natural? (base : Nat) : List Char → Option Nat
  | [] => none
  | cs => cs.foldl (fun n c => do return base * (← n) + (← digit? base c)) (some 0)

/-- Whether a numeral of more than one digit begins with a zero. -/
def hasLeadingZero (cs : List Char) : Bool :=
  let cs := match cs with
    | '-' :: rest => rest
    | '+' :: rest => rest
    | cs => cs
  decide (1 < cs.length) && cs.head? == some '0' && cs.all Char.isDigit

/-- The magnitude of an integer after its sign: hexadecimal, octal, binary or decimal. -/
def magnitude? : List Char → Option Nat
  | '0' :: 'x' :: cs => natural? 16 cs
  | '0' :: 'o' :: cs => natural? 8 cs
  | '0' :: 'b' :: cs => natural? 2 cs
  | cs => if hasLeadingZero cs then none else natural? 10 cs

/-- An integer of any size. -/
def integer? : List Char → Option Int
  | '-' :: cs => (magnitude? cs).map fun n => -(n : Int)
  | '+' :: cs => (magnitude? cs).map fun n => (n : Int)
  | cs => (magnitude? cs).map fun n => (n : Int)

/-- A decimal numeral with a digit before or after the point. -/
def decimal? (negative : Bool) (cs : List Char) : Option Binary64 :=
  let (whole, rest) := Json.Numeral.digits cs
  let (fraction, rest) := match rest with
    | '.' :: rest => Json.Numeral.digits rest
    | rest => ([], rest)
  if whole.isEmpty && fraction.isEmpty then none
  else
    match Json.Numeral.exponent? rest with
    | some (exponent, []) =>
      some (.ofDecimal negative (Json.Numeral.digitsValue (whole ++ fraction))
        (exponent.getD 0 - fraction.length))
    | _ => none

/-- A number with a sign. Numerals past the range are no numbers. -/
def signedDecimal? (cs : List Char) : Option Binary64 :=
  let x? := match cs with
    | '-' :: cs => decimal? true cs
    | '+' :: cs => decimal? false cs
    | cs => decimal? false cs
  x?.filter Binary64.isFinite

def infinityTexts : List String := [".inf", ".Inf", ".INF"]

/-- A number with a fraction: a numeral, an infinity or no number. -/
def real? (s : String) : Option Binary64 :=
  if s ∈ infinityTexts ∨ s ∈ infinityTexts.map ("+" ++ ·) then some (.infinite false)
  else if s ∈ infinityTexts.map ("-" ++ ·) then some (.infinite true)
  else if s = ".nan" ∨ s = ".NaN" ∨ s = ".NAN" then some .nan
  else signedDecimal? s.toList

/-- What an integer spelling says, if the text is one: a value, or that there is none. -/
def ofInteger? (s : String) : Option (Option Value) :=
  match integer? s.toList with
  | some n =>
    if fitsBits 64 n then some (some (.integer n)) else if fitsBits 128 n then some none else none
  | none => none

/-- The value of a plain scalar without a tag. -/
def ofPlain? (s : String) : Option Value :=
  if s.isEmpty || Node.isNullText s then some .null
  else
    match bool? s with
    | some b => some (.bool b)
    | none =>
      match ofInteger? s with
      | some v => v
      | none =>
        match (if hasLeadingZero s.toList then none else real? s) with
        | some x => some (.real x)
        | none => some (.string s)

/-! ## Tags -/

/-- The value of a scalar, its tag not kept. A local tag forces no type. -/
def ofScalar? (tag : Option Tag) (plain : Bool) (s : String) : Option Value :=
  match tag with
  | none => if plain then ofPlain? s else some (.string s)
  | some tag =>
    if tag = Tag.core "bool" then (bool? s).map .bool
    else if tag = Tag.core "int" then (ofInteger? s).join
    else if tag = Tag.core "float" then (real? s).map .real
    else if tag = Tag.core "null" then (if Node.isNullText s then some .null else none)
    else if tag.isLocal && plain then ofPlain? s
    else some (.string s)

/-- A value under the name of its node's tag, if the tag is local and has a name. -/
def underTag (tag : Option Tag) (v : Value) : Value :=
  match tag.bind Tag.localName? with
  | some name => .tagged name v
  | none => v

/-! ## Equality of keys -/

/-- Equality of numbers in keys: there is one `nan`. -/
def sameReal (x y : Binary64) : Bool := x.eqv y || (x == .nan && y == .nan)

mutual

/-- Whether two values are the same key. Mappings are compared without their order. -/
def same : Value → Value → Bool
  | .null, .null => true
  | .bool a, .bool b => a == b
  | .integer a, .integer b => a == b
  | .real a, .real b => sameReal a b
  | .string a, .string b => a == b
  | .sequence a, .sequence b => sameItems a b
  | .mapping a, .mapping b => a.length == b.length && sameEntries a b
  | .tagged s a, .tagged t b => s == t && same a b
  | _, _ => false

def sameItems : List Value → List Value → Bool
  | [], [] => true
  | a :: as, b :: bs => same a b && sameItems as bs
  | _, _ => false

/-- Whether every entry is among others. -/
def sameEntries : List (Value × Value) → List (Value × Value) → Bool
  | [], _ => true
  | (k, v) :: rest, others =>
    others.any (fun e => same k e.1 && same v e.2) && sameEntries rest others

end

/-- Entries with no two keys the same, from last to first. -/
def distinct (entries : List (Value × Value)) : Bool :=
  match entries with
  | [] => true
  | (k, _) :: rest => !rest.any (fun e => same k e.1) && distinct rest

/-! ## Nodes -/

mutual

def ofNode? : Node → Option Value
  | .scalar tag plain s => (ofScalar? tag plain s).map (underTag tag)
  | .sequence tag items => do some (underTag tag (.sequence (← ofItems? items)))
  | .mapping tag entries => do
    let entries ← ofEntries? entries
    if distinct entries then some (underTag tag (.mapping entries)) else none

def ofItems? : List Node → Option (List Value)
  | [] => some []
  | n :: rest => do
    let v ← ofNode? n
    let vs ← ofItems? rest
    some (v :: vs)

def ofEntries? : List (Node × Node) → Option (List (Value × Value))
  | [] => some []
  | (k, v) :: rest => do
    let k ← ofNode? k
    let v ← ofNode? v
    let entries ← ofEntries? rest
    some ((k, v) :: entries)

end

/-- The value of a text, null if it holds no document; a failure if it is not YAML. -/
def ofText? (text : String) : Option Value := do
  match ← Node.ofText? text with
  | some node => ofNode? node
  | none => some .null

/-! ## Looking at values -/

/-- The value under all its tags. -/
def untagged : Value → Value
  | .tagged _ v => v.untagged
  | v => v

end Value

end AdmissionRules.Yaml
