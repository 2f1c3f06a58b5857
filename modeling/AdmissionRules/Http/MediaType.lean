set_option autoImplicit false

/-! # Media types

A media type is a type and a subtype, which may end in a suffix behind a plus sign. Parameters
may follow, each a name with a value that is bare or quoted; they are checked and dropped. Names
are compared without regard to the case of letters. -/

namespace AdmissionRules.Http

structure MediaType where
  type : String
  subtype : String
  suffix : Option String
deriving DecidableEq

namespace MediaType

/-- The marks that names may hold beside letters and digits. -/
def nameMarks : List Char :=
  ['!', '#', '$', '%', '&', '\x27', '*', '+', '-', '.', '^', '_', '\x60', '|', '~']

def isNameChar (c : Char) : Bool := c.isAlphanum || nameMarks.contains c

/-- What may stand between quotes. -/
def isQuotedChar (c : Char) : Bool := 0x20 ≤ c.toNat && c.toNat < 0x7F

/-! ## Parameters -/

/-- Where a reading of parameters stands. -/
inductive Position where
  | start
  | name
  | valueStart
  | value
  | quoteStart
  | quoted
  | quoteEnd
deriving DecidableEq

namespace Position

/-- The next position, if the character may stand here. -/
def next? (c : Char) : Position → Option Position
  | start => if c = ' ' then some start else if isNameChar c then some name else none
  | name => if c = '=' then some valueStart else if isNameChar c then some name else none
  | valueStart => if c = '"' then some quoteStart else if isNameChar c then some value else none
  | value => if c = ';' then some start else if isNameChar c then some value else none
  | quoteStart => if isQuotedChar c then some quoted else none
  | quoted => if c = '"' then some quoteEnd else if isQuotedChar c then some quoted else none
  | quoteEnd => if c = ';' then some start else if c = ' ' then some quoteEnd else none

/-- Whether the parameters may end here. -/
def isFinal : Position → Bool
  | name => false
  | quoteStart => false
  | quoted => false
  | _ => true

end Position

/-- Whether a text is a list of parameters. -/
def areParameters (cs : List Char) : Bool :=
  match cs.foldlM (fun position c => position.next? c) Position.start with
  | some position => position.isFinal
  | none => false

/-! ## Types -/

/-- The parts before and after the last plus sign that is not the first character. -/
def splitSuffix (cs : List Char) : List Char × Option (List Char) :=
  let suffix := (cs.reverse.takeWhile (· ≠ '+')).reverse
  let before := cs.take (cs.length - suffix.length - 1)
  if before.isEmpty then (cs, none) else (before, some suffix)

def lower (cs : List Char) : String := String.ofList (cs.map Char.toLower)

/-- What stands after the type: the subtype and the parameters, if there are any. -/
def ofSubtype? (type cs : List Char) : Option MediaType :=
  let subtype := cs.takeWhile isNameChar
  let found :=
    let (name, suffix) := splitSuffix subtype
    some { type := lower type, subtype := lower name, suffix := suffix.map lower }
  match cs.dropWhile isNameChar with
  | [] => found
  | ';' :: parameters =>
    if !subtype.isEmpty && areParameters parameters then found else none
  | _ => none

def ofText? (s : String) : Option MediaType :=
  let cs := s.toList
  let type := cs.takeWhile isNameChar
  match cs.dropWhile isNameChar with
  | '/' :: rest => if type.isEmpty then none else ofSubtype? type rest
  | _ => none

/-- Whether the type is that of JSON text. -/
def isJson (m : MediaType) : Bool :=
  m.type = "application" && (m.subtype = "json" || m.suffix = some "json")

end MediaType

end AdmissionRules.Http
