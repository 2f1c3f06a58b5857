set_option autoImplicit false

/-! # Places in a YAML text

Character classes of YAML and a cursor: the rest of a text and where it starts. Lines and
columns matter to YAML, as nesting is told by columns and a key has to stay on one line. -/

namespace AdmissionRules.Yaml

/-! ## Character classes -/

/-- The characters a text may hold. -/
def isAllowed (c : Char) : Bool :=
  let n := c.toNat
  n == 0x09 || n == 0x0A || n == 0x0D || (0x20 ≤ n && n ≤ 0x7E) || n == 0x85 ||
    (0xA0 ≤ n && n ≤ 0xD7FF) || (0xE000 ≤ n && n ≤ 0xFFFD) || 0x10000 ≤ n

def isBlank (c : Char) : Bool := c == ' ' || c == '\t'

/-- Line breaks: carriage return, line feed, next line, line and paragraph separator. -/
def isBreak (c : Char) : Bool :=
  c == '\r' || c == '\n' || c.toNat == 0x85 || c.toNat == 0x2028 || c.toNat == 0x2029

/-- The characters of anchors and tag handles. -/
def isWord (c : Char) : Bool := c.isAlphanum || c == '_' || c == '-'

/-! ## Cursors -/

structure Cursor where
  rest : List Char
  /-- The number of characters in the rest. -/
  left : Nat
  /-- The number of bytes before it. -/
  index : Nat
  line : Nat
  column : Nat
deriving Inhabited

namespace Cursor

def start (cs : List Char) : Cursor :=
  { rest := cs, left := cs.length, index := 0, line := 0, column := 0 }

/-- The character `n` places on. -/
def peek? (c : Cursor) (n : Nat) : Option Char := c.rest[n]?

def atEnd (c : Cursor) : Bool := c.rest.isEmpty

/-- Whether the character `n` places on is `x`. -/
def hasAt (c : Cursor) (n : Nat) (x : Char) : Bool := c.peek? n == some x

def has (c : Cursor) (x : Char) : Bool := c.hasAt 0 x

/-- Whether the next character is one of `xs`. -/
def hasAny (c : Cursor) (xs : List Char) : Bool :=
  match c.peek? 0 with
  | some x => xs.contains x
  | none => false

def onBlank (c : Cursor) : Bool := (c.peek? 0).any isBlank

def onBreak (c : Cursor) : Bool := (c.peek? 0).any isBreak

/-- Whether a blank, a break or the end is `n` places on. -/
def spaceAt (c : Cursor) (n : Nat) : Bool :=
  match c.peek? n with
  | some x => isBlank x || isBreak x
  | none => true

/-- Whether a break or the end comes next. -/
def onLineEnd (c : Cursor) : Bool := c.atEnd || c.onBreak

/-- The number of bytes that characters take. -/
def byteCount (cs : List Char) : Nat := cs.foldl (fun n x => n + x.utf8Size) 0

/-- Steps over `n` characters of a line. -/
def skip (c : Cursor) (n : Nat) : Cursor :=
  { c with
    rest := c.rest.drop n, left := c.left - n, index := c.index + byteCount (c.rest.take n),
    column := c.column + n }

/-- The characters of the line that satisfy `p`, up to the first that does not. -/
def span (c : Cursor) (p : Char → Bool) : List Char × Cursor :=
  let cs := c.rest.takeWhile p
  (cs, c.skip cs.length)

/-- Reads a line break: the text that it stands for, and the start of the next line. Nothing is
    read where there is no break. -/
def readBreak (c : Cursor) : List Char × Cursor :=
  let next (n : Nat) : Cursor :=
    { rest := c.rest.drop n, left := c.left - n, index := c.index + byteCount (c.rest.take n),
      line := c.line + 1, column := 0 }
  match c.rest with
  | '\r' :: '\n' :: _ => (['\n'], next 2)
  | x :: _ =>
    if x == '\r' || x == '\n' || x.toNat == 0x85 then (['\n'], next 1)
    else if isBreak x then ([x], next 1)
    else ([], c)
  | [] => ([], c)

def skipBreak (c : Cursor) : Cursor := c.readBreak.2

/-- Whether a document marker (`---` or `...`) stands at the start of the line. -/
def onMarker (c : Cursor) (x : Char) : Bool :=
  c.column == 0 && c.hasAt 0 x && c.hasAt 1 x && c.hasAt 2 x && c.spaceAt 3

def onAnyMarker (c : Cursor) : Bool := c.onMarker '-' || c.onMarker '.'

/-- Steps over blanks, a comment and the rest of the line, of which nothing else may be left. -/
def skipLineRest? (c : Cursor) : Option Cursor :=
  let c := (c.span isBlank).2
  let c := if c.has '#' then (c.span fun x => !isBreak x).2 else c
  if c.onLineEnd then some c.skipBreak else none

end Cursor

end AdmissionRules.Yaml
