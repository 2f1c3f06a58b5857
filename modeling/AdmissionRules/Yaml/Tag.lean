set_option autoImplicit false

/-! # Tags of YAML nodes

A tag is a string of bytes, as percent signs may write any byte in it. A tag that begins with an
exclamation mark is local and has a name; all others are known by their bytes. -/

namespace AdmissionRules.Yaml

structure Tag where
  bytes : List UInt8
deriving DecidableEq, Inhabited

namespace Tag

/-- The bytes of text that holds ASCII characters alone. -/
def bytesOf (cs : List Char) : List UInt8 := cs.map fun c => UInt8.ofNat c.toNat

def ofText (s : String) : Tag := { bytes := bytesOf s.toList }

/-- A tag of the core schema. -/
def core (name : String) : Tag := ofText ("tag:yaml.org,2002:" ++ name)

/-- The exclamation mark. -/
def mark : UInt8 := 0x21

def isLocal (t : Tag) : Bool := t.bytes.head? == some mark

/-- Drops an exclamation mark that stands in front of something. -/
def dropMark (bytes : List UInt8) : List UInt8 :=
  match bytes with
  | b :: c :: rest => if b = mark then c :: rest else b :: c :: rest
  | short => short

/-- The name of a local tag, if it is text. The mark in front, and one more after it, are not
    part of the name unless nothing else is left. -/
def localName? (t : Tag) : Option String :=
  if t.isLocal then String.fromUTF8? (ByteArray.mk (dropMark (dropMark t.bytes)).toArray)
  else none

end Tag

end AdmissionRules.Yaml
