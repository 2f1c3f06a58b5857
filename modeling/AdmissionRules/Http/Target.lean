set_option autoImplicit false

/-! # Targets of requests

A target says what a request is about: a path, and a query behind a question mark. What stands
behind a hash sign plays no part. The scheme and the authority of the server may stand in front of
the path, and then the path may be empty, which means the root. -/

namespace AdmissionRules.Http

structure Target where
  path : String
  query : Option String
deriving DecidableEq

namespace Target

/-! ## Paths and queries -/

/-- Whether a character may stand in a path. -/
def isPathChar (c : Char) : Bool :=
  let n := c.toNat
  n = 0x21 || n = 0x22 || (0x24 ≤ n && n ≤ 0x3B) || n = 0x3D || (0x40 ≤ n && n ≤ 0x5F) || 0x61 ≤ n

/-- Whether a character may stand in a query. -/
def isQueryChar (c : Char) : Bool :=
  let n := c.toNat
  n = 0x21 || (0x24 ≤ n && n ≤ 0x3B) || n = 0x3D || 0x3F ≤ n

/-- The target that a text gives from its path on. -/
def ofPath? (cs : List Char) : Option Target :=
  let cs := cs.takeWhile (· ≠ '#')
  let path := cs.takeWhile (· ≠ '?')
  let query := (cs.dropWhile (· ≠ '?')).drop 1
  if path.all isPathChar && query.all isQueryChar then
    some {
      path := if path.isEmpty then "/" else String.ofList path
      query := if cs.contains '?' then some (String.ofList query) else none }
  else none

/-! ## Schemes and authorities -/

def isSchemeChar (c : Char) : Bool := c.isAlphanum || c = '+' || c = '-' || c = '.'

def endsAuthority (c : Char) : Bool := c = '/' || c = '?' || c = '#'

/-- What follows the scheme and the authority; an authority has at least one character. -/
def afterAuthority? (cs : List Char) : Option (List Char) :=
  match cs.dropWhile isSchemeChar with
  | ':' :: '/' :: '/' :: c :: rest =>
    if endsAuthority c then none else some (rest.dropWhile fun c => !endsAuthority c)
  | _ => none

/-! ## Whole targets -/

/-- A target has at most this many bytes. -/
def maxBytes : Nat := 65534

/-- The target that a text gives, if it gives one with a path. -/
def ofText? (s : String) : Option Target :=
  if maxBytes < s.utf8ByteSize then none
  else
    match s.toList with
    | '/' :: rest => ofPath? ('/' :: rest)
    | cs => (afterAuthority? cs).bind ofPath?

end Target

end AdmissionRules.Http
