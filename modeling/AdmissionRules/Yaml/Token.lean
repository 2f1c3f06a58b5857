import AdmissionRules.Yaml.Scalar
import AdmissionRules.Yaml.Tag

set_option autoImplicit false

/-! # Tokens of YAML text

The tokens make nesting explicit: where a block opens by indentation, a start token stands, and
where it closes, an end token. A key without an indicator of its own is known only when its
colon is met; its tokens are then put in front of it. For that the scanner remembers, for each
open flow collection and for the block around them, the place where such a key may have begun. -/

namespace AdmissionRules.Yaml

inductive Token where
  | version (major minor : Nat)
  | tagShorthand (handle : String) (replacement : List UInt8)
  | documentStart
  | documentEnd
  | blockSequenceStart
  | blockMappingStart
  | blockEnd
  | flowSequenceStart
  | flowSequenceEnd
  | flowMappingStart
  | flowMappingEnd
  | blockEntry
  | flowEntry
  | key
  | value
  | alias (name : String)
  | anchor (name : String)
  | tag (handle : String) (suffix : List UInt8)
  | scalar (plain : Bool) (text : String)
deriving DecidableEq, Inhabited

namespace Token

/-! ## Directives, anchors and tags -/

/-- A name followed by white space. -/
def directiveName? (c : Cursor) : Option (String × Cursor) :=
  let (name, c) := c.span isWord
  if name.isEmpty || !c.spaceAt 0 then none else some (String.ofList name, c)

/-- A version number of at most nine digits. -/
def versionNumber? (c : Cursor) : Option (Nat × Cursor) :=
  let (digits, c) := c.span Char.isDigit
  if digits.isEmpty || 9 < digits.length then none else some (Json.Numeral.digitsValue digits, c)

def version? (c : Cursor) : Option (Token × Cursor) := do
  let (major, c) ← versionNumber? (c.span isBlank).2
  if !c.has '.' then none
  let (minor, c) ← versionNumber? (c.skip 1)
  some (.version major minor, c)

/-- A handle: an exclamation mark, word characters, and possibly a second mark. -/
def handle? (c : Cursor) : Option (List Char × Cursor) :=
  if c.has '!' then
    let (word, c) := (c.skip 1).span isWord
    if c.has '!' then some ('!' :: word ++ ['!'], c.skip 1) else some ('!' :: word, c)
  else none

/-- The characters that stand for themselves in a tag; `verbatim` tags may hold a few more. -/
def isTagChar (verbatim : Bool) (x : Char) : Bool :=
  let marks := [';', '/', '?', ':', '@', '&', '=', '+', '$', '.', '!', '~', '*', '\'', '(', ')']
  isWord x || marks.contains x || (verbatim && [',', '[', ']'].contains x)

/-- A byte written as a percent sign and two hexadecimal digits. -/
def escapedByte? (c : Cursor) : Option (Nat × Cursor) := do
  if !c.has '%' then none
  let high ← Json.Source.hexDigit? (← c.peek? 1)
  let low ← Json.Source.hexDigit? (← c.peek? 2)
  some (16 * high + low, c.skip 3)

/-- The continuation bytes of an escaped character. -/
def escapedTail? : Nat → Cursor → Option (List UInt8 × Cursor)
  | 0, c => some ([], c)
  | n + 1, c => do
    let (byte, c) ← escapedByte? c
    if byte / 64 = 2 then
      let (bytes, c) ← escapedTail? n c
      some (UInt8.ofNat byte :: bytes, c)
    else none

/-- The number of continuation bytes after a leading byte. -/
def tailLength? (byte : Nat) : Option Nat :=
  if byte < 0x80 then some 0
  else if byte / 32 = 6 then some 1
  else if byte / 16 = 14 then some 2
  else if byte / 8 = 30 then some 3
  else none

/-- The bytes of an escaped character; which character they stand for is not asked. -/
def escapedBytes? (c : Cursor) : Option (List UInt8 × Cursor) := do
  let (byte, c) ← escapedByte? c
  let (bytes, c) ← escapedTail? (← tailLength? byte) c
  some (UInt8.ofNat byte :: bytes, c)

/-- The bytes of a tag up to the first character that no tag holds. -/
def tagBytes? (verbatim : Bool) : Nat → Cursor → Option (List UInt8 × Cursor)
  | 0, c => some ([], c)
  | fuel + 1, c =>
    match c.peek? 0 with
    | none => some ([], c)
    | some x =>
      if x == '%' then do
        let (bytes, c) ← escapedBytes? c
        let (more, c) ← tagBytes? verbatim fuel c
        some (bytes ++ more, c)
      else if isTagChar verbatim x then do
        let (bytes, c) ← tagBytes? verbatim fuel (c.skip 1)
        some (UInt8.ofNat x.toNat :: bytes, c)
      else some ([], c)

/-- The bytes that count: those before the first zero. -/
def upToZero (bytes : List UInt8) : List UInt8 := bytes.takeWhile (· ≠ 0)

/-- The bytes of a tag, at least one of which is written. -/
def tagBytes1? (verbatim : Bool) (c : Cursor) : Option (List UInt8 × Cursor) := do
  let (bytes, c) ← tagBytes? verbatim (c.left + 1) c
  if bytes.isEmpty then none else some (upToZero bytes, c)

def tagShorthand? (c : Cursor) : Option (Token × Cursor) := do
  let (handle, c) ← handle? (c.span isBlank).2
  if handle ≠ ['!'] ∧ (handle.length < 2 ∨ handle.getLast? ≠ some '!') then none
  if !c.onBlank then none
  let (replacement, c) ← tagBytes1? true (c.span isBlank).2
  if !c.spaceAt 0 then none
  some (.tagShorthand (String.ofList handle) replacement, c)

/-- A directive from its percent sign to the end of its line. -/
def directive? (c : Cursor) : Option (Token × Cursor) := do
  let (name, c) ← directiveName? (c.skip 1)
  let (token, c) ←
    if name = "YAML" then version? c
    else if name = "TAG" then tagShorthand? c
    else none
  let c ← c.skipLineRest?
  some (token, c)

/-- The name after the indicator of an anchor or alias. -/
def anchorName? (c : Cursor) : Option (String × Cursor) :=
  let (name, c) := (c.skip 1).span isWord
  if name.isEmpty then none
  else if c.spaceAt 0 || c.hasAny ['?', ':', ',', ']', '\x7d', '%', '@', '\x60'] then
    some (String.ofList name, c)
  else none

/-- A tag without a handle of its own; a lone exclamation mark is a tag in full. -/
def localTag? (head : List Char) (c : Cursor) : Option (Token × Cursor) := do
  let (bytes, c) ← tagBytes? false (c.left + 1) c
  let suffix := upToZero (Tag.bytesOf (head.drop 1) ++ bytes)
  some (if suffix.isEmpty then .tag "" [Tag.mark] else .tag "!" suffix, c)

def tag? (inFlow : Bool) (c : Cursor) : Option (Token × Cursor) := do
  let (token, c) ←
    if c.hasAt 1 '<' then do
      let (bytes, c) ← tagBytes1? true (c.skip 2)
      if c.has '>' then some (Token.tag "" bytes, c.skip 1) else none
    else do
      let (head, rest) ← handle? c
      if 1 < head.length && head.getLast? == some '!' then do
        let (suffix, c) ← tagBytes1? false rest
        some (.tag (String.ofList head) suffix, c)
      else localTag? head rest
  if c.spaceAt 0 || (inFlow && c.has ',') then some (token, c) else none

end Token

/-! ## The scanner -/

/-- The place where a key without an indicator may have begun: how many tokens come before it,
    and where it stands. A required key must turn out to be one. -/
structure PossibleKey where
  tokensBefore : Nat
  index : Nat
  line : Nat
  column : Nat
  required : Bool

/-- The state between two tokens. -/
structure Scanner where
  cursor : Cursor
  /-- The tokens so far, the last one first, and their number. -/
  tokens : List Token
  count : Nat
  /-- Columns of the open blocks, the innermost first; outside all blocks the column is -1. -/
  indent : Int
  outerIndents : List Int
  /-- The possible key of the innermost flow collection, or of the block around them all. -/
  key : Option PossibleKey
  /-- The possible keys further out; one for each open flow collection. -/
  outerKeys : List (Option PossibleKey)
  /-- Whether a key without an indicator may begin at the cursor. -/
  keyAllowed : Bool

namespace Scanner

def start (cs : List Char) : Scanner :=
  { cursor := .start cs, tokens := [], count := 0, indent := -1, outerIndents := [],
    key := none, outerKeys := [], keyAllowed := true }

def inFlow (s : Scanner) : Bool := !s.outerKeys.isEmpty

def push (s : Scanner) (t : Token) : Scanner :=
  { s with tokens := t :: s.tokens, count := s.count + 1 }

/-- Puts a token before the last `count - n` ones. -/
def insertAt (s : Scanner) (n : Nat) (t : Token) : Scanner :=
  let after := s.count - n
  { s with tokens := s.tokens.take after ++ t :: s.tokens.drop after, count := s.count + 1 }

/-- Pushes a token of `n` characters. -/
def pushSkip (s : Scanner) (n : Nat) (t : Token) : Scanner :=
  { s.push t with cursor := s.cursor.skip n }

/-! ### Indentation -/

/-- Opens a block at a column if it lies further in; its start token goes to position `n`. -/
def openBlock (s : Scanner) (column : Nat) (n : Nat) (t : Token) : Scanner :=
  if !s.inFlow && s.indent < column then
    { s.insertAt n t with indent := column, outerIndents := s.indent :: s.outerIndents }
  else s

/-- The end tokens of the open blocks further in than a column. -/
def closeLoop (column : Int) : Nat → Scanner → Scanner
  | 0, s => s
  | fuel + 1, s =>
    if column < s.indent then
      match s.outerIndents with
      | outer :: rest =>
        closeLoop column fuel { s.push .blockEnd with indent := outer, outerIndents := rest }
      | [] => s
    else s

/-- Closes the blocks further in than a column. -/
def closeBlocks (s : Scanner) (column : Int) : Scanner :=
  if s.inFlow then s else closeLoop column s.outerIndents.length s

/-! ### Possible keys -/

/-- Gives up the possible key; a required one must not be given up. -/
def dropKey? (s : Scanner) : Option Scanner :=
  match s.key with
  | some k => if k.required then none else some { s with key := none }
  | none => some s

/-- Notes that a key may begin at the cursor. -/
def noteKey? (s : Scanner) : Option Scanner :=
  if s.keyAllowed then do
    let s ← s.dropKey?
    let c := s.cursor
    let required := !s.inFlow && s.indent == (c.column : Int)
    some { s with key := some { tokensBefore := s.count, index := c.index, line := c.line,
                                column := c.column, required } }
  else some s

/-- Whether a key that began at `k` may still end at a cursor: it stays on its line and is not
    longer than 1024 bytes. -/
def inReach (c : Cursor) (k : PossibleKey) : Bool :=
  !(k.line < c.line || k.index + 1024 < c.index)

/-- A possible key that is out of reach is none; a required one must be in reach. -/
def reach? (c : Cursor) : Option PossibleKey → Option (Option PossibleKey)
  | none => some none
  | some k => if inReach c k then some (some k) else if k.required then none else some none

/-- Gives up the possible keys that are out of reach. -/
def dropStaleKeys? (s : Scanner) : Option Scanner := do
  let key ← reach? s.cursor s.key
  let outerKeys ← s.outerKeys.mapM (reach? s.cursor)
  some { s with key, outerKeys }

/-! ### Tokens -/

/-- Steps over blanks, comments and breaks, and over a byte order mark at the start of a line. A
    tab counts as blank only where no key without an indicator may begin. -/
def skipToToken : Nat → Scanner → Scanner
  | 0, s => s
  | fuel + 1, s =>
    let marked := s.cursor.column == 0 && s.cursor.has (Char.ofNat 0xFEFF)
    let c := if marked then s.cursor.skip 1 else s.cursor
    let c := (c.span fun x => x == ' ' || (x == '\t' && (s.inFlow || !s.keyAllowed))).2
    let c := if c.has '#' then (c.span fun x => !isBreak x).2 else c
    if c.onBreak then
      skipToToken fuel { s with cursor := c.skipBreak, keyAllowed := s.keyAllowed || !s.inFlow }
    else { s with cursor := c }

/-- What comes before a directive or document marker: all blocks are closed. -/
def atMargin? (s : Scanner) : Option Scanner := do
  let s ← (s.closeBlocks (-1)).dropKey?
  some { s with keyAllowed := false }

def flowStart? (s : Scanner) (t : Token) : Option Scanner := do
  let s ← s.noteKey?
  some { s.pushSkip 1 t with key := none, outerKeys := s.key :: s.outerKeys, keyAllowed := true }

def flowEnd? (s : Scanner) (t : Token) : Option Scanner := do
  let s ← s.dropKey?
  let s := { s.pushSkip 1 t with keyAllowed := false }
  some (match s.outerKeys with
    | k :: rest => { s with key := k, outerKeys := rest }
    | [] => s)

def flowEntry? (s : Scanner) : Option Scanner := do
  let s ← s.dropKey?
  some { s.pushSkip 1 .flowEntry with keyAllowed := true }

def blockEntry? (s : Scanner) : Option Scanner := do
  if !s.inFlow && !s.keyAllowed then none
  let s ← (s.openBlock s.cursor.column s.count .blockSequenceStart).dropKey?
  some { s.pushSkip 1 .blockEntry with keyAllowed := true }

def keyIndicator? (s : Scanner) : Option Scanner := do
  if !s.inFlow && !s.keyAllowed then none
  let s ← (s.openBlock s.cursor.column s.count .blockMappingStart).dropKey?
  some { s.pushSkip 1 .key with keyAllowed := !s.inFlow }

def valueIndicator? (s : Scanner) : Option Scanner :=
  match s.key with
  | some k =>
    let s := (s.insertAt k.tokensBefore .key).openBlock k.column k.tokensBefore .blockMappingStart
    some { s.pushSkip 1 .value with key := none, keyAllowed := false }
  | none => do
    if !s.inFlow && !s.keyAllowed then none
    let s := s.openBlock s.cursor.column s.count .blockMappingStart
    some { s.pushSkip 1 .value with keyAllowed := !s.inFlow }

/-- Pushes a token that may begin a key. -/
def keyPart? (s : Scanner) (read? : Cursor → Option (Token × Cursor)) : Option Scanner := do
  let s ← s.noteKey?
  let (t, c) ← read? s.cursor
  some { s.push t with cursor := c, keyAllowed := false }

def plainScalar? (s : Scanner) : Option Scanner := do
  let s ← s.noteKey?
  let (text, broken, c) ← Scalar.plain? s.inFlow (s.indent + 1) s.cursor
  some { s.push (.scalar true (String.ofList text)) with cursor := c, keyAllowed := broken }

def blockScalar? (s : Scanner) (literal : Bool) : Option Scanner := do
  let s ← s.dropKey?
  let (text, c) ← Scalar.block? literal s.indent s.cursor
  some { s.push (.scalar false (String.ofList text)) with cursor := c, keyAllowed := true }

/-- Whether a plain scalar may begin at the cursor. -/
def plainStarts (s : Scanner) (x : Char) : Bool :=
  let indicators := ['-', '?', ':', ',', '[', ']', '\x7b', '\x7d', '#', '&', '*', '!', '|', '>',
    '\'', '"', '%', '@', '\x60']
  !(isBlank x || isBreak x || indicators.contains x) ||
    (x == '-' && !((s.cursor.peek? 1).any isBlank)) ||
    (!s.inFlow && (x == '?' || x == ':') && !s.cursor.spaceAt 1)

/-- The token that begins with the character `x` at the cursor. -/
def token? (s : Scanner) (x : Char) : Option Scanner :=
  let c := s.cursor
  if c.column == 0 && x == '%' then do
    let s ← s.atMargin?
    let (t, c) ← Token.directive? s.cursor
    some { s.push t with cursor := c }
  else if c.onMarker '-' then (s.atMargin?).map (·.pushSkip 3 .documentStart)
  else if c.onMarker '.' then (s.atMargin?).map (·.pushSkip 3 .documentEnd)
  else if x == '[' then s.flowStart? .flowSequenceStart
  else if x == '\x7b' then s.flowStart? .flowMappingStart
  else if x == ']' then s.flowEnd? .flowSequenceEnd
  else if x == '\x7d' then s.flowEnd? .flowMappingEnd
  else if x == ',' then s.flowEntry?
  else if x == '-' && c.spaceAt 1 then s.blockEntry?
  else if x == '?' && (s.inFlow || c.spaceAt 1) then s.keyIndicator?
  else if x == ':' && (s.inFlow || c.spaceAt 1) then s.valueIndicator?
  else if x == '*' then
    s.keyPart? fun c => (Token.anchorName? c).map fun (name, c) => (.alias name, c)
  else if x == '&' then
    s.keyPart? fun c => (Token.anchorName? c).map fun (name, c) => (.anchor name, c)
  else if x == '!' then s.keyPart? (Token.tag? s.inFlow)
  else if x == '|' && !s.inFlow then s.blockScalar? true
  else if x == '>' && !s.inFlow then s.blockScalar? false
  else if x == '\'' || x == '"' then
    s.keyPart? fun c => (Scalar.quoted? (x == '\'') c).map fun (text, c) =>
      (.scalar false (String.ofList text), c)
  else if s.plainStarts x then s.plainScalar?
  else none

/-- The tokens of the rest of the text, the last one first. Every token but those that close
    blocks takes a character, so that the length of the text bounds the fuel. -/
def finish? : Nat → Scanner → Option (List Token)
  | 0, _ => none
  | fuel + 1, s => do
    let s ← (skipToToken (s.cursor.left + 1) s).dropStaleKeys?
    let s := s.closeBlocks s.cursor.column
    match s.cursor.peek? 0 with
    | some x => (s.token? x).bind (finish? fuel)
    | none => ((s.closeBlocks (-1)).dropKey?).map (·.tokens)

end Scanner

/-- The tokens of a text; none if the text has no tokens or holds a character that YAML does not
    allow. -/
def Token.ofText? (text : String) : Option (List Token) :=
  let cs := text.toList
  if cs.all isAllowed then
    (Scanner.finish? (cs.length + 1) (.start cs)).map List.reverse
  else none

end AdmissionRules.Yaml
