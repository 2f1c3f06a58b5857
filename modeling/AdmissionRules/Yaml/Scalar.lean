import AdmissionRules.Json.Source
import AdmissionRules.Yaml.Cursor

set_option autoImplicit false

/-! # Scalars of YAML text

Reading of plain, quoted and block scalars. Inside plain and quoted scalars a run of blanks and
line breaks is folded: a single break is a space, and of more breaks the first one is left out.
Every function that loops takes fuel, which the length of the rest of the text bounds. -/

namespace AdmissionRules.Yaml.Scalar

/-! ## Gaps -/

/-- A run of blanks and breaks inside a scalar. -/
structure Gap where
  blanks : List Char
  firstBreak : List Char
  otherBreaks : List Char
  /-- Whether the run holds a break, so that its blanks do not count. -/
  broken : Bool

namespace Gap

def empty (broken : Bool) : Gap :=
  { blanks := [], firstBreak := [], otherBreaks := [], broken }

/-- The text that a gap stands for. -/
def fold (g : Gap) : List Char :=
  if g.broken then
    if g.firstBreak == ['\n'] then (if g.otherBreaks.isEmpty then [' '] else g.otherBreaks)
    else g.firstBreak ++ g.otherBreaks
  else g.blanks

/-- Extends a gap by the blanks and breaks that follow. A tab left of column `margin` on a line
    of its own is refused. -/
def extend? (margin : Int) : Nat → Gap → Cursor → Option (Gap × Cursor)
  | 0, g, c => some (g, c)
  | fuel + 1, g, c =>
    if c.onBlank then
      if g.broken && (c.column : Int) < margin && c.has '\t' then none
      else
        let g := if g.broken then g else { g with blanks := g.blanks ++ (c.peek? 0).toList }
        extend? margin fuel g (c.skip 1)
    else if c.onBreak then
      let (b, c) := c.readBreak
      if g.broken then extend? margin fuel { g with otherBreaks := g.otherBreaks ++ b } c
      else extend? margin fuel { g with blanks := [], firstBreak := b, broken := true } c
    else some (g, c)

end Gap

/-! ## Plain scalars -/

/-- Whether a plain scalar ends before the next character. -/
def plainEnds (inFlow : Bool) (c : Cursor) : Bool :=
  (c.has ':' && c.spaceAt 1) || (inFlow && c.hasAny [',', '[', ']', '\x7b', '\x7d'])

/-- Whether the next character is a colon that a flow collection does not allow here. -/
def plainRefused (inFlow : Bool) (c : Cursor) : Bool :=
  inFlow && c.has ':' && (c.skip 1).hasAny [',', '?', '[', ']', '\x7b', '\x7d']

/-- The characters of a plain scalar up to a blank, a break or its end. -/
def plainRun? (inFlow : Bool) : Nat → Cursor → Option (List Char × Cursor)
  | 0, c => some ([], c)
  | fuel + 1, c =>
    match c.peek? 0 with
    | none => some ([], c)
    | some x =>
      if isBlank x || isBreak x then some ([], c)
      else if plainRefused inFlow c then none
      else if plainEnds inFlow c then some ([], c)
      else do
        let (run, c) ← plainRun? inFlow fuel (c.skip 1)
        some (x :: run, c)

/-- The rest of a plain scalar, which has `gap` before `c`. A gap at the end is not part of it.
    The result says too whether the cursor is left on a later line than the last character. -/
def plainFrom? (inFlow : Bool) (margin : Int) :
    Nat → Gap → Cursor → Option (List Char × Bool × Cursor)
  | 0, gap, c => some ([], gap.broken, c)
  | fuel + 1, gap, c =>
    if c.onAnyMarker || c.has '#' then some ([], gap.broken, c)
    else do
      let (run, c) ← plainRun? inFlow (c.left + 1) c
      let (text, broken) := if run.isEmpty then ([], gap.broken) else (gap.fold ++ run, false)
      if c.onBlank || c.onBreak then
        let (gap, c) ← Gap.extend? margin (c.left + 1) (Gap.empty false) c
        if !inFlow && (c.column : Int) < margin then some (text, gap.broken, c)
        else do
          let (more, broken, c) ← plainFrom? inFlow margin fuel gap c
          some (text ++ more, broken, c)
      else some (text, broken, c)

/-- A plain scalar; outside flow collections it ends on a line that starts left of `margin`. -/
def plain? (inFlow : Bool) (margin : Int) (c : Cursor) : Option (List Char × Bool × Cursor) :=
  plainFrom? inFlow margin (c.left + 1) (Gap.empty false) c

/-! ## Quoted scalars -/

/-- The character of a one-letter escape. -/
def escapeLetter? (x : Char) : Option Char :=
  match x with
  | '0' => some '\x00'
  | 'a' => some '\x07'
  | 'b' => some '\x08'
  | 't' => some '\t'
  | '\t' => some '\t'
  | 'n' => some '\n'
  | 'v' => some '\x0b'
  | 'f' => some '\x0c'
  | 'r' => some '\r'
  | 'e' => some '\x1b'
  | ' ' => some ' '
  | '"' => some '"'
  | '/' => some '/'
  | '\\' => some '\\'
  | 'N' => some (Char.ofNat 0x85)
  | '_' => some (Char.ofNat 0xA0)
  | 'L' => some (Char.ofNat 0x2028)
  | 'P' => some (Char.ofNat 0x2029)
  | _ => none

/-- The number of digits of an escape by code. -/
def escapeWidth? (x : Char) : Option Nat :=
  match x with
  | 'x' => some 2
  | 'u' => some 4
  | 'U' => some 8
  | _ => none

/-- The number of a list of hexadecimal digits. -/
def hexValue? (cs : List Char) : Option Nat :=
  cs.foldl (fun n c => do return 16 * (← n) + (← Json.Source.hexDigit? c)) (some 0)

/-- The character of an escape after its backslash, and what follows it. -/
def escape? (c : Cursor) : Option (Char × Cursor) := do
  let x ← c.peek? 0
  match escapeLetter? x with
  | some y => some (y, c.skip 1)
  | none =>
    let width ← escapeWidth? x
    let digits := (c.rest.drop 1).take width
    if digits.length = width then
      let n ← hexValue? digits
      if n.isValidChar then some (Char.ofNat n, c.skip (1 + width)) else none
    else none

/-- The characters of a quoted scalar up to a blank, a break or the closing quote, and whether
    they end in an escaped break. -/
def quotedRun? (single : Bool) : Nat → Cursor → Option (List Char × Bool × Cursor)
  | 0, c => some ([], false, c)
  | fuel + 1, c =>
    match c.peek? 0 with
    | none => some ([], false, c)
    | some x =>
      if isBlank x || isBreak x then some ([], false, c)
      else if single && x == '\'' && c.hasAt 1 '\'' then do
        let (run, escaped, c) ← quotedRun? single fuel (c.skip 2)
        some ('\'' :: run, escaped, c)
      else if x == (if single then '\'' else '"') then some ([], false, c)
      else if !single && x == '\\' then
        if (c.peek? 1).any isBreak then some ([], true, (c.skip 1).skipBreak)
        else do
          let (y, c) ← escape? (c.skip 1)
          let (run, escaped, c) ← quotedRun? single fuel c
          some (y :: run, escaped, c)
      else do
        let (run, escaped, c) ← quotedRun? single fuel (c.skip 1)
        some (x :: run, escaped, c)

/-- The rest of a quoted scalar, up to the closing quote. -/
def quotedFrom? (single : Bool) : Nat → Cursor → Option (List Char × Cursor)
  | 0, _ => none
  | fuel + 1, c =>
    if c.onAnyMarker || c.atEnd then none
    else do
      let (run, escaped, c) ← quotedRun? single (c.left + 1) c
      if c.has (if single then '\'' else '"') then some (run, c.skip 1)
      else
        let (gap, c) ← Gap.extend? 0 (c.left + 1) (Gap.empty escaped) c
        let (more, c) ← quotedFrom? single fuel c
        some (run ++ gap.fold ++ more, c)

/-- A quoted scalar from its opening quote on. -/
def quoted? (single : Bool) (c : Cursor) : Option (List Char × Cursor) :=
  quotedFrom? single (c.left + 1) (c.skip 1)

/-! ## Block scalars -/

/-- What becomes of the breaks at the end of a block scalar. -/
inductive Chomping where
  | strip
  | clip
  | keep
deriving DecidableEq

/-- The header of a block scalar: chomping and indentation, in either order. -/
structure Header where
  chomping : Chomping
  increment : Option Nat

def chomping? (c : Cursor) : Option (Chomping × Cursor) :=
  if c.has '+' then some (.keep, c.skip 1)
  else if c.has '-' then some (.strip, c.skip 1)
  else none

/-- An indentation digit, if there is one; it is not zero. -/
def increment? (c : Cursor) : Option (Option Nat × Cursor) :=
  match c.peek? 0 with
  | some x =>
    if x.isDigit then
      if x == '0' then none else some (some (x.toNat - '0'.toNat), c.skip 1)
    else some (none, c)
  | none => some (none, c)

def header? (c : Cursor) : Option (Header × Cursor) :=
  match chomping? c with
  | some (chomping, c) => do
    let (increment, c) ← increment? c
    some ({ chomping, increment }, c)
  | none => do
    let (increment, c) ← increment? c
    match increment, chomping? c with
    | some _, some (chomping, c) => some ({ chomping, increment }, c)
    | _, _ => some ({ chomping := .clip, increment }, c)

/-- Steps over the indentation and the empty lines before a line of a block scalar. An
    indentation of zero is still to be found. The result holds the breaks and the greatest
    column seen. -/
def blockBreaks? (indent : Int) :
    Nat → List Char → Int → Cursor → Option (List Char × Int × Cursor)
  | 0, breaks, widest, c => some (breaks, widest, c)
  | fuel + 1, breaks, widest, c =>
    let room : Nat :=
      if indent = 0 then c.left else (indent - (c.column : Int)).toNat
    let spaces := ((c.rest.take room).takeWhile (· == ' ')).length
    let c := c.skip spaces
    let widest := max widest (c.column : Int)
    if (indent = 0 ∨ (c.column : Int) < indent) ∧ c.has '\t' then none
    else if c.onBreak then
      let (b, c) := c.readBreak
      blockBreaks? indent fuel (breaks ++ b) widest c
    else some (breaks, widest, c)

/-- The lines of a block scalar with the given indentation. `lastBreak` is the break of the line
    before, `breaks` are those of the empty lines since then; those after the last line are told
    apart from the text. -/
def blockLines? (literal : Bool) (indent : Int) :
    Nat → List Char → List Char → Bool → Cursor →
      Option (List Char × List Char × List Char × Cursor)
  | 0, lastBreak, breaks, _, c => some ([], lastBreak, breaks, c)
  | fuel + 1, lastBreak, breaks, blankBefore, c =>
    if (c.column : Int) = indent ∧ !c.atEnd then do
      let blankHere := c.onBlank
      let joint :=
        if !literal && lastBreak == ['\n'] && !blankBefore && !blankHere then
          (if breaks.isEmpty then [' '] else [])
        else lastBreak
      let (line, c) := c.span fun x => !isBreak x
      let (lineBreak, c) := c.readBreak
      let (emptyLines, _, c) ← blockBreaks? indent (c.left + 1) [] 0 c
      let (more, lastBreak, lastBreaks, c) ←
        blockLines? literal indent fuel lineBreak emptyLines blankHere c
      some (joint ++ breaks ++ line ++ more, lastBreak, lastBreaks, c)
    else some ([], lastBreak, breaks, c)

/-- A block scalar from its indicator on, inside a block with the given indentation. -/
def block? (literal : Bool) (parent : Int) (c : Cursor) : Option (List Char × Cursor) := do
  let (header, c) ← header? (c.skip 1)
  let c ← c.skipLineRest?
  let given : Int :=
    match header.increment with
    | some n => if 0 ≤ parent then parent + n else n
    | none => 0
  let (breaks, widest, c) ← blockBreaks? given (c.left + 1) [] 0 c
  let indent := if given = 0 then max (max widest (parent + 1)) 1 else given
  let (text, lastBreak, breaks, c) ←
    blockLines? literal indent (c.left + 1) [] breaks false c
  let tail :=
    match header.chomping with
    | .strip => []
    | .clip => lastBreak
    | .keep => lastBreak ++ breaks
  some (text ++ tail, c)

end AdmissionRules.Yaml.Scalar
