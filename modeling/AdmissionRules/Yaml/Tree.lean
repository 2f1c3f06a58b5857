import AdmissionRules.Yaml.Token

set_option autoImplicit false

/-! # Trees of YAML documents

The tree of a document as its tokens nest, before aliases are followed. Where a key, a value or
an item is left out, an empty plain scalar stands. Each function reads one construct and returns
the tokens after it; the number of tokens bounds the fuel, as no two calls in a row leave the
tokens as they are. -/

namespace AdmissionRules.Yaml

/-- The anchor and tag in front of a node. -/
structure Properties where
  anchor : Option String
  tag : Option Tag
deriving DecidableEq, Inhabited

def Properties.none : Properties := { anchor := Option.none, tag := Option.none }

inductive Tree where
  | alias (name : String)
  | scalar (properties : Properties) (plain : Bool) (text : String)
  | sequence (properties : Properties) (items : List Tree)
  | mapping (properties : Properties) (entries : List (Tree × Tree))
deriving Inhabited

namespace Tree

/-- The scalar that stands where nothing is written. -/
def empty : Tree := .scalar .none true ""

/-! ## Tags -/

/-- What the handles of tags stand for. -/
abbrev Shorthands := List (String × List UInt8)

def defaultShorthands : Shorthands := [("!", [Tag.mark]), ("!!", (Tag.core "").bytes)]

/-- The tag that a handle and a suffix name; a handle has to be known. -/
def resolveTag? (shorthands : Shorthands) (handle : String) (suffix : List UInt8) : Option Tag :=
  if handle.isEmpty then some { bytes := suffix }
  else (shorthands.lookup handle).map fun replacement => { bytes := replacement ++ suffix }

/-- The properties at the front of the tokens, in either order, each at most once. -/
def properties? (shorthands : Shorthands) : List Token → Option (Properties × List Token)
  | .anchor a :: .tag h s :: rest => do
    some ({ anchor := some a, tag := some (← resolveTag? shorthands h s) }, rest)
  | .tag h s :: .anchor a :: rest => do
    some ({ anchor := some a, tag := some (← resolveTag? shorthands h s) }, rest)
  | .anchor a :: rest => some ({ anchor := some a, tag := none }, rest)
  | .tag h s :: rest => do
    some ({ anchor := none, tag := some (← resolveTag? shorthands h s) }, rest)
  | rest => some (.none, rest)

/-! ## Nodes

A node is read in one of three places: in a block, after an indicator of a block mapping, where
a sequence need not be indented, and in a flow collection, where no block can stand. -/

inductive Place where
  | block
  | mappingPart
  | flow
deriving DecidableEq

/-- Whether nothing is written in front of one of these tokens. -/
def endsEntry : Token → Bool
  | .key => true
  | .value => true
  | .blockEnd => true
  | _ => false

def endsItem : Token → Bool
  | .blockEntry => true
  | .blockEnd => true
  | _ => false

def endsFlowPart : Token → Bool
  | .flowEntry => true
  | .flowMappingEnd => true
  | _ => false

def endsFlowPair : Token → Bool
  | .flowEntry => true
  | .flowSequenceEnd => true
  | _ => false

/-- Whether the tokens go on with one that `p` holds of. -/
def onToken (p : Token → Bool) : List Token → Bool
  | t :: _ => p t
  | [] => false

mutual

/-- A node at the front of the tokens. -/
def node? (shorthands : Shorthands) (place : Place) :
    Nat → List Token → Option (Tree × List Token)
  | 0, _ => none
  | fuel + 1, ts =>
    match ts with
    | .alias name :: rest => some (.alias name, rest)
    | _ => do
      let (properties, ts) ← properties? shorthands ts
      let bare := properties.anchor.isNone && properties.tag.isNone
      match ts with
      | .scalar plain text :: rest => some (.scalar properties plain text, rest)
      | .flowSequenceStart :: rest => do
        let (items, rest) ← flowItems? shorthands true fuel rest
        some (.sequence properties items, rest)
      | .flowMappingStart :: rest => do
        let (entries, rest) ← flowEntries? shorthands true fuel rest
        some (.mapping properties entries, rest)
      | .blockEntry :: rest =>
        if place = .mappingPart then do
          let (items, rest) ← openItems? shorthands fuel (.blockEntry :: rest)
          some (.sequence properties items, rest)
        else if bare then none
        else some (.scalar properties true "", ts)
      | .blockSequenceStart :: rest =>
        if place = .flow then (if bare then none else some (.scalar properties true "", ts))
        else do
          let (items, rest) ← blockItems? shorthands fuel rest
          some (.sequence properties items, rest)
      | .blockMappingStart :: rest =>
        if place = .flow then (if bare then none else some (.scalar properties true "", ts))
        else do
          let (entries, rest) ← blockEntries? shorthands fuel rest
          some (.mapping properties entries, rest)
      | _ => if bare then none else some (.scalar properties true "", ts)

/-- The items of a block sequence and the end of the block. -/
def blockItems? (shorthands : Shorthands) : Nat → List Token → Option (List Tree × List Token)
  | 0, _ => none
  | fuel + 1, ts =>
    match ts with
    | .blockEntry :: rest => do
      let (item, rest) ←
        if onToken endsItem rest then some (empty, rest) else node? shorthands .block fuel rest
      let (items, rest) ← blockItems? shorthands fuel rest
      some (item :: items, rest)
    | .blockEnd :: rest => some ([], rest)
    | _ => none

/-- The items of a sequence that is not indented; it ends before the first other token. -/
def openItems? (shorthands : Shorthands) : Nat → List Token → Option (List Tree × List Token)
  | 0, _ => none
  | fuel + 1, ts =>
    match ts with
    | .blockEntry :: rest => do
      let (item, rest) ←
        if onToken (fun t => endsItem t || endsEntry t) rest then some (empty, rest)
        else node? shorthands .block fuel rest
      let (items, rest) ← openItems? shorthands fuel rest
      some (item :: items, rest)
    | _ => some ([], ts)

/-- The entries of a block mapping and the end of the block. -/
def blockEntries? (shorthands : Shorthands) :
    Nat → List Token → Option (List (Tree × Tree) × List Token)
  | 0, _ => none
  | fuel + 1, ts =>
    match ts with
    | .key :: rest => do
      let (k, rest) ←
        if onToken endsEntry rest then some (empty, rest)
        else node? shorthands .mappingPart fuel rest
      blockValue? shorthands k fuel rest
    | .blockEnd :: rest => some ([], rest)
    | _ => none

/-- The value of a key and the entries after it. -/
def blockValue? (shorthands : Shorthands) (k : Tree) :
    Nat → List Token → Option (List (Tree × Tree) × List Token)
  | 0, _ => none
  | fuel + 1, ts => do
    let (v, rest) ←
      match ts with
      | .value :: rest =>
        if onToken endsEntry rest then some (empty, rest)
        else node? shorthands .mappingPart fuel rest
      | _ => some (empty, ts)
    let (entries, rest) ← blockEntries? shorthands fuel rest
    some ((k, v) :: entries, rest)

/-- The items of a flow sequence and its end. A key indicator among them opens a mapping of one
    entry. -/
def flowItems? (shorthands : Shorthands) (first : Bool) :
    Nat → List Token → Option (List Tree × List Token)
  | 0, _ => none
  | fuel + 1, ts =>
    match ts with
    | .flowSequenceEnd :: rest => some ([], rest)
    | _ => do
      let ts ←
        if first then some ts
        else match ts with
          | .flowEntry :: rest => some rest
          | _ => none
      match ts with
      | .flowSequenceEnd :: rest => some ([], rest)
      | .key :: rest => do
        let (item, rest) ← flowPair? shorthands fuel rest
        let (items, rest) ← flowItems? shorthands false fuel rest
        some (item :: items, rest)
      | _ => do
        let (item, rest) ← node? shorthands .flow fuel ts
        let (items, rest) ← flowItems? shorthands false fuel rest
        some (item :: items, rest)

/-- A mapping of one entry inside a flow sequence. Where its key is left out, the token in its
    place is passed over. -/
def flowPair? (shorthands : Shorthands) : Nat → List Token → Option (Tree × List Token)
  | 0, _ => none
  | fuel + 1, ts => do
    let (k, rest) ←
      if onToken (fun t => t == .value || endsFlowPair t) ts then some (empty, ts.drop 1)
      else node? shorthands .flow fuel ts
    let (v, rest) ←
      match rest with
      | .value :: rest =>
        if onToken endsFlowPair rest then some (empty, rest)
        else node? shorthands .flow fuel rest
      | rest => some (empty, rest)
    some (.mapping .none [(k, v)], rest)

/-- The entries of a flow mapping and its end. -/
def flowEntries? (shorthands : Shorthands) (first : Bool) :
    Nat → List Token → Option (List (Tree × Tree) × List Token)
  | 0, _ => none
  | fuel + 1, ts =>
    match ts with
    | .flowMappingEnd :: rest => some ([], rest)
    | _ => do
      let ts ←
        if first then some ts
        else match ts with
          | .flowEntry :: rest => some rest
          | _ => none
      match ts with
      | .flowMappingEnd :: rest => some ([], rest)
      | .key :: rest => do
        let (k, rest) ←
          if onToken (fun t => t == .value || endsFlowPart t) rest then some (empty, rest)
          else node? shorthands .flow fuel rest
        let (v, rest) ←
          match rest with
          | .value :: rest =>
            if onToken endsFlowPart rest then some (empty, rest)
            else node? shorthands .flow fuel rest
          | rest => some (empty, rest)
        let (entries, rest) ← flowEntries? shorthands false fuel rest
        some ((k, v) :: entries, rest)
      | _ => do
        let (k, rest) ← node? shorthands .flow fuel ts
        let (entries, rest) ← flowEntries? shorthands false fuel rest
        some ((k, empty) :: entries, rest)

end

/-! ## Documents -/

/-- Directives before a document: at most one version, which is 1.1 or 1.2, and each handle at
    most once. -/
def directives? : Bool → Shorthands → List Token → Option (Shorthands × List Token)
  | seenVersion, shorthands, .version major minor :: rest =>
    if seenVersion || major != 1 || (minor != 1 && minor != 2) then none
    else directives? true shorthands rest
  | seenVersion, shorthands, .tagShorthand handle replacement :: rest =>
    if (shorthands.lookup handle).isSome then none
    else directives? seenVersion (shorthands ++ [(handle, replacement)]) rest
  | _, shorthands, ts => some (shorthands ++ defaultShorthands, ts)

/-- Whether a document that is opened by a marker has no node. -/
def endsDocument : Token → Bool
  | .version _ _ => true
  | .tagShorthand _ _ => true
  | .documentStart => true
  | .documentEnd => true
  | _ => false

/-- Whether the first document has to be opened by a marker. -/
def opensDocument : Token → Bool
  | .version _ _ => true
  | .tagShorthand _ _ => true
  | .documentStart => true
  | _ => false

/-- The first document of the tokens and what follows it. -/
def document? (ts : List Token) : Option (Tree × List Token) :=
  if !onToken opensDocument ts then
    node? defaultShorthands .block (4 * ts.length + 4) ts
  else do
    let (shorthands, ts) ← directives? false [] ts
    match ts with
    | .documentStart :: rest =>
      if rest.isEmpty || onToken endsDocument rest then some (empty, rest)
      else node? shorthands .block (4 * rest.length + 4) rest
    | _ => none

/-- The only document of a text: none if there is none, and a failure if the text is not YAML or
    holds more than one document. -/
def ofText? (text : String) : Option (Option Tree) := do
  let ts ← Token.ofText? text
  if ts.isEmpty then some none
  else
    let (tree, rest) ← document? ts
    if rest.all (· == .documentEnd) then some (some tree) else none

end Tree

end AdmissionRules.Yaml
