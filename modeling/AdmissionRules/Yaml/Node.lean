import AdmissionRules.Yaml.Tree

set_option autoImplicit false

/-! # YAML nodes

The node of a document is its tree with every alias replaced by the node it stands for. Anchors
are numbered by the count of different names before them, so that an anchor whose name was used
before shares its number with the next new name; an alias stands for the last node of its
number. Aliases are followed at most a hundred times per part of the document, and nodes nest at
most 128 deep, which also ends the unfolding of a node that contains itself. A mapping under a
tag with a name covers its keys: their own tags are dropped. -/

namespace AdmissionRules.Yaml

inductive Node where
  | scalar (tag : Option Tag) (plain : Bool) (text : String)
  | sequence (tag : Option Tag) (items : List Node)
  | mapping (tag : Option Tag) (entries : List (Node × Node))
deriving Inhabited

/-- A tree whose aliases carry the number of their anchor. -/
inductive Linked where
  | alias (number : Nat)
  | scalar (tag : Option Tag) (plain : Bool) (text : String)
  | sequence (tag : Option Tag) (items : List Linked)
  | mapping (tag : Option Tag) (entries : List (Linked × Linked))
deriving Inhabited

namespace Linked

/-! ## Numbering of anchors -/

/-- The names of the anchors so far with their numbers, and the anchored nodes in the order in
    which they begin. -/
structure Anchors where
  numbers : List (String × Nat)
  targets : List (Nat × Linked)

/-- The numbers after an anchor, and the number it gets. -/
def number (anchor : Option String) (numbers : List (String × Nat)) :
    List (String × Nat) × Option Nat :=
  match anchor with
  | some name =>
    let n := numbers.length
    (Ascending.insert name n numbers, some n)
  | none => (numbers, none)

/-- The anchored nodes of a node: itself if it has a number, and then those inside it. -/
def withSelf (n : Option Nat) (self : Linked) (inner : List (Nat × Linked)) :
    List (Nat × Linked) :=
  match n with
  | some n => (n, self) :: inner
  | none => inner

mutual

/-- Numbers the anchors and aliases of a tree; an alias needs an anchor before it. -/
def ofTree? : List (String × Nat) → Tree → Option (Linked × Anchors)
  | numbers, .alias name => do
    let n ← Ascending.get? name numbers
    some (.alias n, { numbers, targets := [] })
  | numbers, .scalar p plain text =>
    let (numbers, n) := number p.anchor numbers
    let self : Linked := .scalar p.tag plain text
    some (self, { numbers, targets := withSelf n self [] })
  | numbers, .sequence p items => do
    let (numbers, n) := number p.anchor numbers
    let (items, inner) ← ofTrees? numbers items
    let self : Linked := .sequence p.tag items
    some (self, { inner with targets := withSelf n self inner.targets })
  | numbers, .mapping p entries => do
    let (numbers, n) := number p.anchor numbers
    let (entries, inner) ← ofEntries? numbers entries
    let self : Linked := .mapping p.tag entries
    some (self, { inner with targets := withSelf n self inner.targets })

def ofTrees? : List (String × Nat) → List Tree → Option (List Linked × Anchors)
  | numbers, [] => some ([], { numbers, targets := [] })
  | numbers, t :: rest => do
    let (l, first) ← ofTree? numbers t
    let (ls, others) ← ofTrees? first.numbers rest
    some (l :: ls, { others with targets := first.targets ++ others.targets })

def ofEntries? : List (String × Nat) → List (Tree × Tree) →
    Option (List (Linked × Linked) × Anchors)
  | numbers, [] => some ([], { numbers, targets := [] })
  | numbers, (k, v) :: rest => do
    let (k, atKey) ← ofTree? numbers k
    let (v, atValue) ← ofTree? atKey.numbers v
    let (entries, others) ← ofEntries? atValue.numbers rest
    some ((k, v) :: entries,
      { others with targets := atKey.targets ++ atValue.targets ++ others.targets })

end

mutual

/-- The number of parts of a node: scalars and aliases are one part, the start and the end of a
    sequence or mapping another two. -/
def parts : Linked → Nat
  | .sequence _ items => 2 + partsOfItems items
  | .mapping _ entries => 2 + partsOfEntries entries
  | _ => 1

def partsOfItems : List Linked → Nat
  | [] => 0
  | l :: rest => parts l + partsOfItems rest

def partsOfEntries : List (Linked × Linked) → Nat
  | [] => 0
  | (k, v) :: rest => parts k + parts v + partsOfEntries rest

end

/-! ## Following aliases -/

/-- A node to follow: itself, or the last target of its number at the cost of one jump. -/
def target? (targets : List (Nat × Linked)) (limit jumps : Nat) : Linked → Option (Linked × Nat)
  | .alias n => do
    if limit ≤ jumps then none
    let l ← targets.reverse.lookup n
    some (l, jumps + 1)
  | l => some (l, jumps)

/-- Follows the members of a list one after the other, counting jumps. -/
def followAll? {α β : Type} (follow? : Nat → α → Option (β × Nat)) :
    Nat → List α → Option (List β × Nat)
  | jumps, [] => some ([], jumps)
  | jumps, x :: rest => do
    let (y, jumps) ← follow? jumps x
    let (ys, jumps) ← followAll? follow? jumps rest
    some (y :: ys, jumps)

/-- Whether a node stands in its own place and not behind an alias. -/
def isInPlace : Linked → Bool
  | .alias _ => false
  | _ => true

/-- The node of a linked tree with `depth` levels to go. A node that is `covered` drops its tag,
    but what an alias stands for is never covered. -/
def follow? (targets : List (Nat × Linked)) (limit : Nat) :
    Nat → Bool → Nat → Linked → Option (Node × Nat)
  | depth, covered, jumps, l => do
    let covered := covered && l.isInPlace
    let kept (tag : Option Tag) : Option Tag := if covered then none else tag
    let (l, jumps) ← target? targets limit jumps l
    match l, depth with
    | .alias _, _ => none
    | .scalar tag plain text, _ => some (.scalar (kept tag) plain text, jumps)
    | .sequence _ _, 0 => none
    | .sequence tag items, depth + 1 => do
      let (items, jumps) ← followAll? (fun j l => follow? targets limit depth false j l) jumps items
      some (.sequence (kept tag) items, jumps)
    | .mapping _ _, 0 => none
    | .mapping tag entries, depth + 1 => do
      let keysCovered := covered || (tag.bind Tag.localName?).isSome
      let (entries, jumps) ← followAll? (fun j (e : Linked × Linked) => do
        let (k, j) ← follow? targets limit depth keysCovered j e.1
        let (v, j) ← follow? targets limit depth false j e.2
        some ((k, v), j)) jumps entries
      some (.mapping (kept tag) entries, jumps)

end Linked

namespace Node

/-- Nodes nest at most this deep. -/
def maxDepth : Nat := 128

/-- How often aliases may be followed for each part of a document. -/
def jumpsPerPart : Nat := 100

def ofTree? (tree : Tree) : Option Node := do
  let (root, anchors) ← Linked.ofTree? [] tree
  let (node, _) ← Linked.follow? anchors.targets (jumpsPerPart * root.parts) maxDepth false 0 root
  some node

/-- The node of a text: none if it holds no document, a failure if it is not YAML. -/
def ofText? (text : String) : Option (Option Node) := do
  match ← Tree.ofText? text with
  | some tree => some (some (← ofTree? tree))
  | none => some none

/-! ## Looking at nodes

A plain scalar without text stands for an empty sequence and an empty mapping too. -/

/-- The spellings of null. -/
def isNullText (text : String) : Bool :=
  text == "null" || text == "Null" || text == "NULL" || text == "~"

/-- The text of a scalar, whatever it would stand for. -/
def text? : Node → Option String
  | .scalar _ _ text => some text
  | _ => none

def items? : Node → Option (List Node)
  | .sequence _ items => some items
  | .scalar _ plain text => if plain && text.isEmpty then some [] else none
  | .mapping _ _ => none

def entries? : Node → Option (List (Node × Node))
  | .mapping _ entries => some entries
  | .scalar _ plain text => if plain && text.isEmpty then some [] else none
  | .sequence _ _ => none

/-- Whether the node stands for nothing: a plain scalar that is empty or spells null. The null
    tag demands such a spelling. -/
def isAbsent? : Node → Option Bool
  | .scalar tag plain text =>
    if !plain then some false
    else match tag with
      | some tag =>
        if tag = Tag.core "null" then (if isNullText text then some true else none) else some false
      | none => some (text.isEmpty || isNullText text)
  | _ => some false

end Node

end AdmissionRules.Yaml
