import AdmissionRules.Yaml.Value

set_option autoImplicit false

/-! # Policy drafts

A policy document as it is written, before anything in it is checked: types and operators are
still names, values are still YAML. Every key may be left out and has a default; a key that is
not known, or that is given twice, makes the text no draft at all. -/

namespace AdmissionRules

/-! ## Drafts -/

structure RuleDraft where
  field : String
  type : String
  op : String
  value : Yaml.Value
deriving Inhabited

/-- The rules that one entry gives for a kind. -/
structure KindDraft where
  apiVersion : Option String
  kind : String
  rules : List RuleDraft
deriving Inhabited

structure PolicyDraft where
  kinds : List KindDraft
  adminGroups : List String
deriving Inhabited

/-! ## Records

A record is a mapping whose keys come from a fixed list, none of them twice. -/

namespace Yaml.Node

/-- The entries of a mapping under the texts of their keys. -/
def namedEntries? (node : Node) : Option (List (String × Node)) := do
  let entries ← node.entries?
  entries.mapM fun (key, value) => key.text?.map (·, value)

/-- The fields of a record with the given keys. -/
def fields? (keys : List String) (node : Node) : Option (List (String × Node)) := do
  let fields ← node.namedEntries?
  let used := fields.map (·.1)
  if (∀ key ∈ used, key ∈ keys) ∧ used.Nodup then some fields else none

/-- A field of a record as `read?` reads it, or the default of a field left out. -/
def fieldOr? {α : Type} (default : α) (read? : Node → Option α) (key : String)
    (fields : List (String × Node)) : Option α :=
  match fields.lookup key with
  | some node => read? node
  | none => some default

def list? {α : Type} (read? : Node → Option α) (node : Node) : Option (List α) := do
  (← node.items?).mapM read?

/-- A text, or nothing at a node that stands for nothing. -/
def optionalText? (node : Node) : Option (Option String) := do
  if ← node.isAbsent? then some none else node.text?.map some

end Yaml.Node

/-! ## Reading -/

open Yaml (Node)

def RuleDraft.ofNode? (node : Node) : Option RuleDraft := do
  let fields ← node.fields? ["field", "type", "op", "value"]
  let field ← Node.fieldOr? "" Node.text? "field" fields
  let type ← Node.fieldOr? "" Node.text? "type" fields
  let op ← Node.fieldOr? "" Node.text? "op" fields
  let value ← Node.fieldOr? .null Yaml.Value.ofNode? "value" fields
  some { field, type, op, value }

def KindDraft.ofNode? (node : Node) : Option KindDraft := do
  let fields ← node.fields? ["apiVersion", "kind", "rules"]
  let apiVersion ← Node.fieldOr? none Node.optionalText? "apiVersion" fields
  let kind ← Node.fieldOr? "" Node.text? "kind" fields
  let rules ← Node.fieldOr? [] (Node.list? RuleDraft.ofNode?) "rules" fields
  some { apiVersion, kind, rules }

namespace PolicyDraft

/-- The draft that a text without a document stands for. -/
def empty : PolicyDraft := { kinds := [], adminGroups := [] }

def ofNode? (node : Node) : Option PolicyDraft := do
  if ← node.isAbsent? then some empty
  else
    let fields ← node.fields? ["forKindsRules", "adminGroups"]
    let kinds ← Node.fieldOr? [] (Node.list? KindDraft.ofNode?) "forKindsRules" fields
    let adminGroups ← Node.fieldOr? [] (Node.list? Node.text?) "adminGroups" fields
    some { kinds, adminGroups }

def ofText? (text : String) : Option PolicyDraft := do
  match ← Node.ofText? text with
  | some node => ofNode? node
  | none => some empty

end PolicyDraft

end AdmissionRules
