import AdmissionRules.Policy.Draft
import AdmissionRules.Rule.Basic

set_option autoImplicit false

/-! # Policy documents

A checked policy: the rules for kinds in the order of the document, and the groups whose members
are exempt. `PolicyDocument.parse` reads a text and reports its first defect; a text that is no
draft is reported before any other defect. -/

namespace AdmissionRules

/-! ## Documents -/

/-- The rules that one entry of a document gives for a kind. -/
structure KindRules where
  apiVersion : Option String
  kind : String
  rules : List Rule
deriving DecidableEq

structure PolicyDocument where
  /-- The entries in the order of the document. -/
  entries : List KindRules
  /-- The exempt groups in ascending order. -/
  adminGroups : List String
deriving DecidableEq

/-- The group of administrators, exempt when a document names no group. -/
def defaultAdminGroup : String := "system:masters"

/-- The document that demands nothing. -/
def PolicyDocument.default : PolicyDocument :=
  { entries := [], adminGroups := [defaultAdminGroup] }

/-! ## Defects -/

/-- Where a rule stands: the position and the kind of its entry, and its position there. -/
structure RulePlace where
  entry : Nat
  kind : String
  rule : Nat
deriving DecidableEq

inductive DocumentError where
  | unreadable
  | missingKind (entry : Nat)
  | unknownType (place : RulePlace) (name : String)
  | unknownOperator (place : RulePlace) (name : String)
  | invalidRule (place : RulePlace) (defect : RuleDefect)
deriving DecidableEq

def RulePlace.text (p : RulePlace) : String :=
  s!"forKindsRules[{p.entry}] ({p.kind}) rules[{p.rule}]: "

/-- The text of an error; `yamlProblem` is what the YAML reader says of a text that is no draft. -/
def DocumentError.message (yamlProblem : String) : DocumentError → String
  | .unreadable => "error parsing yaml: " ++ yamlProblem
  | .missingKind entry => s!"forKindsRules[{entry}]: kind must not be empty"
  | .unknownType place name => place.text ++ "unknown rule type " ++ Text.quoted name
  | .unknownOperator place name => place.text ++ "unknown operator " ++ Text.quoted name
  | .invalidRule place defect => place.text ++ defect.message

/-! ## Checking -/

/-- Converts the members of a list, each with its position, up to the first failure. -/
def convertAll {α β ε : Type} (convert : Nat → α → Except ε β) :
    Nat → List α → Except ε (List β)
  | _, [] => .ok []
  | i, x :: rest => do
    let y ← convert i x
    let ys ← convertAll convert (i + 1) rest
    .ok (y :: ys)

/-- The rule of a draft. The operator is checked against the type before the value is
    converted. -/
def Rule.ofDraft (place : RulePlace) (d : RuleDraft) : Except DocumentError Rule :=
  match ValueType.ofName? d.type with
  | none => .error (.unknownType place d.type)
  | some type =>
    match Operator.ofName? d.op with
    | none => .error (.unknownOperator place d.op)
    | some op =>
      if !op.supports type then .error (.invalidRule place (.unsupportedOperator type op))
      else
        (do Rule.make d.field type op (← RuleValue.ofYaml type op d.value)).mapError
          (.invalidRule place ·)

/-- A text that says something. -/
def nonempty? (s : String) : Option String := if s.isEmpty then none else some s

def KindRules.ofDraft (entry : Nat) (d : KindDraft) : Except DocumentError KindRules :=
  if d.kind.isEmpty then .error (.missingKind entry)
  else do
    let rules ← convertAll (fun rule r => Rule.ofDraft { entry, kind := d.kind, rule } r) 0 d.rules
    .ok { apiVersion := d.apiVersion.bind nonempty?, kind := d.kind, rules }

namespace PolicyDocument

/-- The exempt groups: the nonempty names listed, or the default group if there is none. -/
def adminGroupsOf (names : List String) : List String :=
  match Ascending.set (names.filter fun s => !s.isEmpty) with
  | [] => [defaultAdminGroup]
  | groups => groups

def ofDraft (d : PolicyDraft) : Except DocumentError PolicyDocument := do
  let entries ← convertAll KindRules.ofDraft 0 d.kinds
  .ok { entries, adminGroups := adminGroupsOf d.adminGroups }

/-- The document of a text. -/
def parse (text : String) : Except DocumentError PolicyDocument :=
  match PolicyDraft.ofText? text with
  | some d => ofDraft d
  | none => .error .unreadable

end PolicyDocument

end AdmissionRules
