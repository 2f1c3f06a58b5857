import AdmissionRules.Policy.Document

set_option autoImplicit false

/-! # Snapshots

A document as it is in force: its rules indexed by kind, and its generation. Entries for one
kind are joined in the order of the document. -/

namespace AdmissionRules

structure Snapshot where
  document : PolicyDocument
  /-- The rules of every kind of the document, in ascending order of the kinds. -/
  index : List (String × List Rule)
  generation : Nat
deriving DecidableEq

namespace Snapshot

/-- Adds the rules of an entry behind those that its kind has already. -/
def indexEntry (index : List (String × List Rule)) (entry : KindRules) :
    List (String × List Rule) :=
  Ascending.alter entry.kind (fun rules? => rules?.getD [] ++ entry.rules) index

/-- The rules of every kind that some entry names. -/
def indexOf (entries : List KindRules) : List (String × List Rule) := entries.foldl indexEntry []

def build (document : PolicyDocument) (generation : Nat) : Snapshot :=
  { document, index := indexOf document.entries, generation }

/-- What is in force before any document is loaded. -/
def initial : Snapshot := build .default 0

def rulesFor (s : Snapshot) (kind : String) : List Rule := (Ascending.get? kind s.index).getD []

/-- The kinds that the document names, those without rules included. -/
def kinds (s : Snapshot) : List String := s.index.map (·.1)

/-- The number of rules of all kinds. -/
def ruleCount (s : Snapshot) : Nat := s.index.foldr (fun entry n => entry.2.length + n) 0

def adminGroups (s : Snapshot) : List String := s.document.adminGroups

/-- Whether one of the groups is exempt. -/
def isAdmin (s : Snapshot) (groups : List String) : Bool :=
  groups.any fun g => s.adminGroups.contains g

end Snapshot

end AdmissionRules
