import AdmissionRules.Policy.Snapshot

set_option autoImplicit false

/-! # The policy store

The store holds the snapshot in force. A load takes the next generation and publishes a new
snapshot; a text with a defect changes nothing. A snapshot that is older than the one in force is
never published, so the generation only grows. -/

namespace AdmissionRules

structure Store where
  current : Snapshot
  nextGeneration : Nat
deriving DecidableEq

namespace Store

def new : Store := { current := .initial, nextGeneration := 1 }

/-- Puts a snapshot in force, unless a newer one already is. -/
def publish (store : Store) (s : Snapshot) : Store :=
  if store.current.generation < s.generation then { store with current := s } else store

/-- Loads a text and answers with its generation, or with its first defect. -/
def load (store : Store) (text : String) : Except DocumentError Nat × Store :=
  match PolicyDocument.parse text with
  | .error e => (.error e, store)
  | .ok document =>
    let generation := store.nextGeneration
    let reserved := { store with nextGeneration := generation + 1 }
    (.ok generation, reserved.publish (.build document generation))

def generation (store : Store) : Nat := store.current.generation

end Store

end AdmissionRules
