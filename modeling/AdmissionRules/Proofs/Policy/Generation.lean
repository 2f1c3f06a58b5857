import AdmissionRules.Proofs.Policy.Publication
import AdmissionRules.Proofs.Policy.WellFormed

set_option autoImplicit false

/-! # Generations of a store

A store that only loads texts is in step: the next load takes the generation behind the one in
force. So an accepted text always puts its document in force, one generation on
(`Store.InStep.load_of_parse_ok`), and keeps the store in step. -/

namespace AdmissionRules.Store

/-- The next load takes the generation behind the one in force. -/
def InStep (store : Store) : Prop := store.nextGeneration = store.generation + 1

/-- The store with a document in force, one generation on. -/
def advance (store : Store) (d : PolicyDocument) : Store :=
  { current := .build d (store.generation + 1), nextGeneration := store.generation + 2 }

theorem inStep_new : new.InStep := rfl

theorem inStep_advance (store : Store) (d : PolicyDocument) : (store.advance d).InStep := rfl

theorem InStep.accept_eq {store : Store} (hstore : store.InStep) (d : PolicyDocument) :
    store.accept d = store.advance d := by
  unfold InStep at hstore
  have hahead : store.generation < store.nextGeneration := by
    rw [hstore]
    exact Nat.lt_succ_self _
  rw [accept_of_ahead hahead, advance, hstore]

theorem InStep.load_of_parse_ok {store : Store} (hstore : store.InStep) {text : String}
    {d : PolicyDocument} (h : PolicyDocument.parse text = .ok d) :
    store.load text = (.ok (store.generation + 1), store.advance d) := by
  rw [store.load_of_parse_ok h, hstore.accept_eq d, hstore]

theorem InStep.load {store : Store} (hstore : store.InStep) (text : String) :
    (store.load text).2.InStep := by
  cases hparse : PolicyDocument.parse text with
  | error e =>
      rw [store.load_of_parse_error hparse]
      exact hstore
  | ok d =>
      rw [hstore.load_of_parse_ok hparse]
      exact store.inStep_advance d

theorem InStep.loadAll {store : Store} (hstore : store.InStep) (texts : List String) :
    (store.loadAll texts).InStep := by
  induction texts generalizing store with
  | nil => exact hstore
  | cons text rest ih => exact ih (hstore.load text)

end AdmissionRules.Store
