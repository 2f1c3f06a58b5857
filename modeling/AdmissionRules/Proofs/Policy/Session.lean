import AdmissionRules.Decision.Basic
import AdmissionRules.Proofs.Policy.Publication
import AdmissionRules.Word
import Mathlib.Data.List.Basic

set_option autoImplicit false

/-! # Sessions with a store

A session is a run of operations on one store: loads, reads, decisions, and snapshots that are
kept under a name and read later. Every answer can be told from the operations before it alone
(`expected`): what is in force is the last document accepted, under the number of documents
accepted so far, and a kept snapshot is what was in force when it was kept. The main statement
says that a session from a new store gives these answers (`run_answers`). -/

namespace AdmissionRules

/-! ## Operations -/

/-- What a snapshot can be asked. -/
inductive Query where
  | rulesFor (kind : String)
  | kinds
  | adminGroups
  | isAdmin (groups : List String)
  | generation
  | ruleCount
  | entries

/-- What can be done with a store. -/
inductive Operation where
  | load (text : String)
  | read (q : Query)
  | snapshot
  | decide (subject : Subject) (checks : Nat → Option Exhaustion)
  /-- Keep the snapshot in force under a name. -/
  | keep (name : String)
  | readKept (name : String) (q : Query)

inductive Answer where
  | loaded (result : Except DocumentError Nat)
  | rules (rules : List Rule)
  | names (names : List String)
  | truth (b : Bool)
  | number (n : Nat)
  | entries (entries : List KindRules)
  | snapshot (s : Snapshot)
  | decision (d : Decision)
  | kept
  /-- No snapshot was kept under the name. -/
  | missing

def Snapshot.answer (s : Snapshot) : Query → Answer
  | .rulesFor kind => .rules (s.rulesFor kind)
  | .kinds => .names s.kinds
  | .adminGroups => .names s.adminGroups
  | .isAdmin groups => .truth (s.isAdmin groups)
  | .generation => .number s.generation
  | .ruleCount => .number s.ruleCount
  | .entries => .entries s.document.entries

/-! ## Sessions -/

structure Session where
  store : Store
  /-- The snapshots kept, the last one first. -/
  kept : List (String × Snapshot)

namespace Session

def new : Session := { store := .new, kept := [] }

def step (s : Session) : Operation → Session × Answer
  | .load text =>
    let (result, store) := s.store.load text
    ({ s with store }, .loaded result)
  | .read q => (s, s.store.current.answer q)
  | .snapshot => (s, .snapshot s.store.current)
  | .decide subject checks => (s, .decision (s.store.current.decide subject checks))
  | .keep name => ({ s with kept := (name, s.store.current) :: s.kept }, .kept)
  | .readKept name q =>
    (s, match s.kept.lookup name with
      | some snapshot => snapshot.answer q
      | none => .missing)

/-- Runs operations one after the other and collects their answers. -/
def run : Session → List Operation → Session × List Answer
  | s, [] => (s, [])
  | s, op :: rest =>
    let (s, answer) := s.step op
    let (s, answers) := s.run rest
    (s, answer :: answers)

end Session

/-! ## What a history of operations leads to -/

/-- The document that an operation has accepted. -/
def Operation.accepted? : Operation → Option PolicyDocument
  | .load text => (PolicyDocument.parse text).toOption
  | _ => none

def Operation.isLoad : Operation → Bool
  | .load _ => true
  | _ => false

/-- The name under which an operation keeps the snapshot in force. -/
def Operation.keeps? : Operation → Option String
  | .keep name => some name
  | _ => none

theorem Operation.accepted?_load_of_ok {text : String} {document : PolicyDocument}
    (h : PolicyDocument.parse text = .ok document) :
    (Operation.load text).accepted? = some document := by
  rw [accepted?, h]
  rfl

theorem Operation.accepted?_load_of_error {text : String} {e : DocumentError}
    (h : PolicyDocument.parse text = .error e) : (Operation.load text).accepted? = none := by
  rw [accepted?, h]
  rfl

namespace History

/-- The documents accepted, in order. -/
def accepted (history : List Operation) : List PolicyDocument :=
  history.filterMap Operation.accepted?

/-- The last document accepted, under the number of those accepted; before there is one, the
    document that demands nothing. -/
def inForce (history : List Operation) : Snapshot :=
  match (accepted history).getLast? with
  | some document => .build document (accepted history).length
  | none => .build .default 0

/-- The operations before the last one that kept a snapshot under a name. -/
def beforeKeep (name : String) : List Operation → Option (List Operation)
  | [] => none
  | op :: rest =>
    match beforeKeep name rest with
    | some before => some (op :: before)
    | none => if op.keeps? = some name then some [] else none

/-- The answer to an operation, told from the operations before it. -/
def expected (history : List Operation) : Operation → Answer
  | .load text =>
    .loaded ((PolicyDocument.parse text).map fun _ => (accepted history).length + 1)
  | .read q => (inForce history).answer q
  | .snapshot => .snapshot (inForce history)
  | .decide subject checks => .decision ((inForce history).decide subject checks)
  | .keep _ => .kept
  | .readKept name q =>
    match beforeKeep name history with
    | some before => (inForce before).answer q
    | none => .missing

/-- The answers to operations that follow a history. -/
def expectedAll : List Operation → List Operation → List Answer
  | _, [] => []
  | history, op :: rest => expected history op :: expectedAll (history ++ [op]) rest

/-! ## One more operation -/

theorem accepted_singleton (op : Operation) : accepted [op] = op.accepted?.toList := by
  cases h : op.accepted? with
  | none => simp [accepted, h]
  | some document => simp [accepted, h]

theorem accepted_append (history later : List Operation) :
    accepted (history ++ later) = accepted history ++ accepted later :=
  List.filterMap_append

/-- What is in force changes with what is accepted only. -/
theorem inForce_append_of_not_accepted (history : List Operation) {op : Operation}
    (h : op.accepted? = none) : inForce (history ++ [op]) = inForce history := by
  unfold inForce
  rw [accepted_append, accepted_singleton, h, Option.toList_none, List.append_nil]

theorem length_accepted_le (history : List Operation) :
    (accepted history).length ≤ history.countP Operation.isLoad := by
  induction history with
  | nil => exact Nat.zero_le _
  | cons op rest ih =>
      cases op with
      | load text =>
          have hload : (Operation.load text).isLoad = true := rfl
          -- a load accepts at most one document
          have hone : (accepted [Operation.load text]).length ≤ 1 := List.length_filterMap_le _ _
          rw [List.countP_cons_of_pos hload, ← List.singleton_append, accepted_append,
            List.length_append]
          omega
      | _ => exact ih

theorem inForce_append_of_accepted (history : List Operation) {op : Operation}
    {document : PolicyDocument} (h : op.accepted? = some document) :
    inForce (history ++ [op]) = .build document ((accepted history).length + 1) := by
  unfold inForce
  rw [accepted_append, accepted_singleton, h, Option.toList_some, List.getLast?_concat,
    List.length_append, List.length_singleton]

theorem generation_inForce (history : List Operation) :
    (inForce history).generation = (accepted history).length := by
  unfold inForce
  split
  · rfl
  · rename_i hnone
    rw [List.getLast?_eq_none_iff.1 hnone]
    rfl

theorem beforeKeep_append_of_keeps {name : String} (history : List Operation) {op : Operation}
    (h : op.keeps? = some name) : beforeKeep name (history ++ [op]) = some history := by
  induction history with
  | nil => simp only [List.nil_append, beforeKeep, h, if_pos]
  | cons first rest ih => simp only [List.cons_append, beforeKeep, ih]

theorem beforeKeep_append_of_not_keeps {name : String} (history : List Operation)
    {op : Operation} (h : op.keeps? ≠ some name) :
    beforeKeep name (history ++ [op]) = beforeKeep name history := by
  induction history with
  | nil => simp only [List.nil_append, beforeKeep, if_neg h]
  | cons first rest ih => simp only [List.cons_append, beforeKeep, ih]

theorem beforeKeep_append_of_forall_not_keeps {name : String} (history later : List Operation)
    (h : ∀ op ∈ later, op.keeps? ≠ some name) :
    beforeKeep name (history ++ later) = beforeKeep name history := by
  induction later generalizing history with
  | nil => rw [List.append_nil]
  | cons op rest ih =>
      obtain ⟨hop, hrest⟩ := List.forall_mem_cons.1 h
      rw [← List.singleton_append, ← List.append_assoc, ih (history ++ [op]) hrest,
        beforeKeep_append_of_not_keeps history hop]

end History

/-! ## Sessions agree with their history -/

open History

/-- The state of a session is what its history leads to. -/
structure Session.Agrees (s : Session) (history : List Operation) : Prop where
  current : s.store.current = inForce history
  nextGeneration : s.store.nextGeneration = (accepted history).length + 1
  kept : ∀ name, s.kept.lookup name = (beforeKeep name history).map inForce

namespace Session

theorem agrees_new : new.Agrees [] where
  current := rfl
  nextGeneration := rfl
  kept _ := rfl

/-- A load that is accepted puts the next snapshot in force: nothing newer is in force yet. -/
theorem load_of_ok {s : Session} {history : List Operation} (h : s.Agrees history)
    {text : String} {document : PolicyDocument}
    (hparse : PolicyDocument.parse text = .ok document) :
    s.store.load text =
      (.ok ((accepted history).length + 1),
        { current := .build document ((accepted history).length + 1)
          nextGeneration := (accepted history).length + 2 }) := by
  have hahead : s.store.generation < s.store.nextGeneration := by
    rw [Store.generation, h.current, generation_inForce, h.nextGeneration]
    exact Nat.lt_succ_self _
  rw [s.store.load_of_parse_ok hparse, Store.accept_of_ahead hahead, h.nextGeneration]

/-- An operation that accepts nothing and keeps nothing leaves a session in agreement. -/
theorem Agrees.append {s : Session} {history : List Operation} (h : s.Agrees history)
    {op : Operation} (haccepted : op.accepted? = none) (hkeep : op.keeps? = none) :
    s.Agrees (history ++ [op]) where
  current := by rw [h.current, inForce_append_of_not_accepted history haccepted]
  nextGeneration := by
    rw [h.nextGeneration, accepted_append, accepted_singleton, haccepted, Option.toList_none,
      List.append_nil]
  kept name := by
    have hname : op.keeps? ≠ some name := by
      rw [hkeep]
      exact (Option.some_ne_none name).symm
    rw [h.kept, beforeKeep_append_of_not_keeps history hname]

/-- **One operation**: the answer is the expected one, and the session stays in agreement. -/
theorem step_spec {s : Session} {history : List Operation} (h : s.Agrees history)
    (op : Operation) :
    (s.step op).2 = expected history op ∧ (s.step op).1.Agrees (history ++ [op]) := by
  cases op with
  | load text =>
      cases hparse : PolicyDocument.parse text with
      | error e =>
          have haccepted := Operation.accepted?_load_of_error hparse
          simp only [step, s.store.load_of_parse_error hparse, expected, hparse]
          exact ⟨rfl, h.append haccepted rfl⟩
      | ok document =>
          have haccepted := Operation.accepted?_load_of_ok hparse
          simp only [step, load_of_ok h hparse, expected, hparse]
          refine ⟨rfl, ?_, ?_, ?_⟩
          · exact (inForce_append_of_accepted history haccepted).symm
          · rw [accepted_append, accepted_singleton, haccepted, List.length_append]
            rfl
          · intro name
            have hname : (Operation.load text).keeps? ≠ some name :=
              (Option.some_ne_none name).symm
            rw [beforeKeep_append_of_not_keeps history hname]
            exact h.kept name
  | read q =>
      refine ⟨?_, h.append rfl rfl⟩
      simp only [step, expected, h.current]
  | snapshot =>
      refine ⟨?_, h.append rfl rfl⟩
      simp only [step, expected, h.current]
  | decide subject checks =>
      refine ⟨?_, h.append rfl rfl⟩
      simp only [step, expected, h.current]
  | keep name =>
      refine ⟨rfl, ?_, ?_, ?_⟩
      · exact h.current.trans (inForce_append_of_not_accepted history rfl).symm
      · rw [accepted_append, List.length_append]
        exact h.nextGeneration
      · intro other
        by_cases hname : other = name
        · -- what was kept under this name before is hidden now
          subst hname
          rw [beforeKeep_append_of_keeps history rfl]
          simp only [step, List.lookup_cons, beq_self_eq_true, h.current, Option.map_some]
        · have hne : (Operation.keep name).keeps? ≠ some other := by
            simpa only [Operation.keeps?, ne_eq, Option.some.injEq] using Ne.symm hname
          rw [beforeKeep_append_of_not_keeps history hne, ← h.kept other]
          simp only [step, List.lookup_cons, beq_false_of_ne hname]
  | readKept name q =>
      refine ⟨?_, h.append rfl rfl⟩
      simp only [step, expected, h.kept name]
      cases beforeKeep name history <;> rfl

/-- A run gives the expected answers and ends in agreement. -/
theorem run_spec {s : Session} {history : List Operation} (h : s.Agrees history)
    (ops : List Operation) :
    (s.run ops).2 = expectedAll history ops ∧ (s.run ops).1.Agrees (history ++ ops) := by
  induction ops generalizing s history with
  | nil =>
      rw [List.append_nil]
      exact ⟨rfl, h⟩
  | cons op rest ih =>
      obtain ⟨hanswer, hnext⟩ := step_spec h op
      obtain ⟨hanswers, hend⟩ := ih hnext
      rw [List.append_assoc, List.singleton_append] at hend
      refine ⟨?_, hend⟩
      simp only [run, expectedAll, hanswer, hanswers]

theorem length_run (s : Session) (ops : List Operation) :
    (s.run ops).2.length = ops.length := by
  induction ops generalizing s with
  | nil => rfl
  | cons op rest ih => simp only [run, List.length_cons, ih]

/-- What was done before does not depend on what is done after. -/
theorem run_append (s : Session) (before after : List Operation) :
    s.run (before ++ after) =
      (((s.run before).1.run after).1, (s.run before).2 ++ ((s.run before).1.run after).2) := by
  induction before generalizing s with
  | nil => rfl
  | cons op rest ih => simp only [List.cons_append, run, ih]

/-- After a history, the answer to one more operation is the expected one. -/
theorem run_concat (before : List Operation) (op : Operation) :
    (new.run (before ++ [op])).2 = (new.run before).2 ++ [expected before op] := by
  have hagrees : (new.run before).1.Agrees before := (run_spec agrees_new before).2
  rw [run_append, ← (step_spec hagrees op).1]
  rfl

theorem run_load_of_ok (before : List Operation) {text : String} {document : PolicyDocument}
    (hparse : PolicyDocument.parse text = .ok document) :
    (new.run (before ++ [.load text])).2 =
        (new.run before).2 ++ [.loaded (.ok ((accepted before).length + 1))] ∧
      (new.run (before ++ [.load text])).1.store.current =
        .build document ((accepted before).length + 1) := by
  have haccepted := Operation.accepted?_load_of_ok hparse
  constructor
  · rw [run_concat, expected, hparse]
    rfl
  · have hagrees : (new.run (before ++ [.load text])).1.Agrees (before ++ [.load text]) :=
      (run_spec agrees_new _).2
    rw [hagrees.current]
    exact inForce_append_of_accepted before haccepted

theorem run_load_of_error (before after : List Operation) {text : String} {e : DocumentError}
    (hparse : PolicyDocument.parse text = .error e) :
    ∃ earlier later, earlier.length = before.length ∧
      (new.run (before ++ after)).2 = earlier ++ later ∧
      (new.run (before ++ .load text :: after)).2 = earlier ++ .loaded (.error e) :: later := by
  refine ⟨(new.run before).2, ((new.run before).1.run after).2, length_run _ _, ?_, ?_⟩
  · rw [run_append]
  · rw [run_append]
    simp only [run, step, Store.load_of_parse_error _ hparse]

/-- A kept snapshot answers as when it was kept, whatever is loaded in between. -/
theorem run_readKept (before between : List Operation) (name : String) (q : Query)
    (hbetween : ∀ op ∈ between, op.keeps? ≠ some name) :
    (new.run (before ++ .keep name :: between ++ [.readKept name q])).2 =
      (new.run (before ++ .keep name :: between)).2 ++
        [(new.run before).1.store.current.answer q] := by
  have hkept : beforeKeep name (before ++ .keep name :: between) = some before := by
    rw [← List.singleton_append, ← List.append_assoc,
      beforeKeep_append_of_forall_not_keeps _ between hbetween]
    exact beforeKeep_append_of_keeps before rfl
  rw [run_concat, expected, hkept, (run_spec agrees_new before).2.current]
  rfl

theorem nextGeneration_lt (ops : List Operation)
    (hloads : ops.countP Operation.isLoad < twoTo 64 - 1) :
    (new.run ops).1.store.nextGeneration < twoTo 64 := by
  have hnext : (new.run ops).1.store.nextGeneration = (accepted ops).length + 1 :=
    (run_spec agrees_new ops).2.nextGeneration
  have hle : (accepted ops).length ≤ ops.countP Operation.isLoad := length_accepted_le ops
  omega

/-- **A session answers from the last accepted document.** From a new store, every answer of every
    run is the one told from the operations before it; a document that is accepted takes its number
    among those accepted, which is then the generation; a text that is refused is answered with its
    defect and changes no other answer; a snapshot that was kept answers as when it was kept. The
    next generation fits a machine word as long as the number of loads does. -/
theorem run_answers :
    (∀ ops, (new.run ops).2 = expectedAll [] ops) ∧
    (∀ before text document, PolicyDocument.parse text = .ok document →
      (new.run (before ++ [.load text])).2 =
        (new.run before).2 ++ [.loaded (.ok ((accepted before).length + 1))] ∧
      (new.run (before ++ [.load text])).1.store.current =
        .build document ((accepted before).length + 1)) ∧
    (∀ before after text e, PolicyDocument.parse text = .error e →
      ∃ earlier later, earlier.length = before.length ∧
        (new.run (before ++ after)).2 = earlier ++ later ∧
        (new.run (before ++ .load text :: after)).2 = earlier ++ .loaded (.error e) :: later) ∧
    (∀ before between name q, (∀ op ∈ between, op.keeps? ≠ some name) →
      (new.run (before ++ .keep name :: between ++ [.readKept name q])).2 =
        (new.run (before ++ .keep name :: between)).2 ++
          [(new.run before).1.store.current.answer q]) ∧
    ∀ ops, ops.countP Operation.isLoad < twoTo 64 - 1 →
      (new.run ops).1.store.nextGeneration < twoTo 64 :=
  ⟨fun ops => (run_spec agrees_new ops).1,
    fun before _ _ hparse => run_load_of_ok before hparse,
    fun before after _ _ hparse => run_load_of_error before after hparse,
    fun before between name q hbetween => run_readKept before between name q hbetween,
    fun ops hloads => nextGeneration_lt ops hloads⟩

end Session

end AdmissionRules
