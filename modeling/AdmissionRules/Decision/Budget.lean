set_option autoImplicit false

/-! # Budgets

A budget bounds the time of a decision: it has a deadline or none, and may be cancelled. Instants
are natural numbers up to the last one that the clock can tell; a deadline past it is none. -/

namespace AdmissionRules

/-- A clock, known by the last instant it can tell. -/
structure Clock where
  last : Nat

/-- Why a budget is exhausted. -/
inductive Exhaustion where
  | cancelled
  | deadlineExceeded
deriving DecidableEq, Repr

structure Budget where
  deadline : Option Nat
  cancelled : Bool
deriving DecidableEq

namespace Budget

def unbounded : Budget := { deadline := none, cancelled := false }

def withDeadline (deadline : Nat) : Budget := { deadline := some deadline, cancelled := false }

/-- A budget that ends `timeout` after `start`. -/
def startingAt (clock : Clock) (start timeout : Nat) : Budget :=
  if start + timeout ≤ clock.last then withDeadline (start + timeout) else unbounded

def cancel (b : Budget) : Budget := { b with cancelled := true }

/-- What exhausts the budget at an instant; a cancellation counts before the deadline. -/
def check (b : Budget) (now : Nat) : Option Exhaustion :=
  if b.cancelled then some .cancelled
  else
    match b.deadline with
    | some deadline => if deadline ≤ now then some .deadlineExceeded else none
    | none => none

end Budget

end AdmissionRules
