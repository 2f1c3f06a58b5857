import AdmissionRules.Ascending
import AdmissionRules.Metrics.Histogram

set_option autoImplicit false

/-! # Metrics

What is counted: decisions by kind and reason, their durations by kind, and reloads of the policy
by result. Beside the counts the last successful reload is kept, which alone determines the
generation, the numbers of rules and the time of the reload. -/

namespace AdmissionRules

/-- What a successful reload says. -/
structure ReloadRecord where
  generation : Int
  /-- The numbers of rules of the kinds, in ascending order of the kinds. -/
  rules : List (String × Int)
  time : Int
deriving DecidableEq

/-- What a decision says; a request that could not be decoded has no duration. -/
structure DecisionRecord where
  kind : String
  reason : String
  duration : Option Binary64
deriving DecidableEq

structure Metrics where
  /-- The numbers of decisions by kind and reason. -/
  decisions : List ((String × String) × Nat)
  durations : List (String × Histogram)
  reloads : Nat
  failedReloads : Nat
  lastReload : ReloadRecord
deriving DecidableEq

namespace Metrics

def new : Metrics :=
  { decisions := [], durations := [], reloads := 0, failedReloads := 0,
    lastReload := { generation := 0, rules := [], time := 0 } }

/-! ## Recording -/

/-- Pairs of texts in ascending order, the first text counting before the second. -/
def labelsBefore (a b : String × String) : Bool :=
  Ascending.textBefore a.1 b.1 || (a.1 == b.1 && Ascending.textBefore a.2 b.2)

def recordDecision (m : Metrics) (d : DecisionRecord) : Metrics :=
  { m with
    decisions := Ascending.alterBy labelsBefore (d.kind, d.reason) (fun n => n.getD 0 + 1) m.decisions,
    durations := match d.duration with
      | some x => Ascending.alter d.kind (fun h => (h.getD .empty).observe x) m.durations
      | none => m.durations }

/-- The largest value of a gauge. -/
def gaugeLimit : Int := twoTo 63 - 1

/-- A count as a gauge shows it. -/
def gauge (n : Nat) : Int := min n gaugeLimit

/-- Records a successful reload. Of a kind listed twice the last count stays. -/
def recordReload (m : Metrics) (generation : Nat) (rules : List (String × Nat)) (time : Nat) :
    Metrics :=
  { m with
    reloads := m.reloads + 1,
    lastReload :=
      { generation := gauge generation,
        rules := Ascending.ofList (rules.map fun r => (r.1, gauge r.2)),
        time := gauge time } }

def recordFailedReload (m : Metrics) : Metrics := { m with failedReloads := m.failedReloads + 1 }

/-! ## Reading -/

def decisionCount (m : Metrics) (kind reason : String) : Nat :=
  (Ascending.get? (kind, reason) m.decisions).getD 0

/-- The number of decisions of a kind that have a duration. -/
def durationCount (m : Metrics) (kind : String) : Nat :=
  match Ascending.get? kind m.durations with
  | some h => h.count
  | none => 0

end Metrics

end AdmissionRules
