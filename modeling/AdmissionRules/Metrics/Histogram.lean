import AdmissionRules.Binary64

set_option autoImplicit false

/-! # Histograms of durations

A histogram counts observations by size. The bounds of its buckets double from a hundredth of a
millisecond on; the last bucket takes every other finite observation. -/

namespace AdmissionRules

/-- The upper bounds of the buckets but the last, in ascending order. -/
def Histogram.bounds : List Binary64 :=
  (List.range 15).map fun i => (Binary64.ofDecimal false 1 (-5)).mul (.ofInt (twoTo i))

structure Histogram where
  sum : Binary64
  count : Nat
  /-- The numbers of observations in the buckets. -/
  buckets : List Nat
deriving DecidableEq

namespace Histogram

def empty : Histogram :=
  { sum := .zero false, count := 0, buckets := List.replicate (bounds.length + 1) 0 }

/-- The position of the bucket of an observation: the first one whose bound is not below it. -/
def bucketOf? (x : Binary64) : Option Nat :=
  match bounds.findIdx? (fun bound => x.le bound) with
  | some i => some i
  | none => if x.isFinite then some bounds.length else none

def observe (h : Histogram) (x : Binary64) : Histogram :=
  { sum := h.sum.add x, count := h.count + 1,
    buckets := match bucketOf? x with
      | some i => h.buckets.modify i (· + 1)
      | none => h.buckets }

/-- The numbers of observations up to each bound. -/
def cumulative : Nat → List Nat → List Nat
  | _, [] => []
  | below, n :: rest => (below + n) :: cumulative (below + n) rest

end Histogram

end AdmissionRules
