import ProbeGateway.Number.Shortest

/-!
# Histograms

A histogram counts the values observed at or below each of its bounds, counts them all, and adds
them up. A value that is no number is counted and lies below no bound.
-/

namespace ProbeGateway

/-- Counts of observed values. -/
structure Histogram where
  /-- For each bound, the values at most that bound and above the bound before. -/
  buckets : List Nat
  count : Nat
  sum : Binary64
deriving DecidableEq, Repr

namespace Histogram

/-- The bounds, in seconds. -/
def bounds : List Binary64 :=
  [.ofDecimal false 5 (-3), .ofDecimal false 1 (-2), .ofDecimal false 25 (-3),
    .ofDecimal false 5 (-2), .ofDecimal false 1 (-1), .ofDecimal false 25 (-2),
    .ofDecimal false 5 (-1), .ofDecimal false 1 0, .ofDecimal false 25 (-1),
    .ofDecimal false 5 0, .ofDecimal false 10 0]

/-- A histogram that has observed nothing. -/
def empty : Histogram := ⟨bounds.map fun _ => 0, 0, .zero false⟩

/-- Adds one to the bucket of the first bound that a value does not exceed. -/
def bump (value : Binary64) : (bounds : List Binary64) → List Nat → List Nat
  | bound :: bounds, n :: buckets =>
    if value.le bound then (n + 1) :: buckets else n :: bump value bounds buckets
  | _, buckets => buckets

/-- Observes a value. -/
def observe (value : Binary64) (h : Histogram) : Histogram :=
  ⟨bump value bounds h.buckets, h.count + 1, h.sum.add value⟩

/-- For each bound, the values at most that bound. -/
def cumulative : (below : Nat) → List Nat → List Nat
  | _, [] => []
  | below, n :: buckets => (below + n) :: cumulative (below + n) buckets

@[simp] theorem count_observe (value : Binary64) (h : Histogram) :
    (h.observe value).count = h.count + 1 := rfl

end Histogram

end ProbeGateway
