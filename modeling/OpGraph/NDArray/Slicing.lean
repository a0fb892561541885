import OpGraph.NDArray.Basic

/-!
# Slicing

A slice takes along each axis the coordinates of an arithmetic progression. Bounds below zero
count from the end of the axis and bounds outside it are moved to its ends, so every
coordinate taken is one of the axis.
-/
namespace OpGraph

/-- The coordinates `start`, `start + step`, … of an axis, `count` of them. -/
structure Progression where
  start : Int
  step : Int
  count : Nat
  deriving DecidableEq, Inhabited

/-- The bounds and the step of a slice along one axis; the step is not zero. -/
structure AxisBounds where
  lower : Int
  upper : Int
  step : Int
  deriving DecidableEq, Inhabited

namespace Progression

def whole (extent : Nat) : Progression :=
  ⟨0, 1, extent⟩

/-- Moves a bound into the interval from `low` to `high`, after counting from the end. -/
def clamp (low high : Int) (extent : Nat) (bound : Int) : Int :=
  max low (min high (if bound < 0 then bound + extent else bound))

def ofBounds (bounds : AxisBounds) (extent : Nat) : Progression :=
  if 0 < bounds.step then
    let lower := clamp 0 extent extent bounds.lower
    let upper := clamp 0 extent extent bounds.upper
    ⟨lower, bounds.step,
      if lower < upper then ((upper - lower - 1) / bounds.step + 1).toNat else 0⟩
  else
    let lower := clamp (-1) (extent - 1) extent bounds.lower
    let upper := clamp (-1) (extent - 1) extent bounds.upper
    ⟨lower, bounds.step,
      if upper < lower then ((lower - upper - 1) / (-bounds.step) + 1).toNat else 0⟩

def nth (p : Progression) (k : Nat) : Nat :=
  (p.start + k * p.step).toNat

/-- The position of a coordinate in the progression, if it is one of its terms. -/
def position? (p : Progression) (coordinate : Nat) : Option Nat :=
  let distance := (coordinate : Int) - p.start
  if distance % p.step = 0 ∧ 0 ≤ distance / p.step ∧ distance / p.step < p.count then
    some (distance / p.step).toNat
  else none

def positions? : List Progression → List Nat → Option (List Nat)
  | p :: ps, i :: index =>
    match p.position? i, positions? ps index with
    | some k, some position => some (k :: position)
    | _, _ => none
  | _, _ => some []

end Progression

namespace NDArray

variable {α : Type} [Inhabited α]

def take (a : NDArray α) (selected : List Progression) : NDArray α :=
  ofFn (selected.map Progression.count) fun index =>
    a.get (List.zipWith Progression.nth selected index)

/-- Whether a shape, read from its last axis on, spreads over another: an axis of extent one
repeats its only element, and missing leading axes count as such. -/
def spreadsFromLast : List Nat → List Nat → Bool
  | [], _ => true
  | extent :: shape, [] => extent == 1 && spreadsFromLast shape []
  | extent :: shape, target :: targets =>
    (extent == target || extent == 1) && spreadsFromLast shape targets

def spreads (shape target : List Nat) : Bool :=
  spreadsFromLast shape.reverse target.reverse

/-- The coordinate of the element that a shape repeats at a coordinate of its target. -/
def spreadIndex (shape index : List Nat) : List Nat :=
  let aligned := List.replicate (shape.length - index.length) 0 ++
    index.drop (index.length - shape.length)
  List.zipWith (fun extent i => if extent = 1 then 0 else i) shape aligned

/-- Writes `value`, spread over the slice, into the slice of `a`. -/
def put (a : NDArray α) (selected : List Progression) (value : NDArray α) : NDArray α :=
  ofFn a.shape fun index =>
    match Progression.positions? selected index with
    | some position => value.get (spreadIndex value.shape position)
    | none => a.get index

end NDArray

end OpGraph
