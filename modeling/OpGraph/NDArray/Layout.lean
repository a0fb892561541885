import OpGraph.NDArray.Basic

/-!
# Layout

Transposition and padding of arrays.
-/
namespace OpGraph.NDArray

variable {α : Type} [Inhabited α]

/-- Axis `i` of the result is axis `axes[i]` of the array; `axes` is a permutation. -/
def transpose (a : NDArray α) (axes : List Nat) : NDArray α :=
  ofFn (axes.map fun axis => a.shape.getD axis 0) fun index =>
    a.get ((List.range a.rank).map fun axis => index.getD (axes.idxOf axis) 0)

/-- The coordinate before padding, if there is one. -/
def unpadded? : List (Nat × Nat) → List Nat → List Nat → Option (List Nat)
  | (below, _) :: pads, extent :: shape, i :: index =>
    match unpadded? pads shape index with
    | some rest => if below ≤ i ∧ i < below + extent then some ((i - below) :: rest) else none
    | none => none
  | _, _, _ => some []

def paddedShape (shape : List Nat) (pads : List (Nat × Nat)) : List Nat :=
  List.zipWith (fun extent pad => pad.1 + extent + pad.2) shape pads

/-- Surrounds the array with `fill`, below and above each axis. -/
def pad (a : NDArray α) (pads : List (Nat × Nat)) (fill : α) : NDArray α :=
  ofFn (paddedShape a.shape pads) fun index =>
    match unpadded? pads a.shape index with
    | some source => a.get source
    | none => fill

end OpGraph.NDArray
