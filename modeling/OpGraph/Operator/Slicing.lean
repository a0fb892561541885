import OpGraph.NDArray.Slicing
import OpGraph.Operator.Checking

/-!
# Slice bounds

What `Slice` and `ReplaceSlice` share: the checks of their bounds, the shape of the slice and the
coordinates that it takes. Along an axis a slice has one element per started stride, so its
length is the extent between the bounds divided by the stride, rounded up.
-/
namespace OpGraph

/-- The strides given, or ones in the rank of the lower bounds when there are none. -/
def defaultStrides (lower strides : List Value) : List Value :=
  if strides.isEmpty then List.replicate lower.length (.int 1) else strides

/-- The number of steps that an extent starts. -/
def startedSteps (extent step : Number) : Except Failure Number := do
  let whole ← extent.floorDiv step
  let rest ← extent.floorMod step
  whole.add (.int (if rest.isZero then 0 else 1))

/-- The number of elements between two bounds, the last stride counting in part. -/
def slicedLength (lower upper stride : Value) : Except Failure Number := do
  let extent ← (← Number.ofValue upper).sub (← Number.ofValue lower)
  startedSteps extent (← Number.ofValue stride)

/-- The bounds and the stride of one axis. -/
structure SliceAxis where
  lower : Value
  upper : Value
  stride : Value
  deriving Inhabited

namespace SliceAxis

/-- The extent of the slice along the axis. -/
def dim (axis : SliceAxis) : Except Failure Dimension := do
  Dimension.ofNumber (← slicedLength axis.lower axis.upper axis.stride)

/-- The coordinates taken of an axis. A bound that is absent lies at the end of the axis that
the stride comes from or goes to. -/
def progression (axis : SliceAxis) (extent : Nat) : Except Failure Progression := do
  let step := (← axis.stride.integer?).getD 1
  if step = 0 then throw (.array .zeroStep)
  let first : Int := if 0 < step then 0 else extent
  let last : Int := if 0 < step then extent else -(extent + 1)
  let lower := (← axis.lower.integer?).getD first
  let upper := (← axis.upper.integer?).getD last
  return .ofBounds ⟨lower, upper, step⟩ extent

end SliceAxis

namespace SliceBounds

/-- The bounds axis by axis, as far as all three lists go. -/
def axesOf : List Value → List Value → List Value → List SliceAxis
  | lower :: lowers, upper :: uppers, stride :: strides =>
    ⟨lower, upper, stride⟩ :: axesOf lowers uppers strides
  | _, _, _ => []

def axes (bounds : SliceBounds) : List SliceAxis :=
  axesOf bounds.lower bounds.upper bounds.strides

/-- The shape of the slice. -/
def shape (bounds : SliceBounds) : Except Failure Shape := do
  return .ranked (← bounds.axes.mapM SliceAxis.dim)

def checkAxis (kind : String) (bounds : SliceBounds) (index : Nat) (axis : SliceAxis) :
    Except Failure Unit := do
  let lower ← Number.ofValue axis.lower
  require kind lower.isNonNegative (.negativeLower index bounds)
  let upper ← Number.ofValue axis.upper
  require kind (lower.lessEq upper) (.lowerAboveUpper index bounds)
  require kind (!axis.stride.equalsInt 0) (.zeroSliceStride index bounds)
  let stride ← Number.ofValue axis.stride
  require kind stride.isPositive (.negativeSliceStride index bounds)

def checkAxes (kind : String) (bounds : SliceBounds) :
    Nat → List SliceAxis → Except Failure Unit
  | _, [] => .ok ()
  | index, axis :: axes => do
    checkAxis kind bounds index axis
    checkAxes kind bounds (index + 1) axes

/-- The bounds alone: one rank, non-negative increasing bounds and positive strides. -/
def check (kind : String) (bounds : SliceBounds) : Except Failure Unit := do
  require kind
    (bounds.lower.length == bounds.upper.length && bounds.lower.length == bounds.strides.length)
    (.boundRanks bounds)
  bounds.checkAxes kind 0 bounds.axes

def rank (bounds : SliceBounds) : Nat :=
  bounds.upper.length

/-- Whether a rank, if known, is that of the bounds. -/
def fitsRank (bounds : SliceBounds) : Dimension → Bool
  | .dynamic => true
  | .static rank => rank == bounds.rank

def checkUpper (kind : String) (bounds : SliceBounds) (shape : Shape) :
    Nat → List Value → List Dimension → Except Failure Unit
  | index, upper :: uppers, dim :: dims => do
    let inRange ← match dim with
      | .dynamic => pure true
      | .static length => do pure ((← Number.ofValue upper).lessEq (.int length))
    require kind inRange (.upperOutOfRange index bounds.upper shape)
    checkUpper kind bounds shape (index + 1) uppers dims
  | _, _, _ => .ok ()

/-- The upper bounds against the dimensions that are known. -/
def checkRange (kind : String) (bounds : SliceBounds) (shape : Shape) : Except Failure Unit :=
  match shape with
  | .dynamicRank => .ok ()
  | .ranked dims => bounds.checkUpper kind shape 0 bounds.upper dims

def select : List SliceAxis → List Nat → Except Failure (List Progression)
  | axis :: axes, extent :: shape => do
    return (← axis.progression extent) :: (← select axes shape)
  | _, shape => .ok (shape.map Progression.whole)

/-- The coordinates that the slice takes along each axis of a shape; axes without bounds are
taken whole. -/
def selection (bounds : SliceBounds) (shape : List Nat) : Except Failure (List Progression) :=
  if shape.length < bounds.axes.length then .error (.array .tooManyIndices)
  else select bounds.axes shape

end SliceBounds

end OpGraph
