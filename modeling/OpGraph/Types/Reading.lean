import OpGraph.Host
import OpGraph.Number.Basic
import OpGraph.Writing

/-!
# Types from values

Reading dimensions, shapes and element types from untyped values, and reading what a type
may not know. Truth values and reals are no lengths.
-/
namespace OpGraph

namespace Dimension

def ofInt : Int → Except Failure Dimension
  | .ofNat length => .ok (.static length)
  | .negSucc n => (Failure.negativeLength (.negSucc n)).raise

def ofValue : Value → Except Failure Dimension
  | .none => .ok .dynamic
  | .int length => ofInt length
  | value => (Failure.lengthNotInteger value).raise

def ofNumber (number : Number) : Except Failure Dimension :=
  ofValue number.toValue

def length : Dimension → Except Failure Nat
  | .static length => .ok length
  | .dynamic => .error .dynamicLength

/-- The difference of two lengths must not be negative. -/
def sub : Dimension → Dimension → Except Failure Dimension
  | .static a, .static b => ofInt (a - b)
  | _, _ => .ok .dynamic

/-- Only an integer can equal a dimension, an unknown one included. -/
def equalsValue : Dimension → Value → Bool
  | .static a, .int b => a == b
  | _, _ => false

end Dimension

namespace Shape

/-- Unknown dimensions of a given rank, which must fit a machine word. -/
def ofRankValue [Host] (value : Value) : Except Failure Shape := do
  match ← Dimension.ofValue value with
  | .static rank =>
    if Nat.pow 2 63 ≤ rank then throw .numberOverflow
    else if Host.rankLimit ≤ rank then throw .outOfMemory
    else return ofRank (.static rank)
  | .dynamic => return ofRank .dynamic

def ofItems (items : List Value) : Except Failure Shape := do
  return .ranked (← items.mapM Dimension.ofValue)

def ofValue : Value → Except Failure Shape
  | .none => .ok .dynamicRank
  | value =>
    match value.items? with
    | some items => ofItems items
    | none => .error .notEnumerable

def dims : Shape → Except Failure (List Dimension)
  | ranked dims => .ok dims
  | dynamicRank => .error .dynamicRank

/-- The dimension at an axis. A real in range is no axis. -/
def dimAt (shape : Shape) (axis : Value) : Except Failure Dimension := do
  let dims ← shape.dims
  let number ← Number.ofValue axis
  let outside : Except Failure Dimension := (Failure.axisOutOfRange axis dims.length).raise
  if number.isNonNegative && number.less (.int dims.length) then
    match number with
    | .int index => match dims[index.toNat]? with
      | some dim => return dim
      | none => outside
    | .real _ => throw .notAnInteger
  else outside

/-- The lengths of a shape all of whose dimensions are known. -/
def lengths? : List Dimension → Option (List Nat)
  | [] => some []
  | .static length :: dims => (lengths? dims).map (length :: ·)
  | .dynamic :: _ => none

def toLengths (shape : Shape) : Except Failure (List Nat) :=
  let unknown : Except Failure (List Nat) := (Failure.dynamicShape shape).raise
  match shape with
  | .dynamicRank => unknown
  | .ranked dims => match lengths? dims with
    | some lengths => .ok lengths
    | none => unknown

/-- A sequence equals a shape when it describes the same shape. -/
def equalsValue (shape : Shape) (value : Value) : Except Failure Bool :=
  match value with
  | .list items | .tuple items => do return shape.sameScheme (← ofItems items)
  | _ => .ok false

end Shape

namespace ElementType

def ofName (name : String) : Except Failure ElementType :=
  match ofName? name with
  | some etype => .ok etype
  | none => .error (.unknownElement name)

def ofValue : Value → Except Failure ElementType
  | .none => .ok .dynamic
  | .list _ => .error .notAName
  | .record _ => .error .notAName
  | value => do ofName (← value.write)

/-- The name under which arrays hold elements of the type. -/
def arrayName (etype : ElementType) : Except Failure String :=
  if etype.isDynamic then .error .dynamicElement else .ok etype.name

end ElementType

namespace TensorType

def ofValues (shape etype : Value) : Except Failure TensorType := do
  return ⟨← Shape.ofValue shape, ← ElementType.ofValue etype⟩

end TensorType

end OpGraph
