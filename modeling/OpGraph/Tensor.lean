import OpGraph.Host
import OpGraph.NDArray.Layout
import OpGraph.NDArray.Slicing
import OpGraph.Types.Arithmetic

/-!
# Tensors

A tensor is an array of numbers with an element type. Every operation reduces its results to
that type.
-/
namespace OpGraph

/-- A tensor is writable unless it is a single number that no array holds. -/
structure Tensor where
  etype : ElementType
  elements : NDArray Rat
  writable : Bool

namespace Tensor

def ofElements (etype : ElementType) (elements : NDArray Rat) : Tensor :=
  ⟨etype, elements, true⟩

/-- A computed array; without axes it is a single number. -/
def ofResult (etype : ElementType) (elements : NDArray Rat) : Tensor :=
  ⟨etype, elements, !elements.shape.isEmpty⟩

def shape (t : Tensor) : List Nat :=
  t.elements.shape

def type (t : Tensor) : TensorType :=
  ⟨.ofLengths t.shape, t.etype⟩

def axisLimit : Nat := 64

def ofArray (etype : ElementType) (shape : List Nat) (data : Array Rat) :
    Except Failure Tensor :=
  if axisLimit < shape.length then .error (.array .tooManyAxes)
  else match NDArray.ofArray? shape data with
    | some elements => .ok (ofElements etype elements)
    | none => .error (.array .shapes)

/-- A tensor of values, each of which is converted to the element type. -/
def ofValues (etype : ElementType) (shape : List Nat) (values : List Value) :
    Except Failure Tensor := do
  ofArray etype shape (← values.mapM etype.elementOf).toArray

/-- Arrays of so many bytes have no size. -/
def sizeLimit : Nat :=
  Nat.pow 2 63

variable [Host]

/-- Whether an array can be made; empty axes do not count. -/
def requireSize (etype : ElementType) (shape : List Nat) : Except Failure Unit :=
  let bytes := NDArray.count (shape.filter (· != 0)) * (etype.bitWidth / 8)
  if sizeLimit ≤ bytes then .error (.array .tooLarge)
  else if Host.memoryLimit ≤ bytes then .error .outOfMemory
  else .ok ()

def zeros (etype : ElementType) (shape : List Nat) : Except Failure Tensor := do
  requireSize etype shape
  return ofElements etype (.ofFn shape fun _ => 0)

def transpose (t : Tensor) (axes : List Nat) : Tensor :=
  ofElements t.etype (t.elements.transpose axes)

def pad (t : Tensor) (pads : List (Nat × Nat)) : Except Failure Tensor := do
  requireSize t.etype (NDArray.paddedShape t.shape pads)
  return ofElements t.etype (t.elements.pad pads 0)

def slice (t : Tensor) (selected : List Progression) : Tensor :=
  ofResult t.etype (t.elements.take selected)

/-- The value written is converted to the element type of the tensor, and spread over the
slice; a tensor without axes takes a single value. -/
def replaceSlice (t : Tensor) (selected : List Progression) (value : Tensor) :
    Except Failure Tensor :=
  let extents := selected.map Progression.count
  let fits := if t.shape.isEmpty then value.shape.isEmpty
    else NDArray.spreads value.shape extents
  if fits then
    .ok (ofElements t.etype (t.elements.put selected (value.elements.map t.etype.reduce)))
  else .error (.array .shapes)

/-- Adds a tensor, spread over the shape of the first, in place of the first. -/
def accumulate (t addend : Tensor) : Except Failure Tensor :=
  if !(t.etype.promote addend.etype).storable t.etype then .error (.array .casting)
  else if NDArray.spreads addend.shape t.shape then
    .ok <| ofElements t.etype <| .ofFn t.shape fun index =>
      t.etype.reduce (t.elements.get index +
        addend.elements.get (NDArray.spreadIndex addend.shape index))
  else .error (.array .shapes)

/-- The common extent of two axes, one of which may be repeated. -/
def commonExtent (a b : Nat) : Except Failure Nat :=
  if a = b then .ok a
  else if a = 1 then .ok b
  else if b = 1 then .ok a
  else .error (.array .shapes)

def commonShape : List Nat → List Nat → Except Failure (List Nat)
  | a :: as, b :: bs => do return (← commonExtent a b) :: (← commonShape as bs)
  | [], bs => .ok bs
  | as, [] => .ok as

/-- The sum of a term over the positions of an axis. -/
def total (extent : Nat) (term : Nat → Rat) : Rat :=
  ((List.range extent).map term).foldr (· + ·) 0

/-- The product of two matrices or of stacks of matrices. A vector on the left is one row, a
vector on the right one column, and the axis added for it is dropped from the result. -/
def matmul (a b : Tensor) : Except Failure Tensor := do
  let etype := a.etype.promote b.etype
  let isRow := a.shape.length == 1
  let isColumn := b.shape.length == 1
  let left := if isRow then 1 :: a.shape else a.shape
  let right := if isColumn then b.shape ++ [1] else b.shape
  match left.reverse, right.reverse with
  | inner :: rows :: leftStack, columns :: inner' :: rightStack =>
    if inner != inner' then throw (.array .shapes)
    let stack := (← commonShape leftStack rightStack).reverse
    let shape := stack ++ (if isRow then [] else [rows]) ++ (if isColumn then [] else [columns])
    requireSize etype shape
    return ofResult etype <| .ofFn shape fun index =>
      let place := index.take stack.length
      let row := if isRow then 0 else index.getD stack.length 0
      let column := if isColumn then 0 else index.getD (index.length - 1) 0
      let leftPlace := NDArray.spreadIndex leftStack.reverse place
      let rightPlace := NDArray.spreadIndex rightStack.reverse place
      etype.reduce <| total inner fun k =>
        a.elements.get (leftPlace ++ (if isRow then [k] else [row, k])) *
          b.elements.get (rightPlace ++ (if isColumn then [k] else [k, column]))
  | _, _ => throw (.array .shapes)

end Tensor

end OpGraph
