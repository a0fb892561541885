import OpGraph.Text.Quoted
import OpGraph.Types.Element
import OpGraph.Types.Shape

/-!
# Tensor types

A tensor type is a shape and an element type, either of which may be known in part only.
-/
namespace OpGraph

structure TensorType where
  shape : Shape
  etype : ElementType
  deriving DecidableEq, Inhabited

namespace TensorType

def isConstant (t : TensorType) : Bool :=
  t.shape.isStatic && t.etype.isStatic

def text (t : TensorType) : String :=
  t.etype.name ++ t.shape.text

def isShort (t : TensorType) : Bool :=
  t.shape.isShort

def quoted (t : TensorType) : String :=
  "NNTensorType(shape=" ++ t.shape.quoted ++ ", dtype=" ++ Text.quote t.etype.name ++ ")"

end TensorType

end OpGraph
