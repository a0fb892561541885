import OpGraph.Operator.Slicing
import OpGraph.Tensor

/-!
# Slice

The operator that takes a strided slice of its input. Its output shape depends on the bounds
alone.
-/
namespace OpGraph.Slice

def kind : String :=
  "Slice"

def infer (bounds : SliceBounds) : List TensorType → Except Failure (List TensorType)
  | [input] => do
    bounds.check kind
    require kind (bounds.fitsRank input.shape.rank) (.sliceRank bounds input.shape)
    bounds.checkRange kind input.shape
    return [⟨← bounds.shape, input.etype⟩]
  | inputs => (Violation.inputCount 1 inputs.length).report kind

def evaluate (bounds : SliceBounds) : List Tensor → Except Failure (List Tensor)
  | input :: _ => do return [input.slice (← bounds.selection input.shape)]
  | [] => .error .positionOutOfRange

end OpGraph.Slice
