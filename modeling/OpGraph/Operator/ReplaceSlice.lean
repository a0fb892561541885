import OpGraph.Operator.Slicing
import OpGraph.Tensor

/-!
# ReplaceSlice

The operator that copies its first input and overwrites a strided slice of it with the
second. The bounds fix the rank of the output even where that of the input is unknown.
-/
namespace OpGraph.ReplaceSlice

def kind : String :=
  "ReplaceSlice"

/-- The rank that both operands have, where they do not disagree. -/
def requireRank (target replacement : Shape) : Except Failure Dimension := do
  let _ ← (Violation.argumentRanks target replacement).write
  match target.rank.merge replacement.rank with
  | some rank => return rank
  | none => (Violation.argumentRanks target replacement).report kind

def outputShape (bounds : SliceBounds) : Shape → Shape
  | .dynamicRank => .ofRank (.static bounds.rank)
  | shape => shape

def infer (bounds : SliceBounds) : List TensorType → Except Failure (List TensorType)
  | [target, replacement] => do
    let rank ← requireRank target.shape replacement.shape
    let etype ← requireElements kind target.etype replacement.etype
      (.argumentElements target.etype replacement.etype)
    bounds.check kind
    require kind (bounds.fitsRank rank) (.replacedRank bounds)
    bounds.checkRange kind target.shape
    let slice ← bounds.shape
    require kind (replacement.shape.compatible slice) (.replacementShape replacement.shape slice)
    return [⟨outputShape bounds target.shape, etype⟩]
  | inputs => (Violation.inputCount 2 inputs.length).report kind

def evaluate (bounds : SliceBounds) : List Tensor → Except Failure (List Tensor)
  | [target, replacement] => do
    if !target.writable then throw (.array .notWritable)
    let selected ← bounds.selection target.shape
    return [← target.replaceSlice selected replacement]
  | _ => .error (.array .shapes)

end OpGraph.ReplaceSlice
