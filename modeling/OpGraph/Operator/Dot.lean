import OpGraph.Operator.Checking
import OpGraph.Tensor

/-!
# Dot

The matrix product.
-/
namespace OpGraph.Dot

def kind : String :=
  "Dot"

def checkRank (position : Nat) (shape : Shape) : Except Failure Unit :=
  require kind (shape.rank.compatible (.static 2)) (.argumentRank position shape)

/-- Rows and columns of an operand; both are unknown when its rank is. -/
def dims : Shape → Dimension × Dimension
  | .ranked [rows, columns] => (rows, columns)
  | _ => (.dynamic, .dynamic)

def infer : List TensorType → Except Failure (List TensorType)
  | [a, b] => do
    checkRank 0 a.shape
    checkRank 1 b.shape
    let etype ← requireElements kind a.etype b.etype (.argumentElements a.etype b.etype)
    let (rows, inner) := dims a.shape
    let (inner', columns) := dims b.shape
    require kind (inner.merge inner').isSome (.reduction a.shape b.shape)
    return [⟨.ranked [rows, columns], etype⟩]
  | inputs => (Violation.inputCount 2 inputs.length).report kind

def evaluate [Host] : List Tensor → Except Failure (List Tensor)
  | a :: b :: _ => do return [← a.matmul b]
  | _ => .error .positionOutOfRange

end OpGraph.Dot
