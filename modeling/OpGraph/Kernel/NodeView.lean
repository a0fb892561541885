import OpGraph.Kernel.Primitive
import OpGraph.Kernel.Substitutions
import OpGraph.Operator.Basic

/-!
# Nodes as translators see them

A translator reads the name and the operator of a node, the number of its inputs, and the
types around it. Types may be missing, and reading them fails only where they are read.
-/
namespace OpGraph

structure NodeView where
  name : String
  operator : Operator
  arity : Nat
  inputTypes : Except Failure (List TensorType)
  outputTypes : Except Failure (List TensorType)

def typeAt (types : List TensorType) (position : Nat) : Except Failure TensorType :=
  match types[position]? with
  | some type => .ok type
  | none => .error .positionOutOfRange

namespace NodeView

def kind (node : NodeView) : String :=
  node.operator.kind

def inputShape (node : NodeView) (position : Nat) : Except Failure Shape := do
  return (← typeAt (← node.inputTypes) position).shape

def outputShape (node : NodeView) (position : Nat) : Except Failure Shape := do
  return (← typeAt (← node.outputTypes) position).shape

def wrongKind {α : Type} (node : NodeView) (expected : String) : Except Failure α :=
  .error (.notOperator node.name expected node.kind)

end NodeView

end OpGraph
