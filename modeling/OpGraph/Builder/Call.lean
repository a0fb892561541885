import OpGraph.Builder.Workspace

/-!
# Node calls

The calls that make nodes in the open scopes. Each makes the operator first, from what it is
called with, and then the node; where no operator can be made, nothing is done.
-/
namespace OpGraph

inductive NodeCall where
  | node (operator : Operator) (producers : List Nat)
  | parameter (shape etype : Value)
  | convolution (data filters : Nat) (attrs : List (String × Value))
  | replaceSlice (data replacement : Nat) (lower upper strides : Value)
  | slice (data : Nat) (lower upper strides : Value)
  | dot (left right : Nat)

namespace NodeCall

def operator : NodeCall → Except Failure Operator
  | node operator _ => .ok operator
  | parameter shape etype => (TensorType.ofValues shape etype).map .parameter
  | convolution _ _ attrs => OperatorClass.convolution.build attrs
  | replaceSlice _ _ lower upper strides =>
    (OperatorClass.bounds lower upper strides).map .replaceSlice
  | slice _ lower upper strides => (OperatorClass.bounds lower upper strides).map .slice
  | dot _ _ => .ok .dot

def producers : NodeCall → List Nat
  | node _ producers => producers
  | parameter _ _ => []
  | convolution data filters _ => [data, filters]
  | replaceSlice data replacement _ _ _ => [data, replacement]
  | slice data _ _ _ => [data]
  | dot left right => [left, right]

end NodeCall

def Workspace.call (ws : Workspace) (call : NodeCall) (name : Option String) :
    Workspace × Except Failure Nat :=
  match call.operator with
  | .ok operator => ws.create operator call.producers name
  | .error failure => (ws, .error failure)

end OpGraph
