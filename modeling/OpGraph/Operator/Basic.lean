import OpGraph.Operator.Convolution
import OpGraph.Operator.Dot
import OpGraph.Operator.ReplaceSlice
import OpGraph.Operator.Slice

/-!
# Operators

An operator is a kind with its attributes. It infers the types of its outputs from those of
its inputs and computes output arrays from input arrays. Generic operators carry any
attributes and pass their inputs on; a parameter has a type of its own and is never computed.
-/
namespace OpGraph

inductive Operator where
  | generic (name : String) (attrs : List (String × Value))
  | parameter (type : TensorType)
  | convolution (attrs : ConvolutionAttributes)
  | replaceSlice (bounds : SliceBounds)
  | slice (bounds : SliceBounds)
  | dot
  deriving Inhabited

namespace Operator

def kind : Operator → String
  | generic name _ => name
  | parameter _ => "Parameter"
  | convolution _ => Convolution.kind
  | replaceSlice _ => ReplaceSlice.kind
  | slice _ => Slice.kind
  | dot => Dot.kind

def isParameter : Operator → Bool
  | parameter _ => true
  | _ => false

/-- The attributes under their names, in the order of declaration. -/
def named : Operator → List (String × Value)
  | generic _ attrs => attrs
  | parameter _ => []
  | convolution attrs => attrs.named
  | replaceSlice bounds => bounds.named
  | slice bounds => bounds.named
  | dot => []

def attributeTexts (op : Operator) : Except Failure (List String) :=
  op.named.mapM fun (name, value) => do return name ++ "=" ++ (← value.write)

def text : Operator → Except Failure String
  | parameter type => do return "Parameter(" ++ (← type.write) ++ ")"
  | op => do return op.kind ++ "(" ++ Text.commaList (← op.attributeTexts) ++ ")"

/-- Checks the input types and gives the output types. -/
def infer : Operator → List TensorType → Except Failure (List TensorType)
  | generic _ _, inputs => .ok inputs
  | parameter type, [] => .ok [type]
  | parameter _, inputs => (Violation.inputCount 0 inputs.length).report "Parameter"
  | convolution attrs, inputs => Convolution.infer attrs inputs
  | replaceSlice bounds, inputs => ReplaceSlice.infer bounds inputs
  | slice bounds, inputs => Slice.infer bounds inputs
  | dot, inputs => Dot.infer inputs

/-- Computes the output arrays from the input arrays; types are not checked before. -/
def evaluate [Host] : Operator → List Tensor → Except Failure (List Tensor)
  | generic _ _, inputs => .ok inputs
  | parameter _, _ => .error .parameterEvaluated
  | convolution attrs, inputs => Convolution.evaluate attrs inputs
  | replaceSlice bounds, inputs => ReplaceSlice.evaluate bounds inputs
  | slice bounds, inputs => Slice.evaluate bounds inputs
  | dot, inputs => Dot.evaluate inputs

end Operator

end OpGraph
