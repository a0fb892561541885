import OpGraph.Kernel.Affine
import OpGraph.Kernel.Fragment
import OpGraph.Kernel.Translation.Call

/-!
# Kernels of slices

An output coordinate reads the input at the lower bound plus the coordinate times the stride.
-/
namespace OpGraph.Slice

def argumentsTemplate : String :=
  "begin=@begin@, end=@end@, strides=@strides@"

def indexedTemplate : String :=
  " output0@output_layout@ = input0@input_layout@; "

def requireSlice (node : NodeView) : Except Failure SliceBounds :=
  match node.operator with
  | .slice bounds => .ok bounds
  | _ => node.wrongKind kind

def translateDirect (node : NodeView) : Except Failure Fragment := do
  let bounds ← requireSlice node
  let subs ← Substitutions.empty.setInts "begin" (.tuple bounds.lower)
  let subs ← subs.setInts "end" (.tuple bounds.upper)
  let subs ← subs.setInts "strides" (.tuple bounds.strides)
  let arguments ← subs.render argumentsTemplate
  return .direct (← Call.code node (← Primitive.find (.text kind) (.text "")) arguments)

/-- The input positions of the axes, as far as all lists go. -/
def positions : List String → List Value → List Value → Except Failure (List String)
  | axis :: axes, lower :: lowers, stride :: strides => do
    return (← Affine.index lower [(axis, stride)]) :: (← positions axes lowers strides)
  | _, _, _ => .ok []

def translateIndexed (node : NodeView) : Except Failure Fragment := do
  let bounds ← requireSlice node
  let extents ← (← node.outputShape 0).toLengths
  let axes := Affine.axes "D" extents.length
  let indices ← positions axes bounds.lower bounds.strides
  let subs ← Substitutions.empty.setText "output_layout" (.text (Affine.layout axes))
  let subs ← subs.setText "input_layout" (.text (Affine.layout indices))
  let code ← subs.render indexedTemplate
  return .indexed code (← ExecutionPlan.find (.text kind) (.text "")).name

end OpGraph.Slice
