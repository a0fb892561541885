import OpGraph.Kernel.Fragment
import OpGraph.Kernel.Translation.Call

/-!
# Kernels of matrix products

The indexed dialect sums over the columns of the first input.
-/
namespace OpGraph.Dot

def indexedTemplate : String :=
  " output0[I, J] +=! input0[I, K] * input1[K, J] where K in @reduction@; "

def requireDot (node : NodeView) : Except Failure Unit :=
  match node.operator with
  | .dot => .ok ()
  | _ => .error .notDot

def translateDirect (node : NodeView) : Except Failure Fragment := do
  requireDot node
  return .direct (← Call.code node (← Primitive.find (.text kind) (.text "")) "")

def translateIndexed (node : NodeView) : Except Failure Fragment := do
  requireDot node
  match ← (← node.inputShape 0).toLengths with
  | [_, inner] =>
    let subs ← Substitutions.empty.setInteger "reduction" (.int inner)
    let code ← subs.render indexedTemplate
    return .indexed code (← ExecutionPlan.find (.text kind) (.text "")).name
  | _ => throw .rankMismatch

end OpGraph.Dot
