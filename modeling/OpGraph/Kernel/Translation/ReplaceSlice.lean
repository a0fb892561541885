import OpGraph.Kernel.Affine
import OpGraph.Kernel.Fragment
import OpGraph.Kernel.NodeView

/-!
# Kernels of slice replacements

In the indexed dialect an output element comes from the replacement when its coordinate lies
in the slice, and from the first input otherwise. A condition that every coordinate meets is
left out: the lower bound when it is zero, the upper bound when it is the extent, and the
stride when it is one.
-/
namespace OpGraph.ReplaceSlice

def indexedTemplate : String :=
  " output0@output_layout@ = @replacement@@slice_cond@; "

def conditionTemplate : String :=
  ".when([@conds@], input0@output_layout@)"

def writeOffset (axis : String) (lower : Value) : Except Failure String := do
  if lower.equalsInt 0 then return axis else return "(" ++ axis ++ " - " ++ (← lower.write) ++ ")"

/-- The position in the replacement of an output coordinate. -/
def writePosition (axis : String) (lower stride : Value) : Except Failure String := do
  if stride.equalsInt 1 then
    if lower.equalsInt 0 then return axis else return axis ++ " - " ++ (← lower.write)
  else return (← writeOffset axis lower) ++ " // " ++ (← stride.write)

/-- A condition, unless every coordinate meets it. -/
def unlessMet (met : Bool) (text : Except Failure String) : Except Failure (List String) := do
  if met then return [] else return [← text]

/-- When a coordinate of an axis lies in the slice. -/
def writeConditions (axis : String) (extent : Nat) (lower upper stride : Value) :
    Except Failure (List String) := do
  let fromLower ← unlessMet (lower.equalsInt 0) do return axis ++ " >= " ++ (← lower.write)
  let toUpper ← unlessMet (upper.equalsInt extent) do return axis ++ " < " ++ (← upper.write)
  let onStride ← unlessMet (stride.equalsInt 1) do
    return (← writeOffset axis lower) ++ " % " ++ (← stride.write) ++ " == 0"
  return fromLower ++ toUpper ++ onStride

/-- The positions and the conditions of all axes, as far as all lists go. -/
def writeAxes : List String → List Nat → List Value → List Value → List Value →
    Except Failure (List String × List String)
  | axis :: axes, extent :: extents, lower :: lowers, upper :: uppers, stride :: strides => do
    let here ← writePosition axis lower stride
    let met ← writeConditions axis extent lower upper stride
    let (positions, others) ← writeAxes axes extents lowers uppers strides
    return (here :: positions, met ++ others)
  | _, _, _, _, _ => .ok ([], [])

def condition (conditions : List String) (layout : String) : Except Failure String := do
  if conditions.isEmpty then return ""
  else
    let subs ← Substitutions.empty.setText "conds" (.text (Text.commaList conditions))
    let subs ← subs.setText "output_layout" (.text layout)
    subs.render conditionTemplate

def requireReplaceSlice (node : NodeView) : Except Failure SliceBounds :=
  match node.operator with
  | .replaceSlice bounds => .ok bounds
  | _ => node.wrongKind kind

def translateIndexed (node : NodeView) : Except Failure Fragment := do
  let bounds ← requireReplaceSlice node
  let extents ← (← node.outputShape 0).toLengths
  let axes := Affine.axes "D" extents.length
  let (positions, conditions) ←
    writeAxes axes extents bounds.lower bounds.upper bounds.strides
  let subs ← Substitutions.empty.setText "output_layout" (.text (Affine.layout axes))
  let subs ← subs.setText "replacement" (.text ("input1" ++ Affine.layout positions))
  let subs ← subs.setText "slice_cond" (.text (← condition conditions (Affine.layout axes)))
  let code ← subs.render indexedTemplate
  return .indexed code (← ExecutionPlan.find (.text kind) (.text "")).name

end OpGraph.ReplaceSlice
