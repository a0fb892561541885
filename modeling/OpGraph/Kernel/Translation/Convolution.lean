import OpGraph.Kernel.Fragment
import OpGraph.Kernel.NodeView

/-!
# Kernels of convolutions

In the indexed dialect a position of the input is the output position times the stride plus
the filter position times the dilation, less the padding below; as soon as one side of one
axis is padded, positions outside the input count as zero. In the direct dialect strides and
dilations are given height first, paddings width first.
-/
namespace OpGraph.Convolution

def directTemplate : String :=
  " - input(\"input0\", @input_shape_0@); input(\"input1\", @input_shape_1@); " ++
    "output(@output_shape@, topi=@primitive@(args(\"input0\"), args(\"input1\"), " ++
    "stride=@stride@, padding=@padding@, dilation=@dilation@)); "

def indexedTemplate : String :=
  " @output0@@output0_layout@ +=! @input0@@input0_layout@ * " ++
    "@input1@@input1_layout@@pad_cond@ where HO in @height@, WO in @width@; "

def boundsTemplate : String :=
  "@index@ >= 0, @index@ < @extent@"

def conditionTemplate : String :=
  ".when([@bounds@], 0.0)"

/-- The index lists of the data, the filters and the output. -/
structure KernelLayout where
  data : String
  filters : String
  output : String

def kernelLayout (format : Value) : Except Failure KernelLayout :=
  if format.isText "NCHW" then
    .ok ⟨"[N, C, @h_index@, @w_index@]", "[F, C, KH, KW]", "[N, F, HO, WO]"⟩
  else if format.isText "NHWC" then
    .ok ⟨"[N, @h_index@, @w_index@, C]", "[KH, KW, C, F]", "[N, HO, WO, F]"⟩
  else if format.isKey then .error .unknownKey
  else .error .notAKey

def requireConvolution (node : NodeView) : Except Failure ConvolutionAttributes :=
  match node.operator with
  | .convolution attrs => .ok attrs
  | _ => node.wrongKind kind

def entry (values : List Value) (axis : Nat) : Except Failure Value :=
  match values[axis]? with
  | some value => .ok value
  | none => .error .positionOutOfRange

def extentAt (lengths : List Nat) (axis : Nat) : Except Failure Nat :=
  match lengths[axis]? with
  | some length => .ok length
  | none => .error .positionOutOfRange

/-- A key of one spatial axis. -/
def axisKey (stem : String) (axis : Nat) : String :=
  stem ++ "_" ++ toString axis

def placeholder (key : String) : String :=
  "@" ++ key ++ "@"

/-- The template of an input position; unit factors and a zero padding are left out. -/
def indexTemplate (axis : Nat) (outputAxis filterAxis : String)
    (stride dilation below : Value) : String :=
  let scaled := fun (name : String) (scale : Value) (stem : String) =>
    if scale.equalsInt 1 then name else name ++ " * " ++ placeholder (axisKey stem axis)
  let terms := [scaled outputAxis stride "stride", scaled filterAxis dilation "dilation"]
  " + ".intercalate
    (if below.equalsInt 0 then terms else ("-" ++ placeholder (axisKey "pad" axis)) :: terms)

def translateDirect (node : NodeView) : Except Failure Fragment := do
  let attrs ← requireConvolution node
  -- Left, top, right, bottom.
  let padding : List Value :=
    [← entry attrs.paddingBelow 1, ← entry attrs.paddingBelow 0,
     ← entry attrs.paddingAbove 1, ← entry attrs.paddingAbove 0]
  let subs ← Substitutions.empty.setShape "input_shape_0" (← node.inputShape 0)
  let subs ← subs.setShape "input_shape_1" (← node.inputShape 1)
  let subs ← subs.setShape "output_shape" (← node.outputShape 0)
  let primitive ← Primitive.find (.text kind) attrs.dataFormat
  let subs ← subs.setText "primitive" (.text primitive.name)
  let subs ← subs.setInts "stride" (.tuple attrs.strides)
  let subs ← subs.setInts "padding" (.tuple padding)
  let subs ← subs.setInts "dilation" (.tuple attrs.dilations)
  return .direct (← subs.render directTemplate)

/-- The keys of one spatial axis. -/
def setAxis (attrs : ConvolutionAttributes) (subs : Substitutions) (axis : Nat) :
    Except Failure Substitutions := do
  let subs ← subs.setInteger (axisKey "pad" axis) (← entry attrs.paddingBelow axis)
  let subs ← subs.setInteger (axisKey "stride" axis) (← entry attrs.strides axis)
  subs.setInteger (axisKey "dilation" axis) (← entry attrs.dilations axis)

/-- Sets the text of the input position along one spatial axis. -/
def setIndex (attrs : ConvolutionAttributes) (subs : Substitutions) (key : String) (axis : Nat)
    (outputAxis filterAxis : String) : Except Failure Substitutions := do
  subs.setTemplate key (indexTemplate axis outputAxis filterAxis (← entry attrs.strides axis)
    (← entry attrs.dilations axis) (← entry attrs.paddingBelow axis))

/-- Sets the numbers of both spatial axes, then the texts of the input positions along them. -/
def setPositions (attrs : ConvolutionAttributes) (subs : Substitutions) :
    Except Failure Substitutions := do
  let subs ← setAxis attrs subs 0
  let subs ← setAxis attrs subs 1
  let subs ← setIndex attrs subs "h_index" 0 "HO" "KH"
  setIndex attrs subs "w_index" 1 "WO" "KW"

def isPadded (attrs : ConvolutionAttributes) : Bool :=
  (attrs.paddingBelow ++ attrs.paddingAbove).any Value.isTruthy

/-- The conditions under which a position along one axis lies in the input. -/
def boundsText (subs : Substitutions) (indexKey extentKey : String) : Except Failure String := do
  let index ← subs.get indexKey
  let extent ← subs.get extentKey
  Template.render boundsTemplate fun key => [("index", index), ("extent", extent)].lookup key

def condition (attrs : ConvolutionAttributes) (subs : Substitutions) :
    Except Failure String := do
  if isPadded attrs then
    let height ← boundsText subs "h_index" "in_height"
    let width ← boundsText subs "w_index" "in_width"
    Template.render conditionTemplate fun key =>
      [("bounds", Text.commaList [height, width])].lookup key
  else return ""

/-- The layouts, with the texts that are set before the positions: the names of the tensors, the
layouts of the output and the filters, and the extents. -/
def frame (node : NodeView) (attrs : ConvolutionAttributes) :
    Except Failure (KernelLayout × Substitutions) := do
  let input ← (← node.inputShape 0).toLengths
  let output ← (← node.outputShape 0).toLengths
  let heightAxis := if attrs.isChannelsFirst then 2 else 1
  let widthAxis := heightAxis + 1
  let layout ← kernelLayout attrs.dataFormat
  let subs ← Substitutions.empty.setText "output0" (.text "output0")
  let subs ← subs.setText "input0" (.text "input0")
  let subs ← subs.setText "input1" (.text "input1")
  let subs ← subs.setText "output0_layout" (.text layout.output)
  let subs ← subs.setText "input1_layout" (.text layout.filters)
  let subs ← subs.setInteger "height" (.int (← extentAt output heightAxis))
  let subs ← subs.setInteger "width" (.int (← extentAt output widthAxis))
  let subs ← subs.setInteger "in_height" (.int (← extentAt input heightAxis))
  let subs ← subs.setInteger "in_width" (.int (← extentAt input widthAxis))
  return (layout, subs)

/-- The texts of all keys of the indexed kernel. -/
def indexedSubstitutions (node : NodeView) (attrs : ConvolutionAttributes) :
    Except Failure Substitutions := do
  let (layout, subs) ← frame node attrs
  let subs ← setPositions attrs subs
  let subs ← subs.setTemplate "input0_layout" layout.data
  subs.setText "pad_cond" (.text (← condition attrs subs))

def translateIndexed (node : NodeView) : Except Failure Fragment := do
  let attrs ← requireConvolution node
  let subs ← indexedSubstitutions node attrs
  let code ← subs.render indexedTemplate
  return .indexed code (← ExecutionPlan.find (.text kind) attrs.dataFormat).name

end OpGraph.Convolution
