import OpGraph.Failure

/-!
# Primitives and execution plans

What a kernel calls in the direct dialect and the plan it is tagged with in the indexed
dialect. Both depend on the kind of the operator and on its data layout, which is empty for
operators that do not depend on one.
-/
namespace OpGraph

inductive Primitive where
  | conv2dChannelsFirst
  | conv2dChannelsLast
  | matmul
  | stridedSlice
  deriving DecidableEq

inductive ExecutionPlan where
  | convChannelsFirst
  | convChannelsLast
  | matmul
  | slice
  | replaceSlice
  deriving DecidableEq

/-- Looks up a kind with a layout; both must be values that a table may have as keys. -/
def lookUpKernel {α : Type} (table : List ((String × String) × α)) (kind layout : Value)
    (absent : Value → Value → Failure) : Except Failure α :=
  if kind.isKey && layout.isKey then
    match table.find? fun ((k, l), _) => kind.isText k && layout.isText l with
    | some (_, found) => .ok found
    | none => (absent kind layout).raise
  else .error .notAKey

namespace Primitive

def name : Primitive → String
  | conv2dChannelsFirst => "topi.nn.conv2d_nchw"
  | conv2dChannelsLast => "topi.nn.conv2d_nhwc"
  | matmul => "topi.nn.matmul"
  | stridedSlice => "topi.strided_slice"

/-- The symbols by which primitives are chosen. -/
def symbols : List (String × Primitive) :=
  [("CONV2D_NCHW", conv2dChannelsFirst), ("CONV2D_NHWC", conv2dChannelsLast),
   ("MATMUL", matmul), ("STRIDED_SLICE", stridedSlice)]

def ofSymbol? (symbol : String) : Option Primitive :=
  symbols.lookup symbol

def table : List ((String × String) × Primitive) :=
  [(("Convolution", "NCHW"), conv2dChannelsFirst),
   (("Convolution", "NHWC"), conv2dChannelsLast),
   (("Dot", ""), matmul),
   (("Slice", ""), stridedSlice)]

def find (kind layout : Value) : Except Failure Primitive :=
  lookUpKernel table kind layout .noPrimitive

end Primitive

namespace ExecutionPlan

def name : ExecutionPlan → String
  | convChannelsFirst => "convfwd_nchw_v1"
  | convChannelsLast => "convfwd_nhwc_v1"
  | matmul => "matmul_v1"
  | slice => "slice_v1"
  | replaceSlice => "replace_slice_v1"

def table : List ((String × String) × ExecutionPlan) :=
  [(("Convolution", "NCHW"), convChannelsFirst),
   (("Convolution", "NHWC"), convChannelsLast),
   (("Dot", ""), matmul),
   (("Slice", ""), slice),
   (("ReplaceSlice", ""), replaceSlice)]

def find (kind layout : Value) : Except Failure ExecutionPlan :=
  lookUpKernel table kind layout .noPlan

end ExecutionPlan

end OpGraph
