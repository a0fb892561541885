import OpGraph.Operator.Basic
import OpGraph.Proofs.Operator.WindowAxis

/-!
# Numbers that are too long

A check writes its message before it looks at its condition, so inference fails where a message has
a number with too many digits, whether or not anything is wrong. What is written of an operator and
its inputs, and at which stage, is `Operator.Overlong`. Where the attributes and the types of the
inputs can be written, only a window or a padded extent can be too long
(`Operator.Overlong.window_of_short`).
-/
namespace OpGraph

/-- The place of a stage among the others. -/
@[simp] def Stage.index : Stage → Nat
  | inputCount => 0
  | inputRanks => 1
  | elementTypes => 2
  | attributes => 3
  | attributesFit => 4
  | operandsFit => 5

/-- So many decimal digits are not written. -/
def Dimension.Overlong (length : Nat) : Prop :=
  10 ^ Text.literalDigitLimit ≤ length

theorem Dimension.isShort_static {length : Nat} :
    (static length).isShort = true ↔ ¬Overlong length := by
  rw [isShort, Text.isShort_iff, Int.natAbs_natCast, Overlong, Nat.not_le]

theorem Dimension.isShort_static_eq_false {length : Nat} :
    (static length).isShort = false ↔ Overlong length := by
  rw [← Bool.not_eq_true, isShort_static, not_not]

namespace Convolution

/-- What is written of an axis whose extent and window are known has too many digits. -/
def OverlongAxis (w : WindowAxis) (size kernel : Dimension) : Prop :=
  ∃ extent length, size = .static extent ∧ kernel = .static length ∧ 0 < length ∧
    (Dimension.Overlong (w.window length) ∨ Dimension.Overlong (w.padded extent))

/-- What is written of one of the two spatial axes has too many digits. -/
def Overlong (channelsFirst : Bool) (height width : WindowAxis) (data filters : Shape) : Prop :=
  OverlongAxis height (dataDims channelsFirst data).2.2.1
      (filterDims channelsFirst filters).2.2.1 ∨
    OverlongAxis width (dataDims channelsFirst data).2.2.2
      (filterDims channelsFirst filters).2.2.2

end Convolution

namespace Operator

/-- A convolution with a window or a padded extent of too many digits. -/
inductive OverlongWindow : Operator → List TensorType → Prop
  | convolution (channelsFirst : Bool) (height width : WindowAxis) (data filters : TensorType)
      (many : Convolution.Overlong channelsFirst height width data.shape filters.shape) :
    OverlongWindow (.convolution (Convolution.attributes channelsFirst height width))
      [data, filters]

/-- What is written at a stage has a number of too many digits. Nothing else is written at a later
stage than it was for the first time. -/
inductive Overlong : Operator → List TensorType → Stage → Prop
  | slice {bounds : SliceBounds} {input : TensorType} (many : bounds.isShort = false) :
    Overlong (.slice bounds) [input] .attributes
  | sliceInput {bounds : SliceBounds} {input : TensorType} (many : input.isShort = false) :
    Overlong (.slice bounds) [input] .attributesFit
  | replaceInputs {bounds : SliceBounds} {target replacement : TensorType}
      (many : target.isShort = false ∨ replacement.isShort = false) :
    Overlong (.replaceSlice bounds) [target, replacement] .inputRanks
  | replaceSlice {bounds : SliceBounds} {target replacement : TensorType}
      (many : bounds.isShort = false) :
    Overlong (.replaceSlice bounds) [target, replacement] .attributes
  | factors {first second : TensorType} (many : first.isShort = false ∨ second.isShort = false) :
    Overlong .dot [first, second] .inputRanks
  | operands {attrs : ConvolutionAttributes} {data filters : TensorType}
      (many : data.isShort = false ∨ filters.isShort = false) :
    Overlong (.convolution attrs) [data, filters] .inputRanks
  | convolution {attrs : ConvolutionAttributes} {data filters : TensorType}
      (many : attrs.isShort = false) :
    Overlong (.convolution attrs) [data, filters] .attributes
  | window {operator : Operator} {inputs : List TensorType}
      (many : operator.OverlongWindow inputs) : Overlong operator inputs .attributesFit

/-- Whether all numbers in the attributes that are checked can be written, or in the type of a
parameter. -/
def isShort : Operator → Bool
  | generic .. | dot => true
  | parameter type => type.isShort
  | convolution attrs => attrs.isShort
  | replaceSlice bounds | slice bounds => bounds.isShort

theorem Overlong.window_of_short {operator : Operator} {inputs : List TensorType} {stage : Stage}
    (long : operator.Overlong inputs stage) (short : operator.isShort = true)
    (areShort : inputs.all TensorType.isShort = true) : operator.OverlongWindow inputs := by
  cases long with
  | window many => exact many
  | slice many | replaceSlice many | convolution many =>
    rw [isShort, many] at short
    cases short
  | sliceInput many | replaceInputs many | factors many | operands many =>
    simp only [List.all_cons, List.all_nil, Bool.and_true, Bool.and_eq_true] at areShort
    simp [areShort] at many

end Operator

end OpGraph
