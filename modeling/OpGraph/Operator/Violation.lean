import OpGraph.Operator.Attributes
import OpGraph.Types.Tensor

/-!
# Violations

What an operator can find wrong with its attributes and the types of its inputs. Every
operator checks in the order of `Stage` and reports the first violation.
-/
namespace OpGraph

inductive Stage where
  | inputCount
  | inputRanks
  | elementTypes
  | attributes
  | attributesFit
  | operandsFit
  deriving DecidableEq

inductive Violation where
  | inputCount (expected got : Nat)
  | dataRank (data : Shape)
  | filtersRank (filters : Shape)
  | argumentRank (position : Nat) (shape : Shape)
  | argumentRanks (target replacement : Shape)
  | convolutionElements (data filters : ElementType)
  | argumentElements (first second : ElementType)
  | attributeLength (name : String) (values : List Value)
  | strideNotPositive (axis : Nat) (strides : List Value)
  | dilationNotPositive (axis : Nat) (dilations : List Value)
  | negativePadding (axis : Nat) (below above : List Value)
  | dataFormat (format : Value)
  | boundRanks (bounds : SliceBounds)
  | negativeLower (axis : Nat) (bounds : SliceBounds)
  | lowerAboveUpper (axis : Nat) (bounds : SliceBounds)
  | zeroSliceStride (axis : Nat) (bounds : SliceBounds)
  | negativeSliceStride (axis : Nat) (bounds : SliceBounds)
  | sliceRank (bounds : SliceBounds) (shape : Shape)
  | replacedRank (bounds : SliceBounds)
  | upperOutOfRange (axis : Nat) (upper : List Value) (shape : Shape)
  | emptyWindow (axis : Nat) (filters : Shape)
  | windowTooLarge (axis : Nat) (window padded : Nat) (data filters : Shape)
  | channels (dataCount filterCount : Dimension) (data filters : Shape)
  | replacementShape (replacement slice : Shape)
  | reduction (first second : Shape)

/-- A part of a message: words, a position or the length of a list, which is a small number, or
something that may hold numbers of any size. -/
inductive Phrase where
  | words (text : String)
  | count (n : Nat)
  | dimension (d : Dimension)
  | shape (s : Shape)
  | value (v : Value)
  | values (vs : List Value)

namespace Phrase

instance : Coe String Phrase :=
  ⟨words⟩

def text : Phrase → String
  | words t => t
  | count n => toString n
  | dimension d => d.text
  | shape s => s.text
  | value v => v.display
  | values vs => listText vs

def isShort : Phrase → Bool
  | words _ | count _ => true
  | dimension d => d.isShort
  | shape s => s.isShort
  | value v => v.isShort
  | values vs => vs.all Value.isShort

end Phrase

namespace Violation

def stage : Violation → Stage
  | inputCount .. => .inputCount
  | dataRank .. | filtersRank .. | argumentRank .. | argumentRanks .. => .inputRanks
  | convolutionElements .. | argumentElements .. => .elementTypes
  | attributeLength .. | strideNotPositive .. | dilationNotPositive .. | negativePadding ..
  | dataFormat .. | boundRanks .. | negativeLower .. | lowerAboveUpper .. | zeroSliceStride ..
  | negativeSliceStride .. => .attributes
  | sliceRank .. | replacedRank .. | upperOutOfRange .. | emptyWindow ..
  | windowTooLarge .. => .attributesFit
  | channels .. | replacementShape .. | reduction .. => .operandsFit

/-- The three lists of a slice as messages about its rank name them. -/
def boundsPhrases (bounds : SliceBounds) : List Phrase :=
  ["lower bounds (", .values bounds.lower, "), upper bounds (", .values bounds.upper,
    "), and strides (", .values bounds.strides, ")"]

def phrases : Violation → List Phrase
  | inputCount expected got => ["Expected ", .count expected, " inputs, got ", .count got, "."]
  | dataRank data => ["Data batch must have rank 4 (data batch shape: ", .shape data, ")."]
  | filtersRank filters => ["Filters must have rank 4 (filters shape: ", .shape filters, ")."]
  | argumentRank position shape =>
    ["Argument ", .count position, " must have rank 2 (arg", .count position, " shape: ",
      .shape shape, ")."]
  | argumentRanks target replacement =>
    ["Argument ranks do not match (arg0 shape: ", .shape target, ", arg1 shape: ",
      .shape replacement, ")."]
  | convolutionElements data filters =>
    ["Element types for data batch and filters do not match (data batch element type: ",
      data.name, ", filters element type: ", filters.name, ")."]
  | argumentElements first second =>
    ["Argument element types do not match (arg0 element type: ", first.name,
      ", arg1 element type: ", second.name, ")."]
  | attributeLength name values =>
    ["Attribute ", name, " must have 2 spatial values, got ", .values values, "."]
  | strideNotPositive axis strides =>
    ["Window movement stride is not positive at axis ", .count axis, " (strides: ",
      .values strides, ")."]
  | dilationNotPositive axis dilations =>
    ["Window dilation stride is not positive at axis ", .count axis, " (dilations: ",
      .values dilations, ")."]
  | negativePadding axis below above =>
    ["Padding is negative at axis ", .count axis, " (padding below: ", .values below,
      ", padding above: ", .values above, ")."]
  | dataFormat format =>
    ["Unsupported data format: ", .value format, ", expected one of [NCHW, NHWC]."]
  | boundRanks bounds =>
    ["Ranks of lower bounds (", .values bounds.lower, "), upper bounds (", .values bounds.upper,
      ") and strides (", .values bounds.strides, ") do not match."]
  | negativeLower axis bounds =>
    ["Lower bound for slice is negative at axis ", .count axis, " (lower bounds: ",
      .values bounds.lower, ")."]
  | lowerAboveUpper axis bounds =>
    ["Lower bound for slice is greater than upper bound at axis ", .count axis,
      " (lower bounds: ", .values bounds.lower, ", upper bounds: ", .values bounds.upper, ")."]
  | zeroSliceStride axis bounds =>
    ["Stride for slice is zero at axis ", .count axis, " (strides: ", .values bounds.strides,
      ")."]
  | negativeSliceStride axis bounds =>
    ["Stride for slice is negative at axis ", .count axis, " (strides: ",
      .values bounds.strides, ")."]
  | sliceRank bounds shape =>
    .words "Input rank does not match the rank of the " :: boundsPhrases bounds ++
      [.words " (argument shape: ", .shape shape, .words ")."]
  | replacedRank bounds =>
    .words "Argument ranks do not match the rank of the " :: boundsPhrases bounds ++
      [.words "."]
  | upperOutOfRange axis upper shape =>
    ["Upper bound for slice at axis ", .count axis, " is out of range (upper bounds: ",
      .values upper, ", argument shape: ", .shape shape, ")."]
  | emptyWindow axis filters =>
    ["Filters spatial dimension is zero at axis ", .count axis, " (filters shape: ",
      .shape filters, ")."]
  | windowTooLarge axis window padded data filters =>
    ["Window after dilation has dimension ", .dimension (.static window),
      " larger than the data shape after padding ", .dimension (.static padded), " at axis ",
      .count axis, " (data batch shape: ", .shape data, ", filters shape: ", .shape filters,
      ")."]
  | channels dataCount filterCount data filters =>
    ["Data batch channel count (", .dimension dataCount,
      ") does not match filter input channel count (", .dimension filterCount,
      ") (data batch shape: ", .shape data, ", filters shape: ", .shape filters, ")."]
  | replacementShape replacement slice =>
    ["Shape of replacement tensor (", .shape replacement, ") does not match the slice shape (",
      .shape slice, ")."]
  | reduction first second =>
    ["Reduction dimensions do not match (arg0 shape: ", .shape first, ", arg1 shape: ",
      .shape second, ")."]

def message (violation : Violation) : String :=
  String.join (violation.phrases.map Phrase.text)

/-- Whether all numbers in the message can be written. -/
def isShort (violation : Violation) : Bool :=
  violation.phrases.all Phrase.isShort

end Violation

end OpGraph
