import OpGraph.Operator.Checking
import OpGraph.Tensor

/-!
# Convolution

Two-dimensional convolution of a batch of data with filters. With channels first the data is
laid out as batch, channels, height, width and the filters as output channels, input
channels, height, width; with channels last the channels of both come last, the filters'
input channels before their output channels. An output extent is the number of places at
which the dilated window fits into the padded data.
-/
namespace OpGraph.Convolution

def kind : String :=
  "Convolution"

/-- The attributes of one spatial axis. -/
structure SpatialAxis where
  stride : Value
  dilation : Value
  below : Value
  above : Value

/-- The attributes axis by axis, when each of them has two entries. -/
def axes? (attrs : ConvolutionAttributes) : Option (SpatialAxis × SpatialAxis) :=
  match attrs.strides, attrs.dilations, attrs.paddingBelow, attrs.paddingAbove with
  | [sh, sw], [dh, dw], [bh, bw], [ah, aw] => some (⟨sh, dh, bh, ah⟩, ⟨sw, dw, bw, aw⟩)
  | _, _, _, _ => none

def formats : List String :=
  ["NCHW", "NHWC"]

def requirePair (name : String) (values : List Value) : Except Failure (Value × Value) := do
  let _ ← (Violation.attributeLength name values).write
  match values with
  | [height, width] => return (height, width)
  | _ => (Violation.attributeLength name values).report kind

/-- Whether both paddings are not negative; the second counts only if the first is not. -/
def arePaddings (below above : Value) : Except Failure Bool := do
  if (← Number.ofValue below).isNonNegative then return (← Number.ofValue above).isNonNegative
  else return false

def checkAxis (attrs : ConvolutionAttributes) (index : Nat) (axis : SpatialAxis) :
    Except Failure Unit := do
  require kind (← Number.ofValue axis.stride).isPositive (.strideNotPositive index attrs.strides)
  require kind (← Number.ofValue axis.dilation).isPositive
    (.dilationNotPositive index attrs.dilations)
  require kind (← arePaddings axis.below axis.above)
    (.negativePadding index attrs.paddingBelow attrs.paddingAbove)

/-- The format is looked up among those known. -/
def checkFormat (format : Value) : Except Failure Unit := do
  if !format.isKey then throw .notAKey
  require kind (formats.any format.isText) (.dataFormat format)

/-- The attributes alone. -/
def checkAttributes (attrs : ConvolutionAttributes) :
    Except Failure (SpatialAxis × SpatialAxis) := do
  let (sh, sw) ← requirePair "window_movement_strides" attrs.strides
  let (dh, dw) ← requirePair "window_dilation_strides" attrs.dilations
  let (bh, bw) ← requirePair "padding_below" attrs.paddingBelow
  let (ah, aw) ← requirePair "padding_above" attrs.paddingAbove
  let height : SpatialAxis := ⟨sh, dh, bh, ah⟩
  let width : SpatialAxis := ⟨sw, dw, bw, aw⟩
  checkAxis attrs 0 height
  checkAxis attrs 1 width
  checkFormat attrs.dataFormat
  return (height, width)

/-- Batch, channels, height and width of the data. -/
def dataDims (channelsFirst : Bool) : Shape → Dimension × Dimension × Dimension × Dimension
  | .ranked [a, b, c, d] => if channelsFirst then (a, b, c, d) else (a, d, b, c)
  | _ => (.dynamic, .dynamic, .dynamic, .dynamic)

/-- Output channels, input channels, height and width of the filters. -/
def filterDims (channelsFirst : Bool) : Shape → Dimension × Dimension × Dimension × Dimension
  | .ranked [a, b, c, d] => if channelsFirst then (a, b, c, d) else (d, c, a, b)
  | _ => (.dynamic, .dynamic, .dynamic, .dynamic)

/-- A padding is a dimension to be added, so it must be an integer proper. -/
def padDimension (size : Dimension) (padding : Value) : Except Failure Dimension := do
  return size.add (← Dimension.ofValue padding)

/-- The extent of a window of `length` elements spread by a dilation. -/
def windowDimension (length : Nat) (dilation : Value) : Except Failure Dimension := do
  let spread ← (Number.int (length - 1)).mul (← Number.ofValue dilation)
  Dimension.ofNumber (← spread.add (.int 1))

/-- The number of places of a window that fits into an extent. -/
def placesDimension (padded window : Nat) (stride : Value) : Except Failure Dimension := do
  let steps ← (Number.int (padded - window)).floorDiv (← Number.ofValue stride)
  Dimension.ofNumber (← steps.add (.int 1))

/-- The output extent along one spatial axis. -/
def spatialDim (index : Nat) (axis : SpatialAxis) (size kernel : Dimension)
    (data filters : Shape) : Except Failure Dimension := do
  let padded ← padDimension (← padDimension size axis.below) axis.above
  match kernel with
  | .dynamic => return .dynamic
  | .static length =>
    require kind (0 < length) (.emptyWindow index filters)
    let window ← windowDimension length axis.dilation
    match padded, window with
    | .static padded, .static window =>
      require kind (window ≤ padded) (.windowTooLarge index window padded data filters)
      placesDimension padded window axis.stride
    | _, _ => return .dynamic

def requireRank (shape : Shape) (violation : Violation) : Except Failure Unit :=
  require kind (shape.rank.compatible (.static 4)) violation

def outputShape (channelsFirst : Bool) (batch channels height width : Dimension) : Shape :=
  if channelsFirst then .ranked [batch, channels, height, width]
  else .ranked [batch, height, width, channels]

def infer (attrs : ConvolutionAttributes) : List TensorType → Except Failure (List TensorType)
  | [data, filters] => do
    requireRank data.shape (.dataRank data.shape)
    requireRank filters.shape (.filtersRank filters.shape)
    let etype ← requireElements kind data.etype filters.etype
      (.convolutionElements data.etype filters.etype)
    let (heightAxis, widthAxis) ← checkAttributes attrs
    let (n, c, h, w) := dataDims attrs.isChannelsFirst data.shape
    let (f, fc, kh, kw) := filterDims attrs.isChannelsFirst filters.shape
    let ho ← spatialDim 0 heightAxis h kh data.shape filters.shape
    let wo ← spatialDim 1 widthAxis w kw data.shape filters.shape
    require kind (c.merge fc).isSome (.channels c fc data.shape filters.shape)
    return [⟨outputShape attrs.isChannelsFirst n f ho wo, etype⟩]
  | inputs => (Violation.inputCount 2 inputs.length).report kind

/-- The sum over the channels of a patch of the padded data with one position of the
filters. -/
def contract (patch filters : Tensor) (row column : Nat) : Except Failure Tensor := do
  match patch.shape, filters.shape with
  | [n, c, h, w], [f, fc, _, _] =>
    let channels ← Tensor.commonExtent c fc
    let etype := patch.etype.promote filters.etype
    return .ofElements etype <| .ofFn [n, f, h, w] fun
      | [n, f, h, w] => etype.reduce <| Tensor.total channels fun k =>
        patch.elements.get [n, if c = 1 then 0 else k, h, w] *
          filters.elements.get [f, if fc = 1 then 0 else k, row, column]
      | _ => 0
  | _, _ => throw (.array .shapes)

/-- How the window moves along an axis, and how far its elements lie apart. -/
structure Steps where
  stride : Int
  dilation : Int

/-- The coordinates that one position of the filters meets along an axis, in steps that are
not zero. -/
def patchProgression (steps : Steps) (places : Nat) (padded position : Nat) : Progression :=
  let start := position * steps.dilation
  .ofBounds ⟨start, start + steps.stride * (places - 1) + 1, steps.stride⟩ padded

/-- Machine words are integers from minus this bound up to and without it. -/
def wordBound : Int :=
  Nat.pow 2 63

/-- Paddings are machine words. -/
def padWord (padding : Value) : Except Failure Int := do
  match ← Number.ofValue padding with
  | .int amount =>
    if -wordBound ≤ amount ∧ amount < wordBound then return amount
    else throw (.array .casting)
  | .real _ => throw (.array .casting)

def extentOf : Int → Except Failure Nat
  | .ofNat extent => .ok extent
  | .negSucc _ => .error (.array .negativeSize)

/-- The paddings of both axes; sequences are refused before other values. -/
def paddingsOf (height width : SpatialAxis) : Except Failure (List (Nat × Nat)) := do
  let values := [height.below, height.above, width.below, width.above]
  if values.any Value.isSequence then throw (.array .shapes)
  match ← (← values.mapM padWord).mapM extentOf with
  | [bh, ah, bw, aw] => return [(0, 0), (0, 0), (bh, ah), (bw, aw)]
  | _ => throw (.array .shapes)

variable [Host]

def padData (data : Tensor) (height width : SpatialAxis) : Except Failure Tensor := do
  let paddings ← paddingsOf height width
  if data.shape.length != 4 then throw (.array .shapes)
  data.pad paddings

/-- The number of places of a window along an axis; it may come out negative. -/
def placeCount (axis : SpatialAxis) (padded kernel : Nat) : Except Failure Number := do
  let spread ← (Number.int (kernel - 1)).mul (← Number.ofValue axis.dilation)
  let room ← (← (Number.int padded).sub spread).sub (.int 1)
  (← room.floorDiv (← Number.ofValue axis.stride)).add (.int 1)

/-- The steps along an axis, which are integers whenever the number of places is one. -/
def stepsOf (axis : SpatialAxis) : Except Failure Steps := do
  return ⟨← (← Number.ofValue axis.stride).truncate, ← (← Number.ofValue axis.dilation).truncate⟩

/-- Convolution of data with channels first: the sum of the patches that the positions of
the filters meet. -/
def convolve (data filters : Tensor) (height width : SpatialAxis) : Except Failure Tensor := do
  let padded ← padData data height width
  match padded.shape, filters.shape with
  | [n, c, h, w], [f, _, kh, kw] =>
    let counts := [← placeCount height h kh, ← placeCount width w kw]
    match ← (← counts.mapM Number.asInteger).mapM extentOf with
    | [rows, columns] =>
      let heightSteps ← stepsOf height
      let widthSteps ← stepsOf width
      let start ← Tensor.zeros data.etype [n, f, rows, columns]
      let positions := (List.range kh).flatMap fun row => (List.range kw).map fun column =>
        (row, column)
      positions.foldlM (fun sum (row, column) => do
        let patch := padded.slice
          [.whole n, .whole c, patchProgression heightSteps rows h row,
           patchProgression widthSteps columns w column]
        sum.accumulate (← contract patch filters row column)) start
    | _ => throw (.array .shapes)
  | _, _ => throw (.array .shapes)

def requireFourAxes (t : Tensor) : Except Failure Unit :=
  if t.shape.length = 4 then .ok () else .error (.array .shapes)

def evaluate (attrs : ConvolutionAttributes) : List Tensor → Except Failure (List Tensor)
  | [data, filters] => do
    if attrs.isChannelsFirst then
      match axes? attrs with
      | some (height, width) => return [← convolve data filters height width]
      | none => throw (.array .shapes)
    else
      requireFourAxes data
      requireFourAxes filters
      match axes? attrs with
      | some (height, width) =>
        let result ← convolve (data.transpose [0, 3, 1, 2]) (filters.transpose [3, 2, 0, 1])
          height width
        return [result.transpose [0, 2, 3, 1]]
      | none => throw (.array .shapes)
  | _ => .error (.array .shapes)

end OpGraph.Convolution
