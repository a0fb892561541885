import OpGraph.Kernel.Translation.Convolution
import OpGraph.Proofs.Kernel.Unmarked
import OpGraph.Proofs.Operator.Convolution

/-!
# Direct kernels of convolutions

The kernel of an accepted convolution in the direct dialect reads back as the call of the
primitive of its layout with the shapes of the inputs and the output, and the primitive sums
over the channels and the positions of the filters in the padded data.
-/
namespace OpGraph

open Reading

namespace Convolution

/-! ### The primitive -/

section Primitive

variable (e : Extents) (height width : WindowAxis) (data filters : Tensor)

private theorem windowPlaces?_axis (w : WindowAxis) (extent kernel : Nat)
    (fits : w.Fits extent kernel) :
    windowPlaces? (w.padded extent) kernel w.stride w.dilation =
      some (w.places extent kernel) := by
  have moving := w.moving
  rw [windowPlaces?, if_neg (by omega), fdiv_room w extent kernel fits]
  rfl

def strides (height width : WindowAxis) : List Int :=
  [height.stride, width.stride]

def dilations (height width : WindowAxis) : List Int :=
  [height.dilation, width.dilation]

/-- Paddings are listed width first. -/
def paddings (height width : WindowAxis) : List Int :=
  [width.below, height.below, width.above, height.above]

private theorem term?_eq (shape : data.shape = e.data true)
    (shape' : filters.shape = e.kernel true) (fits : e.Fits height width) (n f y x c row column : Nat)
    (inBatch : n < e.batch) (inFilters : f < e.filters) (inChannels : c < e.channels)
    (inRows : y < height.places e.height e.kernelHeight)
    (inColumns : x < width.places e.width e.kernelWidth) (inHeight : row < e.kernelHeight)
    (inWidth : column < e.kernelWidth) :
    (elementAt? (padded height width data)
        [(n : Int), c, y * height.stride + row * height.dilation,
          x * width.stride + column * width.dilation]).bind (fun element =>
      (elementAt? filters [(f : Int), c, row, column]).bind fun factor =>
        some (element * factor)) =
      some (paddedAt true e height width data n c (height.meets y row) (width.meets x column) *
        filters.elements.get (filterOrder true f c row column)) := by
  have below := height.meets_lt_padded _ _ y row fits.height inRows inHeight
  have below' := width.meets_lt_padded _ _ x column fits.width inColumns inWidth
  have place : NDArray.InBounds (padded height width data).shape
      [n, c, height.meets y row, width.meets x column] := by
    rw [shape_padded e height width data shape]
    exact ⟨inBatch, inChannels, below, below', trivial⟩
  have place' : NDArray.InBounds filters.shape [f, c, row, column] := by
    rw [shape']
    exact ⟨inFilters, inChannels, inHeight, inWidth, trivial⟩
  -- The primitive reads padded data, so no coordinate is negative.
  have coordinates : [(n : Int), c, y * height.stride + row * height.dilation,
      x * width.stride + column * width.dilation] =
        [n, c, height.meets y row, width.meets x column].map Int.ofNat := by
    simp [WindowAxis.meets]
  rw [coordinates, elementAt?_natCast _ _ place, Option.bind_some]
  have factor := elementAt?_natCast filters _ place'
  simp only [List.map_cons, List.map_nil, Int.ofNat_eq_natCast] at factor
  rw [factor, Option.bind_some]
  exact congrArg (fun element => some (element * _))
    (get_pad e height width data shape n c _ _ inBatch inChannels below below')

theorem conv2dChannelsFirst?_eq_sums (shape : data.shape = e.data true)
    (shape' : filters.shape = e.kernel true) (fits : e.Fits height width) :
    conv2dChannelsFirst? data filters (strides height width) (paddings height width)
        (dilations height width) = some (sums true e height width data filters) := by
  have natural : (paddings height width).mapM Int.toNat? =
      some [width.below, height.below, width.above, height.above] := rfl
  have around : Tensor.ofElements data.etype (data.elements.pad
      [(0, 0), (0, 0), (height.below, height.above), (width.below, width.above)] 0) =
        padded height width data := rfl
  have kernel : filters.shape = [e.filters, e.channels, e.kernelHeight, e.kernelWidth] := shape'
  unfold conv2dChannelsFirst? strides dilations
  simp only [natural, around, shape_padded e height width data shape, kernel,
    windowPlaces?_axis height _ _ fits.height, windowPlaces?_axis width _ _ fits.width,
    Option.bind_eq_bind, Option.bind_some, Option.pure_def]
  rw [NDArray.tabulate?_eq_some _ _ (atPlace true fun n f y x =>
    data.etype.reduce (sumAt true e height width data filters n f y x))]
  · rfl
  · intro index inside
    obtain ⟨n, f, y, x, rfl, inBatch, inFilters, inRows, inColumns⟩ :=
      NDArray.inBounds_four _ _ _ _ _ inside
    have sum := sum?_three e.channels e.kernelHeight e.kernelWidth _ _
      fun c inChannels row inHeight column inWidth =>
        term?_eq e height width data filters shape shape' fits n f y x c row column inBatch
          inFilters inChannels inRows inColumns inHeight inWidth
    -- The primitive sums over channels outermost, `sumAt` innermost.
    rw [Tensor.total_rotate] at sum
    simp only [sum, Option.bind_some]
    rfl

theorem conv2dChannelsLast?_eq_sums (shape : data.shape = e.data false)
    (shape' : filters.shape = e.kernel false) (fits : e.Fits height width) :
    conv2dChannelsLast? data filters (strides height width) (paddings height width)
        (dilations height width) = some (sums false e height width data filters) := by
  have ranks : ¬(data.shape.length ≠ 4 ∨ filters.shape.length ≠ 4) := by
    rw [shape, shape']
    simp [Extents.data, Extents.kernel, dataOrder, filterOrder]
  have first := conv2dChannelsFirst?_eq_sums e height width _ _ (shape_transposeData e data shape)
    (shape_transposeFilters e filters shape') fits
  rw [conv2dChannelsLast?, if_neg ranks, first, ← transpose_sums e height width data filters shape shape']
  rfl

end Primitive

/-! ### The call -/

def primitive (channelsFirst : Bool) : Primitive :=
  if channelsFirst then .conv2dChannelsFirst else .conv2dChannelsLast

def call (channelsFirst : Bool) (e : Extents) (height width : WindowAxis) : Call where
  inputs := [("input0", (e.data channelsFirst).map Int.ofNat),
    ("input1", (e.kernel channelsFirst).map Int.ofNat)]
  shape := (e.output channelsFirst height width).map Int.ofNat
  primitive := (primitive channelsFirst).name
  arguments := [.input "input0", .input "input1", .integers "stride" (strides height width),
    .integers "padding" (paddings height width), .integers "dilation" (dilations height width)]

section Call

variable (channelsFirst : Bool) (e : Extents) (height width : WindowAxis)

theorem isPlain_call : (call channelsFirst e height width).IsPlain := by
  constructor
  · simp only [call, List.forall_mem_cons]
    refine ⟨?_, ?_, by simp⟩ <;> decide
  · simp only [call, List.forall_mem_cons, Argument.IsPlain]
    refine ⟨?_, ?_, ?_, ?_, ?_, by simp⟩ <;> decide
  · simp [call]
  all_goals
    simp only [call]
    cases channelsFirst <;> decide

theorem isUnmarked_call : Template.IsUnmarked (call channelsFirst e height width).text := by
  apply Template.isUnmarked_call
  · simp only [call, List.forall_mem_cons]
    refine ⟨?_, ?_, by simp⟩ <;> decide
  · exact Template.isUnmarked_primitive _
  · simp only [call, List.forall_mem_cons, Argument.text, Template.isUnmarked_append,
      Template.isUnmarked_integerList, and_true]
    refine ⟨?_, ?_, ?_, ?_, ?_, by simp⟩ <;> decide

/-- On arrays of the declared shapes the call gives the sums at all places. -/
theorem run?_call (data filters : Tensor) (shape : data.shape = e.data channelsFirst)
    (shape' : filters.shape = e.kernel channelsFirst) (fits : e.Fits height width) :
    (call channelsFirst e height width).run? [("input0", data), ("input1", filters)] =
      some (sums channelsFirst e height width data filters) := by
  have declared : (call channelsFirst e height width).declares
      [("input0", data), ("input1", filters)] = true := by
    simp [Call.declares, call, List.lookup_cons, shape, shape']
  have ran : runPrimitive? (call channelsFirst e height width).primitive [data, filters]
      ((call channelsFirst e height width).arguments.filterMap Argument.integers?) =
        some (sums channelsFirst e height width data filters) := by
    cases channelsFirst with
    | true => exact conv2dChannelsFirst?_eq_sums e height width data filters shape shape' fits
    | false => exact conv2dChannelsLast?_eq_sums e height width data filters shape shape' fits
  have inputs : ((call channelsFirst e height width).arguments.filterMap Argument.input?).mapM
      (fun name => ([("input0", data), ("input1", filters)] : Inputs).lookup name) =
        some [data, filters] := rfl
  have result : (sums channelsFirst e height width data filters).shape.map Int.ofNat =
      (call channelsFirst e height width).shape := rfl
  rw [Call.run?, if_pos declared]
  simp only [inputs, ran, Option.bind_eq_bind, Option.bind_some, if_pos result]

end Call

/-! ### The text of the kernel -/

section Rendering

open Template (Segment written filled render_written)

private theorem render_directTemplate (channelsFirst : Bool) (e : Extents)
    (height width : WindowAxis) (subs : Substitutions)
    (data : subs.get? "input_shape_0" =
      some (integerList ((e.data channelsFirst).map Int.ofNat)))
    (filters : subs.get? "input_shape_1" =
      some (integerList ((e.kernel channelsFirst).map Int.ofNat)))
    (output : subs.get? "output_shape" =
      some (integerList ((e.output channelsFirst height width).map Int.ofNat)))
    (name : subs.get? "primitive" = some (primitive channelsFirst).name)
    (stride : subs.get? "stride" = some (integerList (strides height width)))
    (padding : subs.get? "padding" = some (integerList (paddings height width)))
    (dilation : subs.get? "dilation" = some (integerList (dilations height width))) :
    subs.render directTemplate = .ok (call channelsFirst e height width).text := by
  have template : directTemplate = written
      [.text (" - " ++ "input(\"" ++ "input0" ++ "\", "), .hole "input_shape_0",
        .text (")" ++ "; " ++ "input(\"" ++ "input1" ++ "\", "), .hole "input_shape_1",
        .text (")" ++ "; " ++ "output("), .hole "output_shape", .text ", topi=",
        .hole "primitive",
        .text ("(" ++ "args(\"" ++ "input0" ++ "\")" ++ ", " ++ "args(\"" ++ "input1" ++
          "\")" ++ ", " ++ "stride" ++ "="), .hole "stride",
        .text (", " ++ "padding" ++ "="), .hole "padding",
        .text (", " ++ "dilation" ++ "="), .hole "dilation", .text ("))" ++ "; ")] := by
    decide +kernel
  rw [Substitutions.render, template, render_written _ _ (by decide)]
  · simp [-String.reduceAppend, filled, Segment.filled, data, filters, output, name, stride,
      padding, dilation, Call.text, Call.outputText, call, inputText, Argument.text,
      Text.commaList, String.intercalate_cons_cons, String.append_assoc]
  · simp [Segment.known, data, filters, output, name, stride, padding, dilation]

theorem translateDirect_attributes (name : String) (channelsFirst : Bool) (e : Extents)
    (height width : WindowAxis) (etype etype' merged : ElementType)
    (short : (attributes channelsFirst height width).isShort = true)
    (known : (Shape.ofLengths (e.data channelsFirst)).isShort = true)
    (known' : (Shape.ofLengths (e.kernel channelsFirst)).isShort = true)
    (output : (Shape.ofLengths (e.output channelsFirst height width)).isShort = true) :
    translateDirect ⟨name, .convolution (attributes channelsFirst height width), 2,
        .ok [⟨.ofLengths (e.data channelsFirst), etype⟩,
          ⟨.ofLengths (e.kernel channelsFirst), etype'⟩],
        .ok [⟨.ofLengths (e.output channelsFirst height width), merged⟩]⟩ =
      .ok (.direct (call channelsFirst e height width).text) := by
  have found : Primitive.find (.text kind) (attributes channelsFirst height width).dataFormat =
      .ok (primitive channelsFirst) := by
    cases channelsFirst <;> rfl
  have lists : (attributes channelsFirst height width).strides =
        (strides height width).map .int ∧
      (attributes channelsFirst height width).dilations = (dilations height width).map .int :=
    ⟨rfl, rfl⟩
  have above : entry (attributes channelsFirst height width).paddingAbove 0 =
        .ok (.int height.above) ∧
      entry (attributes channelsFirst height width).paddingAbove 1 = .ok (.int width.above) :=
    ⟨rfl, rfl⟩
  have below : entry (attributes channelsFirst height width).paddingBelow 0 =
        .ok (.int height.below) ∧
      entry (attributes channelsFirst height width).paddingBelow 1 = .ok (.int width.below) :=
    ⟨rfl, rfl⟩
  -- The primitive is given the paddings of the width before those of the height.
  have padding : [Value.int width.below, .int height.below, .int width.above,
      .int height.above] = (paddings height width).map .int := rfl
  obtain ⟨moves, spreads, below', above'⟩ := isShort_attributes short
  have around : (paddings height width).all Text.isShort = true := by
    simp only [paddings, List.all_cons, List.all_nil, Bool.and_true, Bool.and_eq_true]
      at below' above' ⊢
    exact ⟨below'.2, below'.1, above'.2, above'.1⟩
  simp only [translateDirect, requireConvolution, Outcome.ok_bind, below, above, padding,
    NodeView.inputShape, NodeView.outputShape, typeAt, List.getElem?_cons_zero,
    List.getElem?_cons_succ, pure_bind, found, lists,
    Substitutions.setShape_eq _ "input_shape_0" _ (by decide) known,
    Substitutions.setShape_eq _ "input_shape_1" _ (by decide) known',
    Substitutions.setShape_eq _ "output_shape" _ (by decide) output,
    Substitutions.setText_eq _ "primitive" _ (by decide),
    Substitutions.setInts_eq _ "stride" (strides height width) (by decide) moves,
    Substitutions.setInts_eq _ "padding" _ (by decide) around,
    Substitutions.setInts_eq _ "dilation" (dilations height width) (by decide) spreads]
  rw [render_directTemplate channelsFirst e height width _ (by simp) (by simp) (by simp)
    (by simp) (by simp) (by simp) (by simp)]
  rfl

end Rendering

end Convolution

end OpGraph
