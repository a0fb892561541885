import OpGraph.Operator.Convolution
import OpGraph.Proofs.Operator.StridedRange
import OpGraph.Proofs.Shape
import OpGraph.Proofs.Writing

/-!
# Window axes

One spatial axis of a convolution as the checks let it pass: a positive stride and dilation and
two paddings. Main statement: integer attributes and known shapes are accepted exactly when they
are those of two window axes whose windows fit into the padded data (`infer_ofLengths`).
-/
namespace OpGraph

structure WindowAxis where
  stride : Nat
  dilation : Nat
  below : Nat
  above : Nat
  moving : 0 < stride
  spread : 0 < dilation

namespace WindowAxis

variable (w : WindowAxis)

def axis : Convolution.SpatialAxis :=
  ⟨.int w.stride, .int w.dilation, .int w.below, .int w.above⟩

theorem axis_injective {w w' : WindowAxis} (same : w.axis = w'.axis) : w = w' := by
  obtain ⟨stride, dilation, below, above, _, _⟩ := w
  obtain ⟨stride', dilation', below', above', _, _⟩ := w'
  simpa only [axis, Convolution.SpatialAxis.mk.injEq, Value.int.injEq, Int.natCast_inj,
    WindowAxis.mk.injEq] using same

def padded (extent : Nat) : Nat :=
  w.below + extent + w.above

/-- The extent of a window of so many elements. -/
def window (kernel : Nat) : Nat :=
  (kernel - 1) * w.dilation + 1

/-- The window is not empty and does not exceed the padded axis. -/
def Fits (extent kernel : Nat) : Prop :=
  0 < kernel ∧ w.window kernel ≤ w.padded extent

def places (extent kernel : Nat) : Nat :=
  (w.padded extent - w.window kernel) / w.stride + 1

/-- The padded coordinate that a place of the window meets at a position of the filters. -/
def meets (place position : Nat) : Nat :=
  place * w.stride + position * w.dilation

theorem meets_lt_padded (extent kernel place position : Nat) (fits : w.Fits extent kernel)
    (inPlaces : place < w.places extent kernel) (inKernel : position < kernel) :
    w.meets place position < w.padded extent := by
  obtain ⟨-, below⟩ := fits
  have across : place * w.stride ≤ w.padded extent - w.window kernel := by
    have last : place ≤ (w.padded extent - w.window kernel) / w.stride :=
      Nat.lt_succ_iff.mp inPlaces
    exact (Nat.le_div_iff_mul_le w.moving).mp last
  have along : position * w.dilation ≤ (kernel - 1) * w.dilation :=
    Nat.mul_le_mul_right _ (by omega)
  unfold meets
  unfold window at across below
  omega

end WindowAxis

namespace Convolution

/-- The attributes of two window axes. -/
def attributes (channelsFirst : Bool) (height width : WindowAxis) : ConvolutionAttributes :=
  .ofInts [height.stride, width.stride] [height.dilation, width.dilation]
    [height.below, width.below] [height.above, width.above]
    (if channelsFirst then "NCHW" else "NHWC")

/-- The numbers of the attributes can be written list by list. -/
theorem isShort_attributes {channelsFirst : Bool} {height width : WindowAxis}
    (short : (attributes channelsFirst height width).isShort = true) :
    ([height.stride, width.stride] : List Int).all Text.isShort = true ∧
      ([height.dilation, width.dilation] : List Int).all Text.isShort = true ∧
      ([height.below, width.below] : List Int).all Text.isShort = true ∧
      ([height.above, width.above] : List Int).all Text.isShort = true := by
  simp only [ConvolutionAttributes.isShort, Bool.and_eq_true] at short
  exact ⟨short.1.1.1.1, short.1.1.1.2, short.1.1.2, short.1.2⟩

@[simp] theorem isChannelsFirst_attributes (channelsFirst : Bool) (height width : WindowAxis) :
    (attributes channelsFirst height width).isChannelsFirst = channelsFirst := by
  cases channelsFirst <;> rfl

@[simp] theorem axes?_attributes (channelsFirst : Bool) (height width : WindowAxis) :
    axes? (attributes channelsFirst height width) = some (height.axis, width.axis) :=
  rfl

theorem attributes_injective {channelsFirst channelsFirst' : Bool}
    {height width height' width' : WindowAxis}
    (same : attributes channelsFirst height width = attributes channelsFirst' height' width') :
    channelsFirst = channelsFirst' ∧ height = height' ∧ width = width' := by
  have format := congrArg ConvolutionAttributes.isChannelsFirst same
  have axes := congrArg axes? same
  simp only [isChannelsFirst_attributes, axes?_attributes, Option.some.injEq, Prod.mk.injEq]
    at format axes
  exact ⟨format, WindowAxis.axis_injective axes.1, WindowAxis.axis_injective axes.2⟩

/-! ### The checks of attributes -/

theorem arePaddings_int (below above : Int) :
    arePaddings (.int below) (.int above) = .ok (decide (0 ≤ below ∧ 0 ≤ above)) := by
  simp only [arePaddings, Number.ofValue_int, Outcome.ok_bind]
  by_cases nonneg : 0 ≤ below
  · rw [if_pos ((Number.isNonNegative_int below).mpr nonneg)]
    simp [nonneg, Number.isNonNegative, Number.lessEq, pure, Except.pure]
  · rw [if_neg (mt (Number.isNonNegative_int below).mp nonneg)]
    simp [nonneg, pure, Except.pure]

private theorem checkAxis_ofInts {attrs : ConvolutionAttributes} (short : attrs.isShort = true)
    (index : Nat) (stride dilation below above : Int) :
    checkAxis attrs index ⟨.int stride, .int dilation, .int below, .int above⟩ = .ok () ↔
      0 < stride ∧ 0 < dilation ∧ 0 ≤ below ∧ 0 ≤ above := by
  simp only [ConvolutionAttributes.isShort, Bool.and_eq_true] at short
  simp only [checkAxis, Number.ofValue_int, Outcome.ok_bind, arePaddings_int, Outcome.bind_eq_ok,
    Outcome.exists_unit, Outcome.require_eq_ok, Number.isPositive_int, decide_eq_true_iff,
    Violation.isShort, Violation.phrases, List.all_cons, List.all_nil, Phrase.isShort, short,
    Bool.and_self, true_and]

/-- A text can be looked up among the formats. -/
theorem checkFormat_eq (format : String) : checkFormat (.text format) =
    require kind (formats.any (Value.text format).isText) (.dataFormat (.text format)) :=
  rfl

private theorem checkFormat_text (format : String) :
    checkFormat (.text format) = .ok () ↔ format = "NCHW" ∨ format = "NHWC" := by
  have written : (Violation.dataFormat (.text format)).isShort = true := rfl
  rw [checkFormat_eq, Outcome.require_eq_ok]
  simp [written, formats, Value.isText]

/-- A pair of attributes is a list of two values. The list is written first, whatever it is. -/
theorem requirePair_eq_ok (name : String) (values : List Value) (pair : Value × Value) :
    requirePair name values = .ok pair ↔
      values.all Value.isShort = true ∧ values = [pair.1, pair.2] := by
  have short : (Violation.attributeLength name values).isShort = values.all Value.isShort := by
    simp [Violation.isShort, Violation.phrases, Phrase.isShort]
  unfold requirePair
  rw [Violation.write, short]
  cases values.all Value.isShort with
  | false => simp
  | true =>
    rw [writeWhen_of_short _ rfl, Outcome.ok_bind]
    split
    next height width => simp [Prod.ext_iff]
    next other => simpa using other pair.1 pair.2

theorem requirePair_ofInts (name : String) (values : List Int) (first second : Value) :
    requirePair name (values.map .int) = .ok (first, second) ↔
      (values.map Value.int).all Value.isShort = true ∧
        ∃ a b, values = [a, b] ∧ first = .int a ∧ second = .int b := by
  rw [requirePair_eq_ok]
  refine and_congr_right fun _ => ?_
  constructor
  · intro same
    obtain ⟨a, rest, rfl, rfl, pair⟩ := List.map_eq_cons_iff.mp same
    obtain ⟨b, rest, rfl, rfl, none⟩ := List.map_eq_cons_iff.mp pair
    rw [List.map_eq_nil_iff.mp none]
    exact ⟨a, b, rfl, rfl, rfl⟩
  · rintro ⟨a, b, rfl, rfl, rfl⟩
    rfl

/-- Attributes that are accepted were written before. -/
theorem isShort_of_checkAttributes {attrs : ConvolutionAttributes}
    {axes : SpatialAxis × SpatialAxis} (checked : checkAttributes attrs = .ok axes) :
    attrs.isShort = true := by
  simp only [checkAttributes, Outcome.bind_eq_ok, Outcome.exists_unit, requirePair_eq_ok] at checked
  obtain ⟨_, ⟨strides, -⟩, _, ⟨dilations, -⟩, _, ⟨below, -⟩, _, ⟨above, -⟩, -, -, layout, -⟩ :=
    checked
  have format : attrs.dataFormat.isShort = true := by
    unfold checkFormat at layout
    split at layout
    · simp at layout
    · simp only [Outcome.require_eq_ok] at layout
      simpa [Violation.isShort, Violation.phrases, Phrase.isShort] using layout.1
  simp only [ConvolutionAttributes.isShort, strides, dilations, below, above, format, Bool.and_self]

theorem checkAttributes_ofInts (strides dilations below above : List Int) (format : String)
    (axes : SpatialAxis × SpatialAxis) :
    checkAttributes (.ofInts strides dilations below above format) = .ok axes ↔
      (ConvolutionAttributes.ofInts strides dilations below above format).isShort = true ∧
        ∃ channelsFirst height width,
          ConvolutionAttributes.ofInts strides dilations below above format =
            attributes channelsFirst height width ∧ axes = (height.axis, width.axis) := by
  constructor
  · intro checked
    have short := isShort_of_checkAttributes checked
    simp only [checkAttributes, Outcome.bind_eq_ok, Outcome.exists_unit, Outcome.pure_eq_ok,
      Prod.exists, ConvolutionAttributes.ofInts, requirePair_ofInts] at checked
    obtain ⟨_, _, ⟨-, sh, sw, rfl, rfl, rfl⟩, _, _, ⟨-, dh, dw, rfl, rfl, rfl⟩, _, _,
      ⟨-, bh, bw, rfl, rfl, rfl⟩, _, _, ⟨-, ah, aw, rfl, rfl, rfl⟩, high, wide, layout, rfl⟩ :=
      checked
    have high := (checkAxis_ofInts short 0 _ _ _ _).mp high
    have wide := (checkAxis_ofInts short 1 _ _ _ _).mp wide
    -- The checks leave eight numbers that are not negative; two of them are positive.
    let height : WindowAxis :=
      ⟨sh.toNat, dh.toNat, bh.toNat, ah.toNat, by omega, by omega⟩
    let width : WindowAxis :=
      ⟨sw.toNat, dw.toNat, bw.toNat, aw.toNat, by omega, by omega⟩
    have axes : height.axis = ⟨.int sh, .int dh, .int bh, .int ah⟩ ∧
        width.axis = ⟨.int sw, .int dw, .int bw, .int aw⟩ := by
      simp only [WindowAxis.axis, height, width, SpatialAxis.mk.injEq, Value.int.injEq]
      omega
    refine ⟨short, format = "NCHW", height, width, ?_, by rw [axes.1, axes.2]⟩
    simp only [WindowAxis.axis, SpatialAxis.mk.injEq] at axes
    obtain ⟨⟨h1, h2, h3, h4⟩, w1, w2, w3, w4⟩ := axes
    simp only [attributes, ConvolutionAttributes.ofInts, List.map_cons, List.map_nil, h1, h2, h3,
      h4, w1, w2, w3, w4]
    rcases (checkFormat_text format).mp layout with rfl | rfl <;> simp
  · rintro ⟨short, channelsFirst, height, width, same, rfl⟩
    rw [same] at short ⊢
    have high := (checkAxis_ofInts short 0 height.stride
      height.dilation height.below height.above).mpr
      ⟨by have := height.moving; omega, by have := height.spread; omega, by omega, by omega⟩
    have wide := (checkAxis_ofInts short 1 width.stride
      width.dilation width.below width.above).mpr
      ⟨by have := width.moving; omega, by have := width.spread; omega, by omega, by omega⟩
    have layout : checkFormat (attributes channelsFirst height width).dataFormat = .ok () := by
      rw [attributes, ConvolutionAttributes.ofInts, checkFormat_text]
      cases channelsFirst <;> simp
    simp only [ConvolutionAttributes.isShort, Bool.and_eq_true] at short
    obtain ⟨⟨⟨⟨strides, dilations⟩, below⟩, above⟩, -⟩ := short
    simp only [checkAttributes, Outcome.bind_eq_ok, Outcome.exists_unit, Outcome.pure_eq_ok,
      requirePair_eq_ok]
    exact ⟨(_, _), ⟨strides, rfl⟩, (_, _), ⟨dilations, rfl⟩, (_, _), ⟨below, rfl⟩, (_, _),
      ⟨above, rfl⟩, high, wide, layout, rfl⟩

theorem checkAttributes_attributes {channelsFirst : Bool} {height width : WindowAxis}
    (short : (attributes channelsFirst height width).isShort = true) :
    checkAttributes (attributes channelsFirst height width) = .ok (height.axis, width.axis) :=
  (checkAttributes_ofInts _ _ _ _ _ _).mpr ⟨short, channelsFirst, height, width, rfl, rfl⟩

/-! ### Known shapes -/

private theorem windowDimension_axis (w : WindowAxis) (kernel : Nat) (nonempty : 0 < kernel) :
    windowDimension kernel w.axis.dilation = .ok (.static (w.window kernel)) := by
  have spread : ((kernel : Int) - 1) * w.dilation + 1 = (w.window kernel : Nat) := by
    have before : (kernel : Int) - 1 = (kernel - 1 : Nat) := by omega
    rw [before, WindowAxis.window]
    norm_cast
  simp only [windowDimension, WindowAxis.axis, Number.ofValue_int, Number.mul_int, Number.add_int,
    Outcome.ok_bind, spread, Dimension.ofNumber_natCast]

private theorem placesDimension_axis (w : WindowAxis) (extent kernel : Nat)
    (below : w.window kernel ≤ w.padded extent) :
    placesDimension (w.padded extent) (w.window kernel) w.axis.stride =
      .ok (.static (w.places extent kernel)) := by
  have moving := w.moving
  have nonzero : (w.stride : Int) ≠ 0 := by omega
  have steps : Int.fdiv ((w.padded extent : Int) - w.window kernel) w.stride + 1 =
      (w.places extent kernel : Nat) := by
    have room : (w.padded extent : Int) - w.window kernel =
        (w.padded extent - w.window kernel : Nat) := by omega
    rw [room, Int.fdiv_eq_ediv_of_nonneg _ (by omega), WindowAxis.places]
    norm_cast
  simp only [placesDimension, WindowAxis.axis, Number.ofValue_int, Outcome.ok_bind,
    Number.floorDiv_int _ _ nonzero, Number.add_int, steps, Dimension.ofNumber_natCast]

/-- A window with elements slides along one axis: it must fit where the axis is known. -/
theorem spatialDim_axis (index : Nat) (w : WindowAxis) (size kernel : Dimension)
    (data filters : Shape) :
    spatialDim index w.axis size kernel data filters =
      match kernel with
      | .dynamic => .ok .dynamic
      | .static length => do
        require kind (0 < length) (.emptyWindow index filters)
        match size with
        | .dynamic => return .dynamic
        | .static extent =>
          require kind (w.window length ≤ w.padded extent)
            (.windowTooLarge index (w.window length) (w.padded extent) data filters)
          return .static (w.places extent length) := by
  cases kernel with
  | dynamic => cases size <;> rfl
  | static length =>
    have below : padDimension size w.axis.below = .ok (size.add (.static w.below)) := rfl
    have above : padDimension (size.add (.static w.below)) w.axis.above =
        .ok ((size.add (.static w.below)).add (.static w.above)) := rfl
    simp only [spatialDim, below, above, Outcome.ok_bind]
    by_cases nonempty : 0 < length
    · simp only [windowDimension_axis w length nonempty, Outcome.ok_bind]
      cases size with
      | dynamic => rfl
      | static extent =>
        have sum : extent + w.below + w.above = w.padded extent := by
          unfold WindowAxis.padded
          omega
        simp only [Dimension.add, Dimension.lift, sum]
        cases fit : require kind (w.window length ≤ w.padded extent)
          (.windowTooLarge index (w.window length) (w.padded extent) data filters) with
        | error failure => rfl
        | ok =>
          -- The window fits, so the difference that is divided is not negative.
          have below := of_decide_eq_true ((Outcome.require_eq_ok _ _ _ _).mp fit).2
          simp only [Outcome.ok_bind, placesDimension_axis w extent length below]
          rfl
    · cases fit : require kind (0 < length) (.emptyWindow index filters) with
      | error failure => rfl
      | ok =>
        exact absurd (of_decide_eq_true ((Outcome.require_eq_ok _ _ _ _).mp fit).2) nonempty

private theorem spatialDim_static (index : Nat) (w : WindowAxis) (extent kernel : Nat)
    (data filters : Shape) (dim : Dimension)
    (accepted : spatialDim index w.axis (.static extent) (.static kernel) data filters = .ok dim) :
    w.Fits extent kernel ∧ dim = .static (w.places extent kernel) := by
  simp only [spatialDim_axis, Outcome.bind_eq_ok, Outcome.exists_unit,
    Outcome.require_eq_ok, Outcome.pure_eq_ok, decide_eq_true_iff] at accepted
  obtain ⟨⟨-, nonempty⟩, ⟨-, below⟩, rfl⟩ := accepted
  exact ⟨⟨nonempty, below⟩, rfl⟩

/-- Entries by layout: batch, channels, height and width of data, with the channels before or
after the spatial axes. -/
def dataOrder {α : Type} (channelsFirst : Bool) (n c h w : α) : List α :=
  if channelsFirst then [n, c, h, w] else [n, h, w, c]

/-- Output channels, input channels, height and width of filters. -/
def filterOrder {α : Type} (channelsFirst : Bool) (f c h w : α) : List α :=
  if channelsFirst then [f, c, h, w] else [h, w, c, f]

/-- The extents of the data and the filters. -/
structure Extents where
  batch : Nat
  channels : Nat
  height : Nat
  width : Nat
  filters : Nat
  kernelHeight : Nat
  kernelWidth : Nat

namespace Extents

variable (e : Extents) (channelsFirst : Bool) (height width : WindowAxis)

def data : List Nat :=
  dataOrder channelsFirst e.batch e.channels e.height e.width

def kernel : List Nat :=
  filterOrder channelsFirst e.filters e.channels e.kernelHeight e.kernelWidth

def output : List Nat :=
  dataOrder channelsFirst e.batch e.filters (height.places e.height e.kernelHeight)
    (width.places e.width e.kernelWidth)

structure Fits : Prop where
  height : height.Fits e.height e.kernelHeight
  width : width.Fits e.width e.kernelWidth

end Extents

theorem dataDims_data (e : Extents) (channelsFirst : Bool) :
    dataDims channelsFirst (.ofLengths (e.data channelsFirst)) =
      (.static e.batch, .static e.channels, .static e.height, .static e.width) := by
  cases channelsFirst <;> rfl

theorem filterDims_kernel (e : Extents) (channelsFirst : Bool) :
    filterDims channelsFirst (.ofLengths (e.kernel channelsFirst)) =
      (.static e.filters, .static e.channels, .static e.kernelHeight, .static e.kernelWidth) := by
  cases channelsFirst <;> rfl

private theorem four_of_requireRank (lengths : List Nat) (violation : Violation)
    (ranked : requireRank (.ofLengths lengths) violation = .ok ()) :
    ∃ a b c d, lengths = [a, b, c, d] := by
  simp only [requireRank, Outcome.require_eq_ok, Shape.ofLengths, Shape.rank, List.length_map,
    Dimension.compatible, beq_iff_eq] at ranked
  exact List.length_eq_four.mp ranked.2

/-- What was accepted was written before. -/
theorem isShort_of_infer {attrs : ConvolutionAttributes} {data filters : TensorType}
    {types : List TensorType} (accepted : infer attrs [data, filters] = .ok types) :
    attrs.isShort = true ∧ data.shape.isShort = true ∧ filters.shape.isShort = true := by
  simp only [infer, requireRank, Outcome.bind_eq_ok, Outcome.exists_unit,
    Outcome.require_eq_ok] at accepted
  obtain ⟨⟨dataShort, -⟩, ⟨filtersShort, -⟩, _, -, _, checked, -⟩ := accepted
  exact ⟨isShort_of_checkAttributes checked,
    by simpa [Violation.isShort, Violation.phrases, Phrase.isShort] using dataShort,
    by simpa [Violation.isShort, Violation.phrases, Phrase.isShort] using filtersShort⟩

theorem infer_ofLengths (strides dilations below above : List Int) (format : String)
    (shape shape' : List Nat) (etype etype' : ElementType) (types : List TensorType)
    (accepted : infer (.ofInts strides dilations below above format)
      [⟨.ofLengths shape, etype⟩, ⟨.ofLengths shape', etype'⟩] = .ok types) :
    ∃ (channelsFirst : Bool) (height width : WindowAxis) (e : Extents) (merged : ElementType),
      ConvolutionAttributes.ofInts strides dilations below above format =
          attributes channelsFirst height width ∧
        shape = e.data channelsFirst ∧ shape' = e.kernel channelsFirst ∧ e.Fits height width ∧
        etype.merge etype' = some merged ∧
        types = [⟨.ofLengths (e.output channelsFirst height width), merged⟩] := by
  simp only [infer, Outcome.bind_eq_ok, Outcome.exists_unit, Outcome.requireElements_eq_ok,
    Outcome.require_eq_ok, Outcome.pure_eq_ok] at accepted
  obtain ⟨ranked, ranked', merged, elements, ⟨heightAxis, widthAxis⟩, checked, ho, high, wo, wide,
    ⟨-, channels⟩, rfl⟩ := accepted
  obtain ⟨-, channelsFirst, height, width, same, axes⟩ :=
    (checkAttributes_ofInts strides dilations below above format _).mp checked
  obtain ⟨d0, d1, d2, d3, rfl⟩ := four_of_requireRank shape _ ranked
  obtain ⟨k0, k1, k2, k3, rfl⟩ := four_of_requireRank shape' _ ranked'
  simp only [Prod.mk.injEq] at axes
  obtain ⟨rfl, rfl⟩ := axes
  -- The layouts differ in which of the four extents are spatial.
  rw [same, isChannelsFirst_attributes] at high wide channels ⊢
  cases channelsFirst with
  | true =>
    obtain ⟨fitsHigh, rfl⟩ := spatialDim_static 0 height d2 k2 _ _ ho high
    obtain ⟨fitsWide, rfl⟩ := spatialDim_static 1 width d3 k3 _ _ wo wide
    obtain rfl := (Dimension.merge_static d1 k1).mp channels
    exact ⟨true, height, width, ⟨d0, d1, d2, d3, k0, k2, k3⟩, merged, rfl, rfl, rfl,
      ⟨fitsHigh, fitsWide⟩, elements, rfl⟩
  | false =>
    obtain ⟨fitsHigh, rfl⟩ := spatialDim_static 0 height d1 k0 _ _ ho high
    obtain ⟨fitsWide, rfl⟩ := spatialDim_static 1 width d2 k1 _ _ wo wide
    obtain rfl := (Dimension.merge_static d3 k2).mp channels
    exact ⟨false, height, width, ⟨d0, d3, d1, d2, k3, k0, k1⟩, merged, rfl, rfl, rfl,
      ⟨fitsHigh, fitsWide⟩, elements, rfl⟩

end Convolution

end OpGraph
