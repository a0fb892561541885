import OpGraph.Proofs.Operator.WindowSums
import OpGraph.Proofs.Operator.Written
import OpGraph.Proofs.Transposition

/-!
# The two layouts of a convolution

With channels last a convolution is the one with channels first, up to transposition: it accepts
the transposed types exactly when the other one accepts the types, and both its types and its
arrays are the transposed ones (`channelsLast_transposes`). For types this holds of any
attributes and of shapes known in part; arrays are compared as outcomes, so that one layout fails
exactly when the other does.
-/
namespace OpGraph

/-- The axes of data with channels last, by their places with channels first. -/
def Convolution.dataAxes : List Nat :=
  [0, 2, 3, 1]

/-- The axes of filters with channels last, by their places with channels first. -/
def Convolution.filterAxes : List Nat :=
  [2, 3, 1, 0]

namespace ConvolutionAttributes

variable (attrs : ConvolutionAttributes)

def channelsFirst : ConvolutionAttributes :=
  { attrs with dataFormat := .text "NCHW" }

def channelsLast : ConvolutionAttributes :=
  { attrs with dataFormat := .text "NHWC" }

@[simp] theorem isChannelsFirst_channelsFirst : attrs.channelsFirst.isChannelsFirst = true :=
  rfl

@[simp] theorem isChannelsFirst_channelsLast : attrs.channelsLast.isChannelsFirst = false :=
  rfl

end ConvolutionAttributes

namespace Convolution

theorem rank_permute (axes : List Nat) (four : axes.length = 4) (shape : Shape) :
    (shape.permute axes).rank.compatible (.static 4) = true := by
  cases shape <;> simp [Shape.permute, Shape.rank, Dimension.compatible, permuted, four]

theorem dataDims_permute {shape : Shape} (ranked : shape.rank.compatible (.static 4) = true) :
    dataDims false (shape.permute dataAxes) = dataDims true shape := by
  rcases Shape.four_of_compatible ranked with rfl | ⟨n, c, h, w, rfl⟩ <;> rfl

theorem filterDims_permute {shape : Shape} (ranked : shape.rank.compatible (.static 4) = true) :
    filterDims false (shape.permute filterAxes) = filterDims true shape := by
  rcases Shape.four_of_compatible ranked with rfl | ⟨f, c, h, w, rfl⟩ <;> rfl

/-- The format is only looked up, and both are known. -/
theorem checkAttributes_channelsLast (attrs : ConvolutionAttributes) :
    checkAttributes attrs.channelsLast = checkAttributes attrs.channelsFirst :=
  rfl

theorem isShort_dataAxes {shape : Shape} (ranked : shape.rank.compatible (.static 4) = true) :
    (shape.permute dataAxes).isShort = shape.isShort := by
  rcases Shape.four_of_compatible ranked with rfl | ⟨n, c, h, w, rfl⟩
  · rfl
  · simp [Shape.permute, permuted, dataAxes, Shape.isShort, Bool.and_comm, Bool.and_left_comm]

theorem isShort_filterAxes {shape : Shape} (ranked : shape.rank.compatible (.static 4) = true) :
    (shape.permute filterAxes).isShort = shape.isShort := by
  rcases Shape.four_of_compatible ranked with rfl | ⟨f, c, h, w, rfl⟩
  · rfl
  · simp [Shape.permute, permuted, filterAxes, Shape.isShort, Bool.and_assoc, Bool.and_comm,
      Bool.and_left_comm]

/-- The shapes stand in messages only, so they may be exchanged for others that can be written. -/
theorem spatialDim_shapes {index : Nat} {axis : SpatialAxis} {size kernel dim : Dimension}
    {data data' filters filters' : Shape} (same : data.isShort = data'.isShort)
    (same' : filters.isShort = filters'.isShort) :
    spatialDim index axis size kernel data filters = .ok dim ↔
      spatialDim index axis size kernel data' filters' = .ok dim := by
  simp only [spatialDim, Outcome.bind_eq_ok]
  cases kernel with
  | dynamic => rfl
  | static length =>
    simp only [Outcome.bind_eq_ok, Outcome.exists_unit, Outcome.require_eq_ok, Violation.isShort,
      Violation.phrases, List.all_cons, Phrase.isShort, same']
    refine exists_congr fun _ => and_congr_right fun _ => exists_congr fun padded =>
      and_congr_right fun _ => and_congr_right fun _ => exists_congr fun window =>
        and_congr_right fun _ => ?_
    cases padded <;> cases window <;>
      simp only [Outcome.bind_eq_ok, Outcome.exists_unit, Outcome.require_eq_ok, Violation.isShort,
        Violation.phrases, List.all_cons, Phrase.isShort, same, same']

theorem infer_channelsLast (attrs : ConvolutionAttributes) {data filters : TensorType}
    (ranked : data.shape.rank.compatible (.static 4) = true)
    (ranked' : filters.shape.rank.compatible (.static 4) = true) (types : List TensorType) :
    infer attrs.channelsLast [data.permute dataAxes, filters.permute filterAxes] = .ok types ↔
      ∃ types', infer attrs.channelsFirst [data, filters] = .ok types' ∧
        types = types'.map (TensorType.permute dataAxes) := by
  obtain ⟨shape, etype⟩ := data
  obtain ⟨shape', etype'⟩ := filters
  simp only [infer, TensorType.permute, Outcome.bind_eq_ok, Outcome.exists_unit, requireRank,
    Outcome.require_eq_ok, Outcome.requireElements_eq_ok, Outcome.pure_eq_ok, ranked, ranked',
    rank_permute dataAxes rfl, rank_permute filterAxes rfl,
    ConvolutionAttributes.isChannelsFirst_channelsFirst,
    ConvolutionAttributes.isChannelsFirst_channelsLast, dataDims_permute ranked,
    filterDims_permute ranked', checkAttributes_channelsLast, Violation.isShort,
    Violation.phrases, List.all_cons, Phrase.isShort, isShort_dataAxes ranked,
    isShort_filterAxes ranked', and_true]
  have moved {index : Nat} {axis : SpatialAxis} {size kernel dim : Dimension} :
      spatialDim index axis size kernel (shape.permute dataAxes) (shape'.permute filterAxes) =
          .ok dim ↔ spatialDim index axis size kernel shape shape' = .ok dim :=
    spatialDim_shapes (isShort_dataAxes ranked) (isShort_filterAxes ranked')
  simp only [moved]
  constructor
  · rintro ⟨short, short', merged, elements, axes, checked, ho, high, wo, wide, channels, rfl⟩
    exact ⟨_, ⟨short, short', merged, elements, axes, checked, ho, high, wo, wide, channels, rfl⟩,
      rfl⟩
  · rintro ⟨_, ⟨short, short', merged, elements, axes, checked, ho, high, wo, wide, channels, rfl⟩,
      rfl⟩
    exact ⟨short, short', merged, elements, axes, checked, ho, high, wo, wide, channels, rfl⟩

/-! ### Arrays -/

theorem fourAxes_of_infer {attrs : ConvolutionAttributes} {data filters : Tensor}
    {types : List TensorType} (accepted : infer attrs [data.type, filters.type] = .ok types) :
    data.shape.length = 4 ∧ filters.shape.length = 4 := by
  simp only [infer, requireRank, Outcome.bind_eq_ok, Outcome.exists_unit,
    Outcome.require_eq_ok] at accepted
  obtain ⟨⟨-, ranked⟩, ⟨-, ranked'⟩, -⟩ := accepted
  simpa [Tensor.type, Shape.ofLengths, Shape.rank, Dimension.compatible] using
    And.intro ranked ranked'

section Arrays

variable [Host] (attrs : ConvolutionAttributes) {data filters : Tensor}
  (fourAxes : data.shape.length = 4) (fourAxes' : filters.shape.length = 4)

omit [Host] in
include fourAxes in
theorem type_transposeData : (data.transpose dataAxes).type = data.type.permute dataAxes :=
  data.type_transpose (fourAxes ▸ by decide)

omit [Host] in
include fourAxes' in
theorem type_transposeFilters :
    (filters.transpose filterAxes).type = filters.type.permute filterAxes :=
  filters.type_transpose (fourAxes' ▸ by decide)

include fourAxes fourAxes' in
/-- Evaluation transposes its operands back and then its result. -/
theorem evaluate_channelsLast (writable : data.writable = true)
    (writable' : filters.writable = true) :
    evaluate attrs.channelsLast [data.transpose dataAxes, filters.transpose filterAxes] =
      (evaluate attrs.channelsFirst [data, filters]).map
        (List.map fun result => result.transpose dataAxes) := by
  have dataBack : (data.transpose dataAxes).transpose [0, 3, 1, 2] = data :=
    data.transpose_transpose (fourAxes ▸ by decide) writable
  have filtersBack : (filters.transpose filterAxes).transpose [3, 2, 0, 1] = filters :=
    filters.transpose_transpose (fourAxes' ▸ by decide) writable'
  have four : requireFourAxes (data.transpose dataAxes) = .ok () := rfl
  have four' : requireFourAxes (filters.transpose filterAxes) = .ok () := rfl
  have sameAxes : axes? attrs.channelsLast = axes? attrs.channelsFirst := rfl
  simp only [evaluate, ConvolutionAttributes.isChannelsFirst_channelsFirst, if_true,
    ConvolutionAttributes.isChannelsFirst_channelsLast, Bool.false_eq_true, if_false, four, four',
    Outcome.ok_bind, dataBack, filtersBack, sameAxes]
  cases axes? attrs.channelsFirst with
  | none => rfl
  | some axes =>
    cases ran : convolve data filters axes.1 axes.2 with
    | error failure =>
      simp only [ran]
      rfl
    | ok result =>
      simp only [ran]
      rfl

end Arrays

theorem evaluate_channelsFirst [Host] {attrs : ConvolutionAttributes}
    (strides dilations below above : List Int)
    (integral : attrs.channelsFirst = .ofInts strides dilations below above "NCHW")
    {data filters : Tensor} (integer : data.etype.isInteger = true)
    (integer' : filters.etype.isInteger = true) {types : List TensorType}
    (accepted : infer attrs.channelsFirst [data.type, filters.type] = .ok types) :
    ∃ (height width : WindowAxis) (e : Extents) (result : Tensor),
      attrs.channelsFirst = attributes true height width ∧ data.shape = e.data true ∧
      filters.shape = e.kernel true ∧ e.Fits height width ∧
      evaluate attrs.channelsFirst [data, filters] = (do
        allocate e height width data.etype
        return [result]) ∧
      (allocate e height width data.etype = .ok () ↔ IsHeld e height width data.etype) ∧
      types = [result.type] := by
  rw [integral] at accepted
  obtain ⟨channelsFirst, height, width, e, merged, same, shape, shape', fits, merges, rfl⟩ :=
    infer_ofLengths strides dilations below above "NCHW" data.shape filters.shape data.etype
      filters.etype types accepted
  obtain ⟨rfl, elements⟩ := ElementType.merge_eq_some _ _ merged
    (ElementType.ne_dynamic integer) (ElementType.ne_dynamic integer') merges
  -- The attributes name one layout, so the axes are those of it.
  have same := integral.trans same
  obtain rfl : channelsFirst = true := by
    have format := congrArg ConvolutionAttributes.isChannelsFirst same
    rwa [isChannelsFirst_attributes, eq_comm] at format
  refine ⟨height, width, e, convolved true e height width data filters, same, shape, shape', fits,
    ?_, allocate_eq_ok e height width, rfl⟩
  rw [same]
  exact evaluate_attributes e height width data filters true shape shape' elements.symm fits

/-- With channels last, a convolution accepts transposed types exactly when it accepts the types
with channels first, and then it has the transposed type. On arrays of accepted types it gives the
transposed array, and it fails exactly when the other layout does; with integer attributes that
happens only if the arrays made on the way cannot be held. -/
theorem channelsLast_transposes [Host] (attrs : ConvolutionAttributes) :
    (∀ data filters : TensorType, data.shape.rank.compatible (.static 4) = true →
      filters.shape.rank.compatible (.static 4) = true → ∀ types,
        infer attrs.channelsLast [data.permute dataAxes, filters.permute filterAxes] = .ok types ↔
          ∃ types', infer attrs.channelsFirst [data, filters] = .ok types' ∧
            types = types'.map (TensorType.permute dataAxes)) ∧
    ∀ data filters : Tensor, data.IsArray → filters.IsArray → ∀ types,
      infer attrs.channelsFirst [data.type, filters.type] = .ok types →
        (data.transpose dataAxes).type = data.type.permute dataAxes ∧
        (filters.transpose filterAxes).type = filters.type.permute filterAxes ∧
        evaluate attrs.channelsLast [data.transpose dataAxes, filters.transpose filterAxes] =
          (evaluate attrs.channelsFirst [data, filters]).map
            (List.map fun result => result.transpose dataAxes) ∧
        ∀ strides dilations below above : List Int,
          attrs.channelsFirst = .ofInts strides dilations below above "NCHW" →
          data.etype.isInteger = true → filters.etype.isInteger = true →
            ∃ (height width : WindowAxis) (e : Extents) (result : Tensor),
              attrs.channelsFirst = attributes true height width ∧ data.shape = e.data true ∧
              filters.shape = e.kernel true ∧ e.Fits height width ∧
              evaluate attrs.channelsFirst [data, filters] = (do
                allocate e height width data.etype
                return [result]) ∧
              (allocate e height width data.etype = .ok () ↔
                IsHeld e height width data.etype) ∧
              types = [result.type] := by
  refine ⟨fun data filters ranked ranked' types => infer_channelsLast attrs ranked ranked' types,
    fun data filters array array' types accepted => ?_⟩
  obtain ⟨fourAxes, fourAxes'⟩ := fourAxes_of_infer accepted
  refine ⟨type_transposeData fourAxes, type_transposeFilters fourAxes',
    evaluate_channelsLast attrs fourAxes fourAxes' array.writable array'.writable, ?_⟩
  intro strides dilations below above integral integer integer'
  exact evaluate_channelsFirst strides dilations below above integral integer integer' accepted

/-- Two channels, rows of three columns with two columns of padding behind them, and two filters
whose columns lie two apart. At the second place a filter still meets the last column, and sums
that exceed a byte are wrapped. The types are known in part. -/
theorem channelsLast_transposes_dilated :
    let attrs := ConvolutionAttributes.ofInts [1, 2] [1, 2] [0, 0] [0, 2] "NCHW"
    let data : Tensor := .ofElements .int8 (.ofFn [1, 2, 1, 3] fun index => (20 * index.sum : Nat))
    let filters : Tensor :=
      .ofElements .int8 (.ofFn [2, 2, 1, 2] fun index => (1 + index.sum : Nat))
    infer attrs.channelsLast
        [TensorType.permute dataAxes
            ⟨.ranked [.static 1, .static 2, .dynamic, .static 3], .dynamic⟩,
          TensorType.permute filterAxes
            ⟨.ranked [.static 2, .dynamic, .static 1, .static 2], .int8⟩] =
      .ok [⟨.ranked [.static 1, .dynamic, .static 2, .static 2], .int8⟩] ∧
    let _host : Host := .wide
    ∃ result, evaluate attrs.channelsFirst [data, filters] = .ok [result] ∧
      evaluate attrs.channelsLast [data.transpose dataAxes, filters.transpose filterAxes] =
        .ok [result.transpose dataAxes] ∧
      result.elements.data = #[44, -96, -92, 4] ∧
      (result.transpose dataAxes).elements.data = #[44, -92, -96, 4] := by
  intro attrs data filters
  obtain ⟨ofTypes, ofArrays⟩ := @channelsLast_transposes .wide attrs
  refine ⟨(ofTypes _ _ rfl rfl _).mpr
    ⟨[⟨.ranked [.static 1, .static 2, .dynamic, .static 2], .int8⟩], by rfl, rfl⟩, ?_⟩
  intro _host
  obtain ⟨-, -, transposed, held⟩ := ofArrays data filters ⟨rfl, by decide⟩ ⟨rfl, by decide⟩
    [⟨.ofLengths [1, 2, 1, 2], .int8⟩] (by rfl)
  obtain ⟨height, width, e, result, -, -, -, -, ran, -, -⟩ := held [1, 2] [1, 2] [0, 0] [0, 2] rfl
    rfl rfl
  have computed : ((evaluate attrs.channelsFirst [data, filters]).toOption.map
      fun results => results.map fun result =>
        (result.elements.data, (result.transpose dataAxes).elements.data)) =
      some [(#[44, -96, -92, 4], #[44, -92, -96, 4])] := by
    decide +kernel
  have evaluated : evaluate attrs.channelsFirst [data, filters] = .ok [result] := by
    rw [ran] at computed ⊢
    cases allocated : allocate e height width data.etype with
    | error failure =>
      rw [allocated] at computed
      cases computed
    | ok _ => rfl
  rw [evaluated] at computed transposed
  obtain ⟨elements, elements'⟩ := Prod.mk.inj (List.cons.inj (Option.some.inj computed)).1
  exact ⟨result, evaluated, transposed, elements, elements'⟩

end Convolution

end OpGraph
