import Mathlib.Data.Set.Card
import OpGraph.Proofs.Operator.Convolution

/-!
# What a convolution is

The array that an accepted convolution of integers evaluates to is the textbook convolution: every
element is the sum over the channels and the positions of the filters of products with the zero
padded data, wrapped to the element type, and its spatial extents count the places at which the
dilated window fits (`evaluate_convolves`). Nothing in the statement depends on the order in which
evaluation adds up its patches, nor on the layout it transposes to.
-/
namespace OpGraph

namespace WindowAxis

variable (w : WindowAxis) {extent kernel : Nat} (fits : w.Fits extent kernel)

include fits

/-- A place is one of those of the window just when the last position of the filters, spread by the
dilation, still lies within the padded axis. -/
theorem lt_places_iff (place : Nat) :
    place < w.places extent kernel ↔
      place * w.stride + (kernel - 1) * w.dilation + 1 ≤ w.below + extent + w.above := by
  obtain ⟨-, below⟩ := fits
  have across : place ≤ (w.padded extent - w.window kernel) / w.stride ↔
      place * w.stride ≤ w.padded extent - w.window kernel :=
    Nat.le_div_iff_mul_le w.moving
  rw [places, Nat.lt_succ_iff, across]
  unfold window padded at *
  omega

theorem ncard_places :
    {place | place * w.stride + (kernel - 1) * w.dilation + 1 ≤ w.below + extent + w.above}.ncard =
      w.places extent kernel := by
  have below : {place | place * w.stride + (kernel - 1) * w.dilation + 1 ≤
      w.below + extent + w.above} = Finset.range (w.places extent kernel) := by
    ext place
    simp only [Set.mem_ofPred_eq, Finset.coe_range, Set.mem_Iio, w.lt_places_iff fits place]
  rw [below, Set.ncard_coe_finset, Finset.card_range]

end WindowAxis

theorem ElementType.ne_dynamic {etype : ElementType} (integer : etype.isInteger = true) :
    etype ≠ .dynamic := by
  rintro rfl
  cases integer

namespace Convolution

variable (channelsFirst : Bool) (e : Extents) (height width : WindowAxis) (data filters : Tensor)

/-- The channels may be summed over first or last. -/
theorem sumAt_eq_total (n f y x : Nat) :
    sumAt channelsFirst e height width data filters n f y x =
      Tensor.total e.channels fun c => Tensor.total e.kernelHeight fun a =>
        Tensor.total e.kernelWidth fun b =>
          paddedAt channelsFirst e height width data n c (height.meets y a) (width.meets x b) *
            filters.elements.get (filterOrder channelsFirst f c a b) :=
  (Tensor.total_rotate _ _ _ _).symm

theorem get_sums {n f y x : Nat} (inBatch : n < e.batch) (inFilters : f < e.filters)
    (inRows : y < height.places e.height e.kernelHeight)
    (inColumns : x < width.places e.width e.kernelWidth) :
    (sums channelsFirst e height width data filters).elements.get
        (dataOrder channelsFirst n f y x) =
      data.etype.reduce (sumAt channelsFirst e height width data filters n f y x) := by
  have inside : NDArray.InBounds (e.output channelsFirst height width)
      (dataOrder channelsFirst n f y x) := by
    cases channelsFirst with
    | true => exact ⟨inBatch, inFilters, inRows, inColumns, trivial⟩
    | false => exact ⟨inBatch, inRows, inColumns, inFilters, trivial⟩
  refine (NDArray.get_ofFn _ _ _ inside).trans ?_
  cases channelsFirst <;> rfl

theorem isIntegral_sumAt (array : data.IsArray) (array' : filters.IsArray)
    (integer : data.etype.isInteger = true) (integer' : filters.etype.isInteger = true)
    (n f y x : Nat) : IsIntegral (sumAt channelsFirst e height width data filters n f y x) :=
  IsIntegral.total _ _ fun row _ => IsIntegral.total _ _ fun column _ =>
    isIntegral_termAt channelsFirst e height width data filters array array' integer integer'
      n f y x (row, column)

/-- For integer attributes and integer arrays of accepted types, evaluation gives one array unless
it cannot hold the arrays that it makes on the way, and the array has the inferred type. Its
elements are those of the convolution of the data, padded by zeros, with the filters, wrapped to
the element type, and its spatial extents are the numbers of places at which the window fits: every
place below an extent does, and no further one. -/
theorem evaluate_convolves [Host] (strides dilations below above : List Int) (format : String)
    (data filters : Tensor) (array : data.IsArray) (array' : filters.IsArray)
    (integer : data.etype.isInteger = true) (integer' : filters.etype.isInteger = true)
    (types : List TensorType)
    (accepted : infer (.ofInts strides dilations below above format) [data.type, filters.type] =
      .ok types) :
    ∃ (channelsFirst : Bool) (height width : WindowAxis) (e : Extents) (result : Tensor),
      ConvolutionAttributes.ofInts strides dilations below above format =
        attributes channelsFirst height width ∧
      data.shape = e.data channelsFirst ∧ filters.shape = e.kernel channelsFirst ∧
      evaluate (.ofInts strides dilations below above format) [data, filters] = (do
        allocate e height width data.etype
        return [result]) ∧
      (allocate e height width data.etype = .ok () ↔ IsHeld e height width data.etype) ∧
      types = [result.type] ∧ result.etype = data.etype ∧
      result.shape = e.output channelsFirst height width ∧
      (∀ n < e.batch, ∀ f < e.filters, ∀ i < height.places e.height e.kernelHeight,
        ∀ j < width.places e.width e.kernelWidth, ∃ sum : Int,
          (sum : Rat) = Tensor.total e.channels (fun c => Tensor.total e.kernelHeight fun a =>
            Tensor.total e.kernelWidth fun b =>
              paddedAt channelsFirst e height width data n c
                  (i * height.stride + a * height.dilation)
                  (j * width.stride + b * width.dilation) *
                filters.elements.get (filterOrder channelsFirst f c a b)) ∧
          result.elements.get (dataOrder channelsFirst n f i j) = data.etype.wrapInt sum) ∧
      ∀ axis ∈ [(height, e.height, e.kernelHeight), (width, e.width, e.kernelWidth)],
        let (w, extent, kernel) := axis
        let fitting := {i | i * w.stride + (kernel - 1) * w.dilation + 1 ≤
          w.below + extent + w.above}
        0 < kernel ∧ fitting.ncard = w.places extent kernel ∧
          ∀ i, i ∈ fitting ↔ i < w.places extent kernel := by
  obtain ⟨channelsFirst, height, width, e, merged, same, shape, shape', fits, merges, rfl⟩ :=
    infer_ofLengths strides dilations below above format data.shape filters.shape data.etype
      filters.etype types accepted
  obtain ⟨rfl, elements⟩ := ElementType.merge_eq_some _ _ merged
    (ElementType.ne_dynamic integer) (ElementType.ne_dynamic integer') merges
  refine ⟨channelsFirst, height, width, e, sums channelsFirst e height width data filters, same,
    shape, shape', ?_, allocate_eq_ok e height width, rfl, rfl, rfl, ?_, ?_⟩
  · rw [same, evaluate_attributes e height width data filters channelsFirst shape shape'
      elements.symm fits, convolved_eq_sums channelsFirst e height width data filters array array'
      integer integer']
  · intro n inBatch f inFilters i inRows j inColumns
    obtain ⟨sum, integral⟩ := isIntegral_sumAt channelsFirst e height width data filters array
      array' integer integer' n f i j
    refine ⟨sum, ?_, ?_⟩
    · rw [← integral]
      exact sumAt_eq_total channelsFirst e height width data filters n f i j
    · rw [get_sums channelsFirst e height width data filters inBatch inFilters inRows inColumns,
        integral, ElementType.reduce_intCast integer]
  · intro axis member
    have either : axis = (height, e.height, e.kernelHeight) ∨
        axis = (width, e.width, e.kernelWidth) := by
      simpa using member
    rcases either with rfl | rfl
    · exact ⟨fits.height.1, height.ncard_places fits.height,
        fun i => (height.lt_places_iff fits.height i).symm⟩
    · exact ⟨fits.width.1, width.ncard_places fits.width,
        fun i => (width.lt_places_iff fits.width i).symm⟩

/-- Filters of two rows that lie two rows apart, one row of padding and channels last: the window
has two places, and at the second one the sum is wrapped. -/
theorem evaluate_convolves_dilated :
    let data : Tensor := .ofElements .int8 (.ofFn [1, 3, 1, 1] fun index => (40 * index.sum : Nat))
    let filters : Tensor := .ofElements .int8 (.ofFn [2, 1, 1, 1] fun _ => 3)
    let attrs := ConvolutionAttributes.ofInts [1, 1] [2, 1] [1, 0] [0, 0] "NHWC"
    ∃ result, @evaluate .wide attrs [data, filters] = .ok [result] ∧
      result.type = ⟨.ofLengths [1, 2, 1, 1], .int8⟩ ∧ result.elements.data = #[120, -16] := by
  intro data filters attrs
  obtain ⟨_, height, width, e, result, -, -, -, evaluated, -, types, -⟩ :=
    @evaluate_convolves .wide [1, 1] [2, 1] [1, 0] [0, 0] "NHWC" data filters ⟨rfl, by decide⟩
      ⟨rfl, by decide⟩ rfl rfl [⟨.ofLengths [1, 2, 1, 1], .int8⟩] (by rfl)
  have computed : ((@evaluate .wide attrs [data, filters]).toOption.map
      fun results => results.map fun result => result.elements.data) = some [#[120, -16]] := by
    decide +kernel
  have ran : @evaluate .wide attrs [data, filters] = .ok [result] := by
    rw [evaluated] at computed ⊢
    cases held : @allocate e height width .wide data.etype with
    | error failure =>
      rw [held] at computed
      cases computed
    | ok _ => rfl
  rw [ran] at computed
  have data : [result.elements.data] = [#[120, -16]] := Option.some.inj computed
  exact ⟨result, ran, (List.cons.inj types).1.symm, (List.cons.inj data).1⟩

end Convolution

end OpGraph
