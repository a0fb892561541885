import OpGraph.Proofs.Operator.Overlong
import OpGraph.Proofs.Operator.Refinement

/-!
# Instances of partial types

Types that are known in part are accepted because they may turn out to be constant types that are
accepted: the checks, which compare what is known of two operands at a time, leave a choice of the
rest that passes all of them at once. Main statement: this is so for every operator with integer
attributes, except that the window of a convolution and its padded data must not have too many
digits to be written, however small they are chosen (`exists_instance_iff`).
-/
namespace OpGraph

namespace Operator

/-- The two spatial axes of a convolution, each with the dimensions of the data and the filters
along it. -/
inductive SlidesAlong : Operator → List TensorType → WindowAxis → Dimension → Dimension → Prop
  | height (channelsFirst : Bool) (height width : WindowAxis) (data filters : TensorType) :
    SlidesAlong (.convolution (Convolution.attributes channelsFirst height width)) [data, filters]
      height (Convolution.dataDims channelsFirst data.shape).2.2.1
      (Convolution.filterDims channelsFirst filters.shape).2.2.1
  | width (channelsFirst : Bool) (height width : WindowAxis) (data filters : TensorType) :
    SlidesAlong (.convolution (Convolution.attributes channelsFirst height width)) [data, filters]
      width (Convolution.dataDims channelsFirst data.shape).2.2.2
      (Convolution.filterDims channelsFirst filters.shape).2.2.2

/-- Constant types that refine the inputs and are accepted. -/
structure IsInstance (operator : Operator) (inputs specific : List TensorType)
    (type : TensorType) : Prop where
  refines : List.Forall₂ TensorType.Refines specific inputs
  constant : ∀ input ∈ specific, input.isConstant = true
  accepted : operator.infer specific = .ok [type]
  isConstant : type.isConstant = true

end Operator

theorem TensorType.Refines.ofLengths {t : TensorType} {lengths : List Nat} {known : ElementType}
    (shape : t.shape.relaxes (.ofLengths lengths) = true) (etype : t.etype.Relaxes known) :
    Refines ⟨.ofLengths lengths, known⟩ t :=
  .of_relaxes shape etype

theorem Shape.isShort_pair {first second : Nat} (short : (Dimension.static first).isShort = true)
    (short' : (Dimension.static second).isShort = true) :
    (ofLengths [first, second]).isShort = true := by
  simp [ofLengths, isShort, short, short']

theorem TensorType.isConstant_ofLengths (lengths : List Nat) {etype : ElementType}
    (known : etype ≠ .dynamic) : isConstant ⟨.ofLengths lengths, etype⟩ = true :=
  (isConstant_iff _).mpr ⟨lengths, etype, known, rfl⟩

open Operator (IsInstance SlidesAlong)

/-! ### Matrix products -/

namespace Dot

theorem relaxes_matrix {shape : Shape} (ranked : shape.rank.compatible (.static 2) = true)
    {rows columns : Nat} (first : (dims shape).1.relaxes (.static rows) = true)
    (second : (dims shape).2.relaxes (.static columns) = true) :
    shape.relaxes (.ofLengths [rows, columns]) = true := by
  rcases Shape.ranked_of_compatible ranked with rfl | ⟨extents, rfl, rank⟩
  · rfl
  · obtain ⟨a, b, rfl⟩ := List.length_eq_two.mp rank
    exact (Shape.pairwise_iff _ _ _).mpr (.cons first (.cons second .nil))

theorem exists_instance {inputs types : List TensorType} (accepted : infer inputs = .ok types) :
    ∃ specific type, IsInstance .dot inputs specific type := by
  unfold infer at accepted
  split at accepted
  next a b =>
    simp only [Outcome.bind_eq_ok, Outcome.exists_unit, checkRank_eq_ok, Outcome.require_eq_ok,
      Outcome.requireElements_eq_ok] at accepted
    obtain ⟨⟨short, ranked⟩, ⟨short', ranked'⟩, merged, elements, ⟨-, agree⟩, -⟩ := accepted
    obtain ⟨rows, inners⟩ := isShort_dims short
    obtain ⟨inners', columns⟩ := isShort_dims short'
    obtain ⟨known, isKnown, etype, etype'⟩ := ElementType.exists_common elements
    obtain ⟨inner, left, right, few⟩ := Dimension.exists_common agree inners inners'
    have first := relaxes_matrix ranked ((dims a.shape).1.relaxes_lengthOr 1) left
    have second := relaxes_matrix ranked' right ((dims b.shape).2.relaxes_lengthOr 1)
    have rows := Dimension.isShort_lengthOr rows Dimension.isShort_one
    have columns := Dimension.isShort_lengthOr columns Dimension.isShort_one
    refine ⟨_, _, .cons (.ofLengths first etype)
      (.cons (.ofLengths second etype') .nil), ?_,
      infer_matrices _ inner _ (Shape.isShort_pair rows few) (Shape.isShort_pair few columns)
        known.merge_self, TensorType.isConstant_ofLengths _ isKnown⟩
    simp [TensorType.isConstant_ofLengths _ isKnown]
  · cases accepted

end Dot

/-! ### Slices -/

namespace StridedRange

/-- A shape whose known dimensions reach the upper bounds may have extents that do. -/
theorem exists_extents {kind : String} {ranges : List StridedRange} {shape : Shape}
    (short : (bounds ranges).isShort = true) (shapeShort : shape.isShort = true)
    (fitsRank : (bounds ranges).fitsRank shape.rank = true)
    (inRange : (bounds ranges).checkRange kind shape = .ok ()) :
    ∃ extents, List.Forall₂ Fits ranges extents ∧ shape.relaxes (.ofLengths extents) = true ∧
      (Shape.ofLengths extents).isShort = true := by
  have uppers : ∀ r ∈ ranges, (Dimension.static r.upper).isShort = true := by
    simp only [SliceBounds.isShort, bounds, SliceBounds.ofInts, Bool.and_eq_true, List.all_map,
      List.all_eq_true, Function.comp_apply] at short
    exact short.1.2
  cases shape with
  | dynamicRank =>
    refine ⟨ranges.map upper, ?_, rfl, ?_⟩
    · exact List.forall₂_map_right_iff.mpr (List.forall₂_same.mpr fun r _ => Nat.le_refl r.upper)
    · simpa [Shape.ofLengths, Shape.isShort] using uppers
  | ranked dims =>
    have ranks : ranges.length = dims.length := by
      rw [Shape.rank, SliceBounds.fitsRank, rank_bounds, beq_iff_eq] at fitsRank
      exact fitsRank.symm
    have reach := (checkRange_ranked kind short shapeShort ranks).mp inRange
    simp only [Shape.isShort, List.all_eq_true] at shapeShort
    simp only [Shape.ofLengths, Shape.relaxes, Shape.pairwise_iff, Shape.isShort, List.all_map]
    clear short fitsRank inRange ranks
    induction reach with
    | nil => exact ⟨[], .nil, .nil, rfl⟩
    | @cons r dim _ _ first _ ih =>
      obtain ⟨upper, uppers⟩ := List.forall_mem_cons.mp uppers
      obtain ⟨known, shapeShort⟩ := List.forall_mem_cons.mp shapeShort
      obtain ⟨extents, fits, relaxes, few⟩ := ih uppers shapeShort
      refine ⟨dim.lengthOr r.upper :: extents, .cons first fits,
        .cons (dim.relaxes_lengthOr r.upper) relaxes, ?_⟩
      rw [List.all_cons, few, Bool.and_true]
      exact Dimension.isShort_lengthOr known upper

end StridedRange

open StridedRange (Fits bounds)

theorem Slice.exists_instance (lower upper strides : List Int) {inputs types : List TensorType}
    (accepted : infer (.ofInts lower upper strides) inputs = .ok types) :
    ∃ specific type, IsInstance (.slice (.ofInts lower upper strides)) inputs specific type := by
  unfold infer at accepted
  split at accepted
  next input =>
    simp only [Outcome.bind_eq_ok, Outcome.exists_unit, Outcome.require_eq_ok,
      StridedRange.isShort_sliceRank, Bool.and_eq_true] at accepted
    obtain ⟨checked, ⟨⟨short, shapeShort⟩, fitsRank⟩, inRange, -⟩ := accepted
    obtain ⟨-, ranges, same⟩ := (StridedRange.check_ofInts kind lower upper strides).mp checked
    rw [same] at short fitsRank inRange ⊢
    obtain ⟨extents, fits, shape, few⟩ :=
      StridedRange.exists_extents short shapeShort fitsRank inRange
    obtain ⟨known, isKnown, etype⟩ := input.etype.exists_known
    refine ⟨_, _, .cons (.ofLengths shape etype) .nil, ?_,
      infer_bounds ranges extents known short few fits, TensorType.isConstant_ofLengths _ isKnown⟩
    simp [TensorType.isConstant_ofLengths _ isKnown]
  · cases accepted

theorem ReplaceSlice.exists_instance (lower upper strides : List Int)
    {inputs types : List TensorType}
    (accepted : infer (.ofInts lower upper strides) inputs = .ok types) :
    ∃ specific type,
      IsInstance (.replaceSlice (.ofInts lower upper strides)) inputs specific type := by
  unfold infer at accepted
  split at accepted
  next target replacement =>
    simp only [Outcome.bind_eq_ok, Outcome.exists_unit, Outcome.require_eq_ok,
      Outcome.requireElements_eq_ok] at accepted
    obtain ⟨rank, ranked, merged, elements, checked, ⟨-, fitsRank⟩, inRange, slice, sliced,
      ⟨-, agree⟩, -⟩ := accepted
    obtain ⟨short, ranges, same⟩ := (StridedRange.check_ofInts kind lower upper strides).mp checked
    rw [same] at short fitsRank inRange sliced ⊢
    rw [StridedRange.shape_bounds, Except.ok.injEq] at sliced
    subst sliced
    have fitsRank := (bounds ranges).fitsRank_relaxes (relaxes_of_requireRank ranked) fitsRank
    obtain ⟨extents, fits, shape, few⟩ := StridedRange.exists_extents short
      (requireRank_eq_ok.mp ranked).1.1 fitsRank inRange
    obtain ⟨known, isKnown, etype, etype'⟩ := ElementType.exists_common elements
    refine ⟨_, _, .cons (.ofLengths shape etype)
      (.cons (.ofLengths (Shape.relaxes_of_compatible agree) etype') .nil), ?_,
      infer_bounds ranges extents known known known short few fits known.merge_self,
      TensorType.isConstant_ofLengths _ isKnown⟩
    simp [TensorType.isConstant_ofLengths _ isKnown]
  · cases accepted

/-! ### Convolutions -/

theorem Dimension.Overlong.mono {length length' : Nat} (below : length ≤ length')
    (overlong : Overlong length) : Overlong length' :=
  Nat.le_trans overlong below

namespace WindowAxis

variable (w : WindowAxis)

/-- Neither the padded extent nor the window has too many digits to be written, once what is
unknown is chosen as small as possible. -/
structure IsWritable (size kernel : Dimension) : Prop where
  padded : ¬Dimension.Overlong (w.padded (size.lengthOr 0))
  window : ¬Dimension.Overlong (w.window (kernel.lengthOr 1))

theorem padded_mono {extent extent' : Nat} (below : extent ≤ extent') :
    w.padded extent ≤ w.padded extent' := by
  unfold padded
  omega

theorem window_mono {length length' : Nat} (below : length ≤ length') :
    w.window length ≤ w.window length' := by
  have spread : (length - 1) * w.dilation ≤ (length' - 1) * w.dilation :=
    Nat.mul_le_mul_right _ (by omega)
  unfold window
  omega

/-- What can be written of an instance can be written of the least one. -/
theorem isWritable_of_fits {size kernel : Dimension} {extent length : Nat}
    (relaxes : size.relaxes (.static extent) = true)
    (relaxes' : kernel.relaxes (.static length) = true) (fits : w.Fits extent length)
    (few : ¬Dimension.Overlong (w.padded extent)) : w.IsWritable size kernel := by
  obtain ⟨nonempty, within⟩ := fits
  constructor
  · have least : size.lengthOr 0 ≤ extent := by
      rcases (Dimension.relaxes_iff _ _).mp relaxes with rfl | rfl
      · exact Nat.zero_le extent
      · exact Nat.le_refl extent
    exact mt (.mono (w.padded_mono least)) few
  · have least : kernel.lengthOr 1 ≤ length := by
      rcases (Dimension.relaxes_iff _ _).mp relaxes' with rfl | rfl
      · exact nonempty
      · exact Nat.le_refl length
    exact mt (.mono (Nat.le_trans (w.window_mono least) within)) few

/-- The extents of a window that fits are no longer than the padded extent that it fits into. -/
theorem isShort_of_fits {extent length : Nat} (fits : w.Fits extent length)
    (few : ¬Dimension.Overlong (w.padded extent)) :
    (Dimension.static extent).isShort = true ∧ (Dimension.static length).isShort = true := by
  obtain ⟨nonempty, within⟩ := fits
  have extents : extent ≤ w.padded extent := by
    unfold padded
    omega
  have lengths : length ≤ w.window length := by
    have spread : length - 1 ≤ (length - 1) * w.dilation := Nat.le_mul_of_pos_right _ w.spread
    unfold window
    omega
  exact ⟨Dimension.isShort_static.mpr (mt (.mono extents) few),
    Dimension.isShort_static.mpr (mt (.mono (Nat.le_trans lengths within)) few)⟩

end WindowAxis

namespace Convolution

section Order

variable {channelsFirst : Bool} {n c h w : Nat} (first : (Dimension.static n).isShort = true)
  (channels : (Dimension.static c).isShort = true) (high : (Dimension.static h).isShort = true)
  (wide : (Dimension.static w).isShort = true)

include first channels high wide

theorem isShort_dataOrder : (Shape.ofLengths (dataOrder channelsFirst n c h w)).isShort = true := by
  cases channelsFirst <;>
    simp [dataOrder, Shape.ofLengths, Shape.isShort, first, channels, high, wide]

theorem isShort_filterOrder :
    (Shape.ofLengths (filterOrder channelsFirst n c h w)).isShort = true := by
  cases channelsFirst <;>
    simp [filterOrder, Shape.ofLengths, Shape.isShort, first, channels, high, wide]

end Order

theorem spatialDim_static_iff {index : Nat} {w : WindowAxis} {extent length : Nat}
    {data filters : Shape} (short : data.isShort = true) (short' : filters.isShort = true)
    {dim : Dimension} :
    spatialDim index w.axis (.static extent) (.static length) data filters = .ok dim ↔
      w.Fits extent length ∧ ¬Dimension.Overlong (w.padded extent) ∧
        dim = .static (w.places extent length) := by
  have window (within : w.window length ≤ w.padded extent)
      (few : ¬Dimension.Overlong (w.padded extent)) :
      (Dimension.static (w.window length)).isShort = true :=
    Dimension.isShort_static.mpr (mt (.mono within) few)
  simp only [spatialDim_axis, Outcome.bind_eq_ok, Outcome.exists_unit, Outcome.require_eq_ok,
    decide_eq_true_iff, Outcome.pure_eq_ok, Violation.isShort, Violation.phrases, List.all_cons,
    List.all_nil, Phrase.isShort, short, short', Bool.true_and, Bool.and_true, true_and,
    Bool.and_eq_true, Dimension.isShort_static, WindowAxis.Fits]
  constructor
  · rintro ⟨nonempty, ⟨⟨-, few⟩, within⟩, rfl⟩
    exact ⟨⟨nonempty, within⟩, few, rfl⟩
  -- The window is written as well, but it is no longer than what it fits into.
  · rintro ⟨⟨nonempty, within⟩, few, rfl⟩
    exact ⟨nonempty, ⟨⟨mt (.mono within) few, few⟩, within⟩, rfl⟩

/-- An accepted axis has an instance in which the window fits. -/
theorem exists_fits {index : Nat} {w : WindowAxis} {size kernel dim : Dimension}
    {data filters : Shape} (short : data.isShort = true) (short' : filters.isShort = true)
    (accepted : spatialDim index w.axis size kernel data filters = .ok dim)
    (roomy : ∀ extent, size = .static extent → 0 < w.padded extent)
    (writable : w.IsWritable size kernel) :
    ∃ extent length, size.relaxes (.static extent) = true ∧
      kernel.relaxes (.static length) = true ∧ w.Fits extent length ∧
      ¬Dimension.Overlong (w.padded extent) := by
  have nonempty : 0 < kernel.lengthOr 1 := by
    cases kernel with
    | dynamic => exact Nat.one_pos
    | static length =>
      simp only [spatialDim_axis, Outcome.bind_eq_ok, Outcome.exists_unit, Outcome.require_eq_ok,
        decide_eq_true_iff] at accepted
      exact accepted.1.2
  obtain ⟨few, few'⟩ := writable
  cases size with
  | dynamic =>
    -- The extent leaves just as much room as the window needs beyond the paddings.
    let extent := w.window (kernel.lengthOr 1) - w.padded 0
    have room : w.padded extent = max (w.padded 0) (w.window (kernel.lengthOr 1)) := by
      simp only [WindowAxis.padded, extent]
      omega
    refine ⟨extent, kernel.lengthOr 1, rfl, kernel.relaxes_lengthOr 1, ⟨nonempty, ?_⟩, ?_⟩
    · rw [room]
      exact Nat.le_max_right _ _
    · rw [room]
      rcases Nat.le_total (w.padded 0) (w.window (kernel.lengthOr 1)) with below | below
      · rwa [Nat.max_eq_right below]
      · rwa [Nat.max_eq_left below]
  | static extent =>
    refine ⟨extent, kernel.lengthOr 1, Dimension.relaxes_refl _, kernel.relaxes_lengthOr 1,
      ⟨nonempty, ?_⟩, few⟩
    cases kernel with
    | dynamic =>
      have one : w.window 1 = 1 := by simp [WindowAxis.window]
      rw [Dimension.lengthOr_dynamic, one]
      exact roomy extent rfl
    | static length => exact ((spatialDim_static_iff short short').mp accepted).1.2

section Layouts

variable {channelsFirst : Bool} {shape : Shape}
  (ranked : shape.rank.compatible (.static 4) = true)

include ranked

theorem relaxes_data {n c h w : Nat}
    (batch : (dataDims channelsFirst shape).1.relaxes (.static n) = true)
    (channels : (dataDims channelsFirst shape).2.1.relaxes (.static c) = true)
    (high : (dataDims channelsFirst shape).2.2.1.relaxes (.static h) = true)
    (wide : (dataDims channelsFirst shape).2.2.2.relaxes (.static w) = true) :
    shape.relaxes (.ofLengths (dataOrder channelsFirst n c h w)) = true := by
  rcases Shape.four_of_compatible ranked with rfl | ⟨_, _, _, _, rfl⟩
  · rfl
  · cases channelsFirst
    · exact (Shape.pairwise_iff _ _ _).mpr
        (.cons batch (.cons high (.cons wide (.cons channels .nil))))
    · exact (Shape.pairwise_iff _ _ _).mpr
        (.cons batch (.cons channels (.cons high (.cons wide .nil))))

theorem relaxes_filters {f c h w : Nat}
    (filters : (filterDims channelsFirst shape).1.relaxes (.static f) = true)
    (channels : (filterDims channelsFirst shape).2.1.relaxes (.static c) = true)
    (high : (filterDims channelsFirst shape).2.2.1.relaxes (.static h) = true)
    (wide : (filterDims channelsFirst shape).2.2.2.relaxes (.static w) = true) :
    shape.relaxes (.ofLengths (filterOrder channelsFirst f c h w)) = true := by
  rcases Shape.four_of_compatible ranked with rfl | ⟨_, _, _, _, rfl⟩
  · rfl
  · cases channelsFirst
    · exact (Shape.pairwise_iff _ _ _).mpr
        (.cons high (.cons wide (.cons channels (.cons filters .nil))))
    · exact (Shape.pairwise_iff _ _ _).mpr
        (.cons filters (.cons channels (.cons high (.cons wide .nil))))

end Layouts

/-- The known shapes that are accepted: windows that fit, in extents that can be written. -/
theorem infer_extents_iff {channelsFirst : Bool} {height width : WindowAxis} {e : Extents}
    {etype etype' : ElementType} {types : List TensorType} :
    infer (attributes channelsFirst height width)
        [⟨.ofLengths (e.data channelsFirst), etype⟩, ⟨.ofLengths (e.kernel channelsFirst), etype'⟩] =
          .ok types ↔
      ((attributes channelsFirst height width).isShort = true ∧
        (Shape.ofLengths (e.data channelsFirst)).isShort = true ∧
        (Shape.ofLengths (e.kernel channelsFirst)).isShort = true) ∧
      ∃ merged, etype.merge etype' = some merged ∧ e.Fits height width ∧
        ¬Dimension.Overlong (height.padded e.height) ∧
        ¬Dimension.Overlong (width.padded e.width) ∧
        types = [⟨.ofLengths (e.output channelsFirst height width), merged⟩] := by
  rw [← and_iff_right_of_imp (b := infer _ _ = .ok types) isShort_of_infer]
  refine and_congr_right fun ⟨attrsShort, short, short'⟩ => ?_
  have ranked : requireRank (.ofLengths (e.data channelsFirst))
      (.dataRank (.ofLengths (e.data channelsFirst))) = .ok () := by
    rw [requireRank, Outcome.require_eq_ok]
    refine ⟨by simp [Violation.isShort, Violation.phrases, Phrase.isShort, short], ?_⟩
    cases channelsFirst <;> rfl
  have ranked' : requireRank (.ofLengths (e.kernel channelsFirst))
      (.filtersRank (.ofLengths (e.kernel channelsFirst))) = .ok () := by
    rw [requireRank, Outcome.require_eq_ok]
    refine ⟨by simp [Violation.isShort, Violation.phrases, Phrase.isShort, short'], ?_⟩
    cases channelsFirst <;> rfl
  have output (ho wo : Nat) : outputShape channelsFirst (.static e.batch) (.static e.filters)
      (.static ho) (.static wo) = .ofLengths (dataOrder channelsFirst e.batch e.filters ho wo) := by
    cases channelsFirst <;> rfl
  have agree : ((Dimension.static e.channels).merge (.static e.channels)).isSome = true :=
    (Dimension.merge_static _ _).mpr rfl
  have written : (Violation.channels (.static e.channels) (.static e.channels)
      (.ofLengths (e.data channelsFirst)) (.ofLengths (e.kernel channelsFirst))).isShort = true := by
    have channels := (isShort_dataDims channelsFirst short).2.1
    rw [dataDims_data] at channels
    simp [Violation.isShort, Violation.phrases, Phrase.isShort, short, short', channels]
  simp only [infer, ranked, ranked', checkAttributes_attributes attrsShort, Outcome.ok_bind,
    Outcome.bind_eq_ok, Outcome.exists_unit, Outcome.requireElements_eq_ok,
    isChannelsFirst_attributes, dataDims_data, filterDims_kernel,
    spatialDim_static_iff short short', Outcome.require_eq_ok, agree, written,
    Outcome.pure_eq_ok]
  constructor
  · rintro ⟨merged, merges, _, ⟨high, few, rfl⟩, _, ⟨wide, few', rfl⟩, -, rfl⟩
    exact ⟨merged, merges, ⟨high, wide⟩, few, few', by rw [output]; rfl⟩
  · rintro ⟨merged, merges, fits, few, few', rfl⟩
    exact ⟨merged, merges, _, ⟨fits.height, few, rfl⟩, _, ⟨fits.width, few', rfl⟩, ⟨trivial, trivial⟩,
      by rw [output]; rfl⟩

/-! ### Instances of convolutions -/

/-- Integer attributes that are accepted are those of two window axes. -/
theorem attributes_of_infer {strides dilations below above : List Int} {format : String}
    {inputs types : List TensorType}
    (accepted : infer (.ofInts strides dilations below above format) inputs = .ok types) :
    ∃ channelsFirst height width data filters,
      ConvolutionAttributes.ofInts strides dilations below above format =
        attributes channelsFirst height width ∧ inputs = [data, filters] := by
  unfold infer at accepted
  split at accepted
  next data filters =>
    simp only [Outcome.bind_eq_ok, Outcome.exists_unit] at accepted
    obtain ⟨-, -, _, -, axes, checked, -⟩ := accepted
    obtain ⟨-, channelsFirst, height, width, same, -⟩ :=
      (checkAttributes_ofInts strides dilations below above format axes).mp checked
    exact ⟨channelsFirst, height, width, data, filters, same, rfl⟩
  · cases accepted

section Instances

variable {channelsFirst : Bool} {height width : WindowAxis} {data filters : TensorType}

/-- An accepted convolution has an instance as soon as the least windows and extents are written. -/
theorem exists_instance {types : List TensorType}
    (accepted : infer (attributes channelsFirst height width) [data, filters] = .ok types)
    (roomy : ∀ w extent kernel,
      SlidesAlong (.convolution (attributes channelsFirst height width)) [data, filters] w
        (.static extent) kernel → 0 < w.padded extent)
    (writable : ∀ w size kernel,
      SlidesAlong (.convolution (attributes channelsFirst height width)) [data, filters] w size
        kernel → w.IsWritable size kernel) :
    ∃ specific type, IsInstance (.convolution (attributes channelsFirst height width))
      [data, filters] specific type := by
  have high := SlidesAlong.height channelsFirst height width data filters
  have wide := SlidesAlong.width channelsFirst height width data filters
  obtain ⟨attrsShort, short, short'⟩ := isShort_of_infer accepted
  obtain ⟨batchShort, channelsShort, -⟩ := isShort_dataDims channelsFirst short
  obtain ⟨filtersShort, channelsShort', -⟩ := isShort_filterDims channelsFirst short'
  simp only [infer, requireRank, checkAttributes_attributes attrsShort, Outcome.ok_bind,
    Outcome.bind_eq_ok, Outcome.exists_unit, Outcome.require_eq_ok, Outcome.requireElements_eq_ok,
    isChannelsFirst_attributes] at accepted
  obtain ⟨⟨-, ranked⟩, ⟨-, ranked'⟩, merged, elements, ho, acceptedHigh, wo, acceptedWide,
    ⟨-, agree⟩, -⟩ := accepted
  obtain ⟨known, isKnown, etype, etype'⟩ := ElementType.exists_common elements
  obtain ⟨c, channels, channels', fewChannels⟩ :=
    Dimension.exists_common agree channelsShort channelsShort'
  obtain ⟨h, kh, relaxesHigh, relaxesHigh', fitsHigh, fewHigh⟩ := exists_fits short short'
    acceptedHigh (fun extent static => roomy height extent _ (static ▸ high)) (writable _ _ _ high)
  obtain ⟨w, kw, relaxesWide, relaxesWide', fitsWide, fewWide⟩ := exists_fits short short'
    acceptedWide (fun extent static => roomy width extent _ (static ▸ wide)) (writable _ _ _ wide)
  -- The batch and the filters are free, so any length will do where they are unknown.
  let e : Extents :=
    ⟨(dataDims channelsFirst data.shape).1.lengthOr 1, c, h, w,
      (filterDims channelsFirst filters.shape).1.lengthOr 1, kh, kw⟩
  have shape : data.shape.relaxes (.ofLengths (e.data channelsFirst)) = true :=
    relaxes_data ranked (Dimension.relaxes_lengthOr _ 1) channels relaxesHigh relaxesWide
  have shape' : filters.shape.relaxes (.ofLengths (e.kernel channelsFirst)) = true :=
    relaxes_filters ranked' (Dimension.relaxes_lengthOr _ 1) channels' relaxesHigh' relaxesWide'
  obtain ⟨shortHigh, shortHigh'⟩ := height.isShort_of_fits fitsHigh fewHigh
  obtain ⟨shortWide, shortWide'⟩ := width.isShort_of_fits fitsWide fewWide
  have isShort_data : (Shape.ofLengths (e.data channelsFirst)).isShort = true :=
    isShort_dataOrder (Dimension.isShort_lengthOr batchShort Dimension.isShort_one) fewChannels
      shortHigh shortWide
  have isShort_kernel : (Shape.ofLengths (e.kernel channelsFirst)).isShort = true :=
    isShort_filterOrder (Dimension.isShort_lengthOr filtersShort Dimension.isShort_one) fewChannels
      shortHigh' shortWide'
  have accepted : infer (attributes channelsFirst height width)
      [⟨.ofLengths (e.data channelsFirst), known⟩, ⟨.ofLengths (e.kernel channelsFirst), known⟩] =
        .ok [⟨.ofLengths (e.output channelsFirst height width), known⟩] :=
    infer_extents_iff.mpr ⟨⟨attrsShort, isShort_data, isShort_kernel⟩, known, known.merge_self,
      ⟨fitsHigh, fitsWide⟩, fewHigh, fewWide, rfl⟩
  refine ⟨_, _, .cons (.ofLengths shape etype) (.cons (.ofLengths shape' etype') .nil), ?_,
    accepted, TensorType.isConstant_ofLengths _ isKnown⟩
  simp [TensorType.isConstant_ofLengths _ isKnown]

theorem eq_of_slidesAlong {w : WindowAxis} {size kernel : Dimension}
    (slides : SlidesAlong (.convolution (attributes channelsFirst height width)) [data, filters] w
      size kernel) :
    (w = height ∧ size = (dataDims channelsFirst data.shape).2.2.1 ∧
        kernel = (filterDims channelsFirst filters.shape).2.2.1) ∨
      (w = width ∧ size = (dataDims channelsFirst data.shape).2.2.2 ∧
        kernel = (filterDims channelsFirst filters.shape).2.2.2) := by
  -- The indices are no variables, so the cases are taken of any operator and inputs.
  generalize same :
    Operator.convolution (attributes channelsFirst height width) = operator at slides
  generalize same' : [data, filters] = inputs at slides
  cases slides with
  | height =>
    obtain ⟨rfl, rfl, rfl⟩ := attributes_injective (Operator.convolution.inj same)
    cases same'
    exact .inl ⟨rfl, rfl, rfl⟩
  | width =>
    obtain ⟨rfl, rfl, rfl⟩ := attributes_injective (Operator.convolution.inj same)
    cases same'
    exact .inr ⟨rfl, rfl, rfl⟩

/-- The numbers of an instance are written, so the least ones can be. -/
theorem isWritable_of_instance {specific : List TensorType} {type : TensorType}
    (isInstance : IsInstance (.convolution (attributes channelsFirst height width))
      [data, filters] specific type) {w : WindowAxis} {size kernel : Dimension}
    (slides : SlidesAlong (.convolution (attributes channelsFirst height width)) [data, filters] w
      size kernel) : w.IsWritable size kernel := by
  obtain ⟨refines, constant, accepted, -⟩ := isInstance
  cases refines with
  | @cons data' _ _ _ first rest =>
  cases rest with
  | @cons filters' _ _ _ second rest =>
  cases rest
  -- The operands of an instance are static, so it has extents, which the given ones refine to.
  obtain ⟨shape, etype, -, rfl⟩ := (TensorType.isConstant_iff _).mp (constant data' (by simp))
  obtain ⟨shape', etype', -, rfl⟩ := (TensorType.isConstant_iff _).mp (constant filters' (by simp))
  obtain ⟨_, _, _, e, _, same, rfl, rfl, -⟩ :=
    infer_ofLengths _ _ _ _ _ shape shape' etype etype' _ accepted
  obtain ⟨rfl, rfl, rfl⟩ := attributes_injective same
  obtain ⟨-, _, _, fits, few, few', -⟩ := infer_extents_iff.mp accepted
  obtain ⟨-, -, high, wide⟩ := dataDims_relaxes channelsFirst first.relaxes
  obtain ⟨-, -, high', wide'⟩ := filterDims_relaxes channelsFirst second.relaxes
  rw [dataDims_data] at high wide
  rw [filterDims_kernel] at high' wide'
  rcases eq_of_slidesAlong slides with ⟨rfl, rfl, rfl⟩ | ⟨rfl, rfl, rfl⟩
  · exact WindowAxis.isWritable_of_fits _ high high' fits.height few
  · exact WindowAxis.isWritable_of_fits _ wide wide' fits.width few'

end Instances

end Convolution

/-! ### All operators -/

namespace Operator

/-- Inputs that an operator with integer attributes accepts, where no spatial extent of a
convolution is known to be empty within its paddings, are refined by constant types that it accepts
as well, and what it infers of these is constant and refines what it infers of the inputs. The one
exception is a window or a padded extent that has too many digits to be written even if whatever is
unknown is chosen as small as possible: then no constant types at all are accepted. -/
theorem IsIntegral.exists_instance_iff {operator : Operator} (integral : operator.IsIntegral)
    {inputs types : List TensorType} (accepted : operator.infer inputs = .ok types)
    (roomy : ∀ w extent kernel, operator.SlidesAlong inputs w (.static extent) kernel →
      0 < w.padded extent) :
    (∃ specific type, operator.IsInstance inputs specific type ∧
      List.Forall₂ TensorType.Refines [type] types) ↔
    ∀ w size kernel, operator.SlidesAlong inputs w size kernel → w.IsWritable size kernel := by
  -- By monotonicity, what is inferred of an instance refines what was inferred before.
  have enough (found : ∃ specific type, operator.IsInstance inputs specific type) :
      ∃ specific type, operator.IsInstance inputs specific type ∧
        List.Forall₂ TensorType.Refines [type] types := by
    obtain ⟨specific, type, isInstance⟩ := found
    obtain ⟨types', inferred, refines⟩ :=
      operator.infer_of_refines specific inputs [type] isInstance.refines isInstance.accepted
    rw [accepted, Except.ok.injEq] at inferred
    exact ⟨specific, type, isInstance, inferred ▸ refines⟩
  cases integral with
  | convolution strides dilations below above format =>
    obtain ⟨channelsFirst, height, width, data, filters, same, rfl⟩ :=
      Convolution.attributes_of_infer accepted
    rw [same] at accepted roomy enough ⊢
    constructor
    · rintro ⟨specific, type, isInstance, -⟩ w size kernel slides
      exact Convolution.isWritable_of_instance isInstance slides
    · exact fun writable => enough (Convolution.exists_instance accepted roomy writable)
  | replaceSlice lower upper strides =>
    exact ⟨fun _ => nofun, fun _ => enough (ReplaceSlice.exists_instance _ _ _ accepted)⟩
  | slice lower upper strides =>
    exact ⟨fun _ => nofun, fun _ => enough (Slice.exists_instance _ _ _ accepted)⟩
  | dot => exact ⟨fun _ => nofun, fun _ => enough (Dot.exists_instance accepted)⟩

/-- Channels last, a height of two rows within one row of padding, an unknown width and unknown
channels of the data. The filters have three rows, so just one place is left for them, and an
unknown number of columns, which lie three apart. -/
theorem IsIntegral.exists_instance_iff_unknown :
    let height : WindowAxis := ⟨2, 1, 1, 0, by decide, by decide⟩
    let width : WindowAxis := ⟨1, 3, 0, 2, by decide, by decide⟩
    let operator : Operator := .convolution (Convolution.attributes false height width)
    let inputs : List TensorType :=
      [⟨.ranked [.dynamic, .static 2, .dynamic, .dynamic], .dynamic⟩,
        ⟨.ranked [.static 3, .dynamic, .static 2, .static 4], .int8⟩]
    ∃ specific type, operator.IsInstance inputs specific type ∧
      type.Refines ⟨.ranked [.dynamic, .static 1, .dynamic, .static 4], .int8⟩ := by
  intro height width operator inputs
  have roomy : ∀ w extent kernel, operator.SlidesAlong inputs w (.static extent) kernel →
      0 < w.padded extent := by
    intro w extent kernel slides
    rcases Convolution.eq_of_slidesAlong slides with ⟨rfl, size, -⟩ | ⟨-, size, -⟩
    · cases size
      decide
    · cases size
  have writable : ∀ w size kernel, operator.SlidesAlong inputs w size kernel →
      w.IsWritable size kernel := by
    intro w size kernel slides
    have few (length : Nat) (small : length < 10) : ¬Dimension.Overlong length :=
      Nat.not_le.mpr (Nat.lt_of_lt_of_le small (Nat.le_self_pow (by decide) 10))
    rcases Convolution.eq_of_slidesAlong slides with ⟨rfl, rfl, rfl⟩ | ⟨rfl, rfl, rfl⟩
    · exact ⟨few _ (by decide), few _ (by decide)⟩
    · exact ⟨few _ (by decide), few _ (by decide)⟩
  have accepted : operator.infer inputs =
      .ok [⟨.ranked [.dynamic, .static 1, .dynamic, .static 4], .int8⟩] :=
    Outcome.toOption_eq_some.mp (by decide +kernel)
  have integral : operator.IsIntegral := .convolution _ _ _ _ _
  obtain ⟨specific, type, isInstance, refines⟩ :=
    (integral.exists_instance_iff accepted roomy).mpr writable
  cases refines with
  | cons first _ => exact ⟨specific, type, isInstance, first⟩

end Operator

end OpGraph
