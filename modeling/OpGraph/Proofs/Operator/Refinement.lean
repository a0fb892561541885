import OpGraph.Proofs.Operator.Written
import OpGraph.Proofs.Types.Refinement

/-!
# Inference on refined types

Every check of an operator passes on general types if it passes on types that refine them, and
what is inferred from the specific types refines what is inferred from the general ones
(`infer_of_refines`). Attributes may be any values; what matters is that an unknown rank or
dimension only ever leaves a check out, and a number out of its message.
-/
namespace OpGraph

/-- Whenever the inference succeeds on specific types, it does on types that these refine, and
the results refine each other. -/
def RespectsRefinement (infer : List TensorType → Except Failure (List TensorType)) : Prop :=
  ∀ specific general types : List TensorType, List.Forall₂ TensorType.Refines specific general →
    infer specific = .ok types →
    ∃ types', infer general = .ok types' ∧ List.Forall₂ TensorType.Refines types types'

/-- An inference that accepts nothing but two operands respects refinement if it does so on two. -/
private theorem RespectsRefinement.of_pairs
    {infer : List TensorType → Except Failure (List TensorType)}
    (two : ∀ inputs types, infer inputs = .ok types → inputs.length = 2)
    (pairs : ∀ (a a' b b' : TensorType) (types : List TensorType), a'.Refines a → b'.Refines b →
      infer [a', b'] = .ok types →
      ∃ types', infer [a, b] = .ok types' ∧ List.Forall₂ TensorType.Refines types types') :
    RespectsRefinement infer := by
  intro specific general types refines accepted
  obtain ⟨a', b', rfl⟩ := List.length_eq_two.mp (two specific types accepted)
  obtain ⟨a, _, first, others, rfl⟩ := List.forall₂_cons_left_iff.mp refines
  obtain ⟨b, _, second, none, rfl⟩ := List.forall₂_cons_left_iff.mp others
  cases none
  exact pairs a a' b b' types first second accepted

theorem requireElements_relaxes (kind : String) {a a' b b' m' : ElementType}
    (violation violation' : Violation) (general : a.Relaxes a') (general' : b.Relaxes b')
    (accepted : requireElements kind a' b' violation' = .ok m') :
    ∃ m, requireElements kind a b violation = .ok m ∧ m.Relaxes m' := by
  simp only [Outcome.requireElements_eq_ok] at accepted ⊢
  exact ElementType.merge_relaxes general general' accepted

/-! ### Matrix products -/

namespace Dot

private theorem dims_relaxes {a a' : Shape} (general : a.relaxes a' = true) :
    (dims a).1.relaxes (dims a').1 = true ∧ (dims a).2.relaxes (dims a').2 = true := by
  unfold dims
  split
  · obtain ⟨dims', rfl, each⟩ := Shape.ranked_relaxes general
    cases each with
    | cons rows each =>
      cases each with
      | cons columns each =>
        cases each
        exact ⟨rows, columns⟩
  · exact ⟨rfl, rfl⟩

private theorem checkRank_relaxes {a a' : Shape} (position : Nat) (general : a.relaxes a' = true)
    (accepted : checkRank position a' = .ok ()) : checkRank position a = .ok () := by
  rw [checkRank_eq_ok] at accepted ⊢
  exact ⟨Shape.isShort_of_relaxes general accepted.1,
    Dimension.compatible_of_relaxes _ (Shape.rank_relaxes general) accepted.2⟩

theorem infer_of_refines : RespectsRefinement infer := by
  refine .of_pairs (fun inputs types accepted => ?_) ?_
  · unfold infer at accepted
    split at accepted
    · rfl
    · cases accepted
  · intro a a' b b' types first second accepted
    have ⟨short, short'⟩ := isShort_of_infer accepted
    have written : (Violation.reduction a.shape b.shape).isShort = true := by
      simp [Violation.isShort, Violation.phrases, Phrase.isShort,
        Shape.isShort_of_relaxes first.relaxes short, Shape.isShort_of_relaxes second.relaxes short']
    simp only [infer, Outcome.bind_eq_ok, Outcome.exists_unit, Outcome.require_eq_ok,
      Outcome.pure_eq_ok] at accepted ⊢
    obtain ⟨ranked, ranked', etype, elements, ⟨-, inner⟩, rfl⟩ := accepted
    obtain ⟨common, elements, relaxes⟩ := requireElements_relaxes kind
      (.argumentElements a.etype b.etype) _ first.etype second.etype elements
    obtain ⟨rows, left⟩ := dims_relaxes first.relaxes
    obtain ⟨right, columns⟩ := dims_relaxes second.relaxes
    -- What is summed over agrees still; what it merges to is not part of the result.
    obtain ⟨_, merged⟩ := Option.isSome_iff_exists.mp inner
    obtain ⟨_, merges, -⟩ := Dimension.merge_relaxes left right merged
    refine ⟨_, ⟨checkRank_relaxes 0 first.relaxes ranked, checkRank_relaxes 1 second.relaxes ranked',
      common, elements, ⟨written, by rw [merges]; rfl⟩, rfl⟩, ?_⟩
    refine .cons (.of_relaxes ?_ relaxes) .nil
    rw [Shape.relaxes, Shape.pairwise_iff]
    exact .cons rows (.cons columns .nil)

end Dot

/-! ### Slices -/

namespace SliceBounds

variable (bounds : SliceBounds) (kind : String)

theorem fitsRank_relaxes {a a' : Dimension} (general : a.relaxes a' = true)
    (accepted : bounds.fitsRank a' = true) : bounds.fitsRank a = true := by
  rcases (Dimension.relaxes_iff a a').mp general with rfl | rfl
  · rfl
  · exact accepted

private theorem checkUpper_relaxes {shape : Shape} (shape' : Shape) {dims dims' : List Dimension}
    (short : ∀ index, (Violation.upperOutOfRange index bounds.upper shape).isShort = true)
    (general : List.Forall₂ (fun a b => Dimension.relaxes a b = true) dims dims')
    (index : Nat) (uppers : List Value)
    (accepted : bounds.checkUpper kind shape' index uppers dims' = .ok ()) :
    bounds.checkUpper kind shape index uppers dims = .ok () := by
  induction general generalizing index uppers with
  | nil => cases uppers <;> rfl
  | @cons dim dim' dims dims' first _ ih =>
    cases uppers with
    | nil => rfl
    | cons upper uppers =>
      have later : bounds.checkUpper kind shape' (index + 1) uppers dims' = .ok () := by
        cases dim' <;>
          simp only [checkUpper, Outcome.bind_eq_ok, Outcome.exists_unit] at accepted
        · obtain ⟨_, -, -, later⟩ := accepted
          exact later
        · obtain ⟨_, -, _, -, -, later⟩ := accepted
          exact later
      have rest := ih (index + 1) uppers later
      rcases (Dimension.relaxes_iff dim dim').mp first with rfl | rfl
      · -- An unknown dimension is not compared with the bound.
        simp [checkUpper, short index, rest]
      · cases dim <;>
          simp only [checkUpper, Outcome.bind_eq_ok, Outcome.exists_unit, Outcome.require_eq_ok]
            at accepted ⊢
        · simp [short index, rest]
        · obtain ⟨bound, read, inRange, same, ⟨-, passes⟩, -⟩ := accepted
          exact ⟨bound, read, inRange, same, ⟨short index, passes⟩, rest⟩

theorem checkRange_relaxes {shape shape' : Shape} (short : bounds.isShort = true)
    (shapeShort : shape.isShort = true) (general : shape.relaxes shape' = true)
    (accepted : bounds.checkRange kind shape' = .ok ()) :
    bounds.checkRange kind shape = .ok () := by
  simp only [isShort, Bool.and_eq_true] at short
  have written : ∀ index, (Violation.upperOutOfRange index bounds.upper shape).isShort = true := by
    simp [Violation.isShort, Violation.phrases, Phrase.isShort, short, shapeShort]
  cases shape with
  | dynamicRank => rfl
  | ranked dims =>
    obtain ⟨dims', rfl, each⟩ := Shape.ranked_relaxes general
    exact checkUpper_relaxes bounds kind _ written each 0 bounds.upper accepted

end SliceBounds

theorem Slice.infer_of_refines (bounds : SliceBounds) : RespectsRefinement (infer bounds) := by
  intro specific general types refines accepted
  cases refines with
  | nil => cases accepted
  | @cons input' input _ _ first rest =>
    cases rest with
    | cons _ _ => cases accepted
    | nil =>
      have ⟨short, shapeShort⟩ := isShort_of_infer accepted
      have shapeShort := Shape.isShort_of_relaxes first.relaxes shapeShort
      simp only [infer, Outcome.bind_eq_ok, Outcome.exists_unit, Outcome.require_eq_ok,
        StridedRange.isShort_sliceRank, Outcome.pure_eq_ok] at accepted ⊢
      obtain ⟨checked, ⟨-, ranked⟩, inRange, shape, sliced, rfl⟩ := accepted
      have ranks := bounds.fitsRank_relaxes (Shape.rank_relaxes first.relaxes) ranked
      refine ⟨_, ⟨checked, ⟨by rw [short, shapeShort, Bool.and_self], ranks⟩,
        bounds.checkRange_relaxes kind short shapeShort first.relaxes inRange, shape, sliced,
        rfl⟩, ?_⟩
      exact .cons (.of_relaxes (Shape.relaxes_refl shape) first.etype) .nil

namespace ReplaceSlice

private theorem requireRank_relaxes {a a' b b' : Shape} {rank' : Dimension}
    (general : a.relaxes a' = true) (general' : b.relaxes b' = true)
    (accepted : requireRank a' b' = .ok rank') :
    ∃ rank, requireRank a b = .ok rank ∧ rank.relaxes rank' = true := by
  simp only [requireRank_eq_ok] at accepted ⊢
  obtain ⟨⟨short, short'⟩, merged⟩ := accepted
  obtain ⟨rank, merges, relaxes⟩ :=
    Dimension.merge_relaxes (Shape.rank_relaxes general) (Shape.rank_relaxes general') merged
  exact ⟨rank, ⟨⟨Shape.isShort_of_relaxes general short, Shape.isShort_of_relaxes general' short'⟩,
    merges⟩, relaxes⟩

/-- The common rank is at least as specific as that of the first shape. -/
theorem relaxes_of_requireRank {a b : Shape} {rank : Dimension}
    (ranked : requireRank a b = .ok rank) : a.rank.relaxes rank = true :=
  (Dimension.relaxes_of_merge (requireRank_eq_ok.mp ranked).2).1

/-- The bounds give the rank where it is unknown, and they fit the rank where it is not. -/
private theorem outputShape_relaxes (bounds : SliceBounds) {a a' b' : Shape} {rank' : Dimension}
    (general : a.relaxes a' = true) (ranked : requireRank a' b' = .ok rank')
    (fits : bounds.fitsRank rank' = true) :
    (outputShape bounds a).relaxes (outputShape bounds a') = true := by
  cases a with
  | ranked dims =>
    obtain ⟨dims', rfl, -⟩ := Shape.ranked_relaxes general
    exact general
  | dynamicRank =>
    cases a' with
    | dynamicRank => exact Shape.relaxes_refl _
    | ranked dims' =>
      -- The rank of the specific shape is the common one, and the bounds have that rank.
      have rank : rank' = .static dims'.length := by
        rcases (Dimension.relaxes_iff _ _).mp (relaxes_of_requireRank ranked) with unknown | same
        · cases unknown
        · exact same.symm
      subst rank
      have length : dims'.length = bounds.rank := by simpa [SliceBounds.fitsRank] using fits
      simp only [outputShape, Shape.ofRank, Shape.relaxes, Shape.pairwise_iff, ← length]
      clear fits ranked general length
      induction dims' with
      | nil => exact .nil
      | cons dim dims' ih => exact .cons rfl ih

theorem infer_of_refines (bounds : SliceBounds) : RespectsRefinement (infer bounds) := by
  refine .of_pairs (fun inputs types accepted => ?_) ?_
  · unfold infer at accepted
    split at accepted
    · rfl
    · cases accepted
  · intro target target' replacement replacement' types first second accepted
    have ⟨short, targetShort, replacementShort⟩ := isShort_of_infer accepted
    have targetShort := Shape.isShort_of_relaxes first.relaxes targetShort
    have replacementShort := Shape.isShort_of_relaxes second.relaxes replacementShort
    simp only [infer, Outcome.bind_eq_ok, Outcome.exists_unit, Outcome.require_eq_ok,
      Outcome.pure_eq_ok] at accepted ⊢
    obtain ⟨rank', ranked, etype, elements, checked, ⟨-, fits⟩, inRange, slice, sliced,
      ⟨-, agree⟩, rfl⟩ := accepted
    obtain ⟨rank, ranks, relaxes⟩ := requireRank_relaxes first.relaxes second.relaxes ranked
    have written : (Violation.replacementShape replacement.shape slice).isShort = true := by
      simp [Violation.isShort, Violation.phrases, Phrase.isShort, replacementShort,
        SliceBounds.isShort_shape short checked sliced]
    obtain ⟨common, elements, etypes⟩ := requireElements_relaxes kind
      (.argumentElements target.etype replacement.etype) _ first.etype second.etype elements
    -- The shape of the slice depends on the bounds alone, so it is the same for both.
    refine ⟨_, ⟨rank, ranks, common, elements, checked,
      ⟨(StridedRange.isShort_replacedRank bounds).trans short,
        bounds.fitsRank_relaxes relaxes fits⟩,
      bounds.checkRange_relaxes kind short targetShort first.relaxes inRange, slice, sliced,
      ⟨written, Shape.compatible_of_relaxes slice second.relaxes agree⟩, rfl⟩, ?_⟩
    exact .cons (.of_relaxes (outputShape_relaxes bounds first.relaxes ranked fits) etypes) .nil

end ReplaceSlice

/-! ### Convolutions -/

namespace Convolution

theorem dataDims_relaxes (channelsFirst : Bool) {a a' : Shape}
    (general : a.relaxes a' = true) :
    let dims := dataDims channelsFirst a
    let dims' := dataDims channelsFirst a'
    dims.1.relaxes dims'.1 = true ∧ dims.2.1.relaxes dims'.2.1 = true ∧
      dims.2.2.1.relaxes dims'.2.2.1 = true ∧ dims.2.2.2.relaxes dims'.2.2.2 = true := by
  unfold dataDims
  split
  · obtain ⟨dims', rfl, each⟩ := Shape.ranked_relaxes general
    obtain _ | ⟨first, _ | ⟨second, _ | ⟨third, _ | ⟨fourth, _ | _⟩⟩⟩⟩ := each
    cases channelsFirst
    · exact ⟨first, fourth, second, third⟩
    · exact ⟨first, second, third, fourth⟩
  · exact ⟨rfl, rfl, rfl, rfl⟩

theorem filterDims_relaxes (channelsFirst : Bool) {a a' : Shape}
    (general : a.relaxes a' = true) :
    let dims := filterDims channelsFirst a
    let dims' := filterDims channelsFirst a'
    dims.1.relaxes dims'.1 = true ∧ dims.2.1.relaxes dims'.2.1 = true ∧
      dims.2.2.1.relaxes dims'.2.2.1 = true ∧ dims.2.2.2.relaxes dims'.2.2.2 = true := by
  unfold filterDims
  split
  · obtain ⟨dims', rfl, each⟩ := Shape.ranked_relaxes general
    obtain _ | ⟨first, _ | ⟨second, _ | ⟨third, _ | ⟨fourth, _ | _⟩⟩⟩⟩ := each
    cases channelsFirst
    · exact ⟨fourth, third, first, second⟩
    · exact ⟨first, second, third, fourth⟩
  · exact ⟨rfl, rfl, rfl, rfl⟩

private theorem requireRank_relaxes {a a' : Shape} {violation : Violation}
    (violation' : Violation) (written : violation.isShort = true) (general : a.relaxes a' = true)
    (accepted : requireRank a' violation' = .ok ()) : requireRank a violation = .ok () := by
  simp only [requireRank, Outcome.require_eq_ok] at accepted ⊢
  exact ⟨written, Dimension.compatible_of_relaxes _ (Shape.rank_relaxes general) accepted.2⟩

private theorem padDimension_relaxes (padding : Value) {size size' dim' : Dimension}
    (general : size.relaxes size' = true) (padded : padDimension size' padding = .ok dim') :
    ∃ dim, padDimension size padding = .ok dim ∧ dim.relaxes dim' = true := by
  simp only [padDimension, Outcome.bind_eq_ok, Outcome.pure_eq_ok] at padded ⊢
  obtain ⟨amount, read, rfl⟩ := padded
  refine ⟨_, ⟨amount, read, rfl⟩, ?_⟩
  rcases (Dimension.relaxes_iff size size').mp general with rfl | rfl
  · rfl
  · exact Dimension.relaxes_refl _

/-- The padded extent along one axis. -/
private def paddedDim (axis : SpatialAxis) (size : Dimension) : Except Failure Dimension := do
  padDimension (← padDimension size axis.below) axis.above

private theorem paddedDim_relaxes (axis : SpatialAxis) {size size' dim' : Dimension}
    (general : size.relaxes size' = true) (padded : paddedDim axis size' = .ok dim') :
    ∃ dim, paddedDim axis size = .ok dim ∧ dim.relaxes dim' = true := by
  simp only [paddedDim, Outcome.bind_eq_ok] at padded ⊢
  obtain ⟨_, below, above⟩ := padded
  obtain ⟨middle, below, relaxes⟩ := padDimension_relaxes axis.below general below
  obtain ⟨dim, above, relaxes⟩ := padDimension_relaxes axis.above relaxes above
  exact ⟨dim, ⟨middle, below, above⟩, relaxes⟩

private theorem spatialDim_eq (index : Nat) (axis : SpatialAxis) (size kernel : Dimension)
    (data filters : Shape) :
    spatialDim index axis size kernel data filters = (do
      let padded ← paddedDim axis size
      match kernel with
      | .dynamic => return .dynamic
      | .static length =>
        require kind (0 < length) (.emptyWindow index filters)
        let window ← windowDimension length axis.dilation
        match padded, window with
        | .static padded, .static window =>
          require kind (window ≤ padded) (.windowTooLarge index window padded data filters)
          placesDimension padded window axis.stride
        | _, _ => return .dynamic) := by
  rw [paddedDim, bind_assoc]
  rfl

private theorem spatialDim_relaxes (index : Nat) (axis : SpatialAxis)
    {size size' kernel kernel' dim' : Dimension} {data filters : Shape} (data' filters' : Shape)
    (short : data.isShort = true) (short' : filters.isShort = true)
    (general : size.relaxes size' = true) (general' : kernel.relaxes kernel' = true)
    (accepted : spatialDim index axis size' kernel' data' filters' = .ok dim') :
    ∃ dim, spatialDim index axis size kernel data filters = .ok dim ∧
      dim.relaxes dim' = true := by
  simp only [spatialDim_eq, Outcome.bind_eq_ok] at accepted ⊢
  obtain ⟨padded', pads', rest⟩ := accepted
  -- An unknown extent ends the checks early with an unknown result, which is more general.
  obtain ⟨padded, pads, relaxes⟩ := paddedDim_relaxes axis general pads'
  rcases (Dimension.relaxes_iff kernel kernel').mp general' with rfl | rfl
  · exact ⟨.dynamic, ⟨padded, pads, rfl⟩, rfl⟩
  · cases kernel with
    | dynamic => exact ⟨.dynamic, ⟨padded, pads, rfl⟩, rfl⟩
    | static length =>
      simp only [Outcome.bind_eq_ok, Outcome.exists_unit, Outcome.require_eq_ok] at rest ⊢
      obtain ⟨⟨-, nonempty⟩, window, spread, rest⟩ := rest
      have written : (Violation.emptyWindow index filters).isShort = true := by
        simp [Violation.isShort, Violation.phrases, Phrase.isShort, short']
      rcases (Dimension.relaxes_iff padded padded').mp relaxes with rfl | rfl
      · exact ⟨.dynamic, ⟨_, pads, ⟨written, nonempty⟩, window, spread, rfl⟩, rfl⟩
      · refine ⟨dim', ⟨padded, pads, ⟨written, nonempty⟩, window, spread, ?_⟩, dim'.relaxes_refl⟩
        cases padded with
        | dynamic => exact rest
        | static padded =>
          cases window with
          | dynamic => exact rest
          | static window =>
            -- Of the message, only the shapes are not the same.
            simp only [Outcome.bind_eq_ok, Outcome.exists_unit, Outcome.require_eq_ok] at rest ⊢
            obtain ⟨⟨written', fits⟩, counted⟩ := rest
            refine ⟨⟨?_, fits⟩, counted⟩
            simp only [Violation.isShort, Violation.phrases, List.all_cons, List.all_nil,
              Phrase.isShort, Bool.and_eq_true, Bool.true_and] at written' ⊢
            simp [written', short, short']

private theorem outputShape_relaxes (channelsFirst : Bool) {n n' f f' h h' w w' : Dimension}
    (batch : n.relaxes n' = true) (channels : f.relaxes f' = true) (high : h.relaxes h' = true)
    (wide : w.relaxes w' = true) :
    (outputShape channelsFirst n f h w).relaxes (outputShape channelsFirst n' f' h' w') = true := by
  cases channelsFirst
  · simp [outputShape, Shape.relaxes, Shape.pairwise, batch, channels, high, wide]
  · simp [outputShape, Shape.relaxes, Shape.pairwise, batch, channels, high, wide]

theorem infer_of_refines (attrs : ConvolutionAttributes) : RespectsRefinement (infer attrs) := by
  refine .of_pairs (fun inputs types accepted => ?_) ?_
  · unfold infer at accepted
    split at accepted
    · rfl
    · cases accepted
  · intro data data' filters filters' types first second accepted
    have ⟨_, short, short'⟩ := isShort_of_infer accepted
    have short := Shape.isShort_of_relaxes first.relaxes short
    have short' := Shape.isShort_of_relaxes second.relaxes short'
    simp only [infer, Outcome.bind_eq_ok, Outcome.exists_unit, Outcome.require_eq_ok,
      Outcome.pure_eq_ok] at accepted ⊢
    obtain ⟨ranked, ranked', etype, elements, ⟨heightAxis, widthAxis⟩, checked, ho', high, wo',
      wide, ⟨-, channels⟩, rfl⟩ := accepted
    obtain ⟨common, elements, etypes⟩ := requireElements_relaxes kind
      (.convolutionElements data.etype filters.etype) _ first.etype second.etype elements
    -- The attributes read the two layouts alike, so the axes refine each other one by one.
    obtain ⟨n, c, h, w⟩ := dataDims_relaxes attrs.isChannelsFirst first.relaxes
    obtain ⟨f, fc, kh, kw⟩ := filterDims_relaxes attrs.isChannelsFirst second.relaxes
    obtain ⟨ho, high, relaxes⟩ := spatialDim_relaxes 0 heightAxis _ _ short short' h kh high
    obtain ⟨wo, wide, relaxes'⟩ := spatialDim_relaxes 1 widthAxis _ _ short short' w kw wide
    obtain ⟨_, merged⟩ := Option.isSome_iff_exists.mp channels
    obtain ⟨_, merges, -⟩ := Dimension.merge_relaxes c fc merged
    have channelsShort := (isShort_dataDims attrs.isChannelsFirst short).2.1
    have channelsShort' := (isShort_filterDims attrs.isChannelsFirst short').2.1
    refine ⟨_, ⟨requireRank_relaxes _ ?_ first.relaxes ranked,
      requireRank_relaxes _ ?_ second.relaxes ranked', common, elements, _, checked, ho, high, wo,
      wide, ⟨?_, by rw [merges]; rfl⟩, rfl⟩, ?_⟩
    · simp [Violation.isShort, Violation.phrases, Phrase.isShort, short]
    · simp [Violation.isShort, Violation.phrases, Phrase.isShort, short']
    · simp [Violation.isShort, Violation.phrases, Phrase.isShort, short, short', channelsShort,
        channelsShort']
    · exact .cons (.of_relaxes (outputShape_relaxes _ n f relaxes relaxes') etypes) .nil

end Convolution

/-! ### All operators -/

theorem Operator.infer_of_refines (operator : Operator) : RespectsRefinement operator.infer := by
  cases operator with
  | generic name attrs =>
    intro specific general types refines accepted
    cases accepted
    exact ⟨general, rfl, refines⟩
  | parameter type =>
    intro specific general types refines accepted
    cases refines with
    | nil =>
      cases accepted
      exact ⟨[type], rfl, .cons (.refl type) .nil⟩
    | cons _ _ => cases accepted
  | convolution attrs => exact Convolution.infer_of_refines attrs
  | replaceSlice bounds => exact ReplaceSlice.infer_of_refines bounds
  | slice bounds => exact Slice.infer_of_refines bounds
  | dot => exact Dot.infer_of_refines

end OpGraph
