import OpGraph.Operator.ReplaceSlice
import OpGraph.Proofs.Operator.SliceBounds
import OpGraph.Proofs.Tensor

/-!
# Replacing slices

On arrays of known shapes an accepted replacement writes each element of the second array at its
place in the strided ranges of the first, and leaves the other elements as they are
(`evaluate_bounds`).
-/
namespace OpGraph.ReplaceSlice

open StridedRange (Fits Selects positions bounds)

theorem requireRank_eq_ok {target replacement : Shape} {rank : Dimension} :
    requireRank target replacement = .ok rank ↔
      (target.isShort = true ∧ replacement.isShort = true) ∧
        target.rank.merge replacement.rank = some rank := by
  have written : (Violation.argumentRanks target replacement).isShort =
      (target.isShort && replacement.isShort) := by
    simp [Violation.isShort, Violation.phrases, Phrase.isShort]
  rw [← Bool.and_eq_true, ← written, requireRank, Violation.write]
  cases short : (Violation.argumentRanks target replacement).isShort with
  | false => simp
  | true =>
    rw [writeWhen_of_short _ rfl, Outcome.ok_bind]
    split
    next merged => simp [merged]
    next failed => simp [failed]

/-- What was accepted was written before. -/
theorem isShort_of_infer {bounds : SliceBounds} {target replacement : TensorType}
    {types : List TensorType} (accepted : infer bounds [target, replacement] = .ok types) :
    bounds.isShort = true ∧ target.shape.isShort = true ∧ replacement.shape.isShort = true := by
  simp only [infer, Outcome.bind_eq_ok, Outcome.exists_unit, Outcome.require_eq_ok,
    StridedRange.isShort_replacedRank, requireRank_eq_ok] at accepted
  obtain ⟨_, ⟨shapes, -⟩, _, -, -, ⟨short, -⟩, -⟩ := accepted
  exact ⟨short, shapes⟩

/-- What acceptance says about integer bounds and known shapes. -/
theorem infer_ofLengths (lower upper strides : List Int) (shape shape' : List Nat)
    (etype etype' : ElementType) (types : List TensorType)
    (accepted : infer (.ofInts lower upper strides)
      [⟨.ofLengths shape, etype⟩, ⟨.ofLengths shape', etype'⟩] = .ok types) :
    ∃ (ranges : List StridedRange) (merged : ElementType),
      SliceBounds.ofInts lower upper strides = bounds ranges ∧
        List.Forall₂ Fits ranges shape ∧ shape' = ranges.map StridedRange.length ∧
        etype.merge etype' = some merged ∧ types = [⟨.ofLengths shape, merged⟩] := by
  obtain ⟨short, shapeShort, -⟩ := isShort_of_infer accepted
  simp only [infer, Outcome.bind_eq_ok, Outcome.exists_unit, Outcome.require_eq_ok,
    Outcome.requireElements_eq_ok, Outcome.pure_eq_ok] at accepted
  obtain ⟨rank, ranked, merged, elements, checked, ⟨-, fitsRank⟩, inRange, slice, shaped,
    ⟨-, replaced⟩, rfl⟩ := accepted
  obtain ⟨-, ranges, same⟩ := (StridedRange.check_ofInts kind lower upper strides).mp checked
  -- Both ranks are known, so their common rank is.
  have known : rank = .static shape.length := by
    have ranks : (Dimension.static shape.length).merge (.static shape'.length) = some rank := by
      simpa only [Shape.ofLengths, Shape.rank, List.length_map] using (requireRank_eq_ok.mp ranked).2
    simp only [Dimension.merge] at ranks
    split at ranks <;> cases ranks
    rfl
  rw [same] at fitsRank inRange shaped short
  have ranks : ranges.length = shape.length := by
    rw [known, SliceBounds.fitsRank, StridedRange.rank_bounds, beq_iff_eq] at fitsRank
    exact fitsRank.symm
  rw [StridedRange.shape_bounds, Except.ok.injEq] at shaped
  rw [← shaped, Shape.compatible_ofLengths] at replaced
  exact ⟨ranges, merged, same,
    (StridedRange.checkRange_bounds kind short shapeShort ranks).mp inRange, replaced, elements, rfl⟩

/-- Ranges that end within the axes of the first shape are accepted with the shape of the slice, if
all of this can be written. -/
theorem infer_bounds (ranges : List StridedRange) (shape : List Nat)
    (etype etype' merged : ElementType) (short : (bounds ranges).isShort = true)
    (shapeShort : (Shape.ofLengths shape).isShort = true) (fits : List.Forall₂ Fits ranges shape)
    (merges : etype.merge etype' = some merged) :
    infer (bounds ranges)
        [⟨.ofLengths shape, etype⟩, ⟨.ofLengths (ranges.map StridedRange.length), etype'⟩] =
      .ok [⟨.ofLengths shape, merged⟩] := by
  have ranks : ranges.length = shape.length := fits.length_eq
  have sliceShort := StridedRange.isShort_lengths short
  have ranked : requireRank (.ofLengths shape) (.ofLengths (ranges.map StridedRange.length)) =
      .ok (.static shape.length) :=
    requireRank_eq_ok.mpr ⟨⟨shapeShort, sliceShort⟩, by
      simp [Shape.ofLengths, Shape.rank, Dimension.merge, ranks]⟩
  have fitsRank : (bounds ranges).fitsRank (.static shape.length) = true := by
    simp [SliceBounds.fitsRank, StridedRange.rank_bounds, ranks]
  have written : ∀ slice, slice.isShort = true → (Violation.replacementShape
      (.ofLengths (ranges.map StridedRange.length)) slice).isShort = true := by
    intro slice sliceShort'
    simp [Violation.isShort, Violation.phrases, Phrase.isShort, sliceShort, sliceShort']
  simp only [infer, ranked, Outcome.ok_bind, Outcome.bind_eq_ok, Outcome.exists_unit,
    Outcome.require_eq_ok, Outcome.requireElements_eq_ok, Outcome.pure_eq_ok,
    StridedRange.isShort_replacedRank]
  exact ⟨merged, merges, StridedRange.check_bounds kind short, ⟨short, fitsRank⟩,
    (StridedRange.checkRange_bounds kind short shapeShort ranks).mpr fits, _,
    StridedRange.shape_bounds ranges,
    ⟨written _ sliceShort, (Shape.compatible_ofLengths _ _).mpr rfl⟩, rfl⟩

/-- The first array with the elements of the second in the ranges. -/
def replaced (ranges : List StridedRange) (a b : Tensor) : Tensor :=
  .ofElements a.etype <| .ofFn a.shape fun index =>
    if List.Forall₂ Selects ranges index then
      a.etype.reduce (b.elements.get (positions ranges index))
    else a.elements.get index

theorem elements_replaced (ranges : List StridedRange) (a b : Tensor)
    (fits : List.Forall₂ Fits ranges a.shape) (shape : b.shape = ranges.map StridedRange.length) :
    (replaced ranges a b).elements =
      a.elements.put (ranges.map StridedRange.progression) (b.elements.map a.etype.reduce) := by
  refine Eq.trans (NDArray.ofFn_congr a.shape _ _ fun index _ => ?_)
    (StridedRange.put_ranges (b := b.elements.map a.etype.reduce) fits shape).symm
  split
  next selected =>
    have place : NDArray.InBounds b.shape (positions ranges index) := by
      rw [shape]
      exact StridedRange.inBounds_positions ranges index selected
    exact (b.elements.get_map a.etype.reduce (positions ranges index) place).symm
  · rfl

theorem evaluate_bounds (ranges : List StridedRange) (a b : Tensor) (writable : a.writable = true)
    (fits : List.Forall₂ Fits ranges a.shape) (shape : b.shape = ranges.map StridedRange.length) :
    evaluate (bounds ranges) [a, b] = .ok [replaced ranges a b] := by
  have counts : (ranges.map StridedRange.progression).map Progression.count = b.shape := by
    rw [shape, List.map_map]
    rfl
  have room : (if a.shape.isEmpty then b.shape.isEmpty
      else NDArray.spreads b.shape b.shape) = true := by
    split
    next scalar =>
      have noRanges : ranges = [] := by
        have ranks := fits.length_eq
        rw [List.isEmpty_iff.mp scalar] at ranks
        exact List.length_eq_zero_iff.mp ranks
      rw [shape, noRanges]
      rfl
    · exact NDArray.spreads_self b.shape
  have written := elements_replaced ranges a b fits shape
  simp only [evaluate, writable, Bool.not_true, Bool.false_eq_true, if_false,
    StridedRange.selection_bounds fits, Outcome.ok_bind, Tensor.replaceSlice, counts, room, if_true,
    ← written]
  rfl

end OpGraph.ReplaceSlice
