import OpGraph.Operator.Slice
import OpGraph.Proofs.Operator.SliceBounds
import OpGraph.Proofs.Tensor

/-!
# Slices of arrays

What an accepted slice computes: one element for each started stride of its ranges. Without axes
this is a single number, which is no array that could be written to.
-/
namespace OpGraph.Slice

open StridedRange (Fits bounds sources)

/-- What was accepted was written before. -/
theorem isShort_of_infer {bounds : SliceBounds} {input : TensorType} {types : List TensorType}
    (accepted : infer bounds [input] = .ok types) :
    bounds.isShort = true ∧ input.shape.isShort = true := by
  simp only [infer, Outcome.bind_eq_ok, Outcome.exists_unit, Outcome.require_eq_ok,
    StridedRange.isShort_sliceRank, Bool.and_eq_true] at accepted
  exact accepted.2.1.1

/-- What acceptance says about integer bounds and a known shape. -/
theorem infer_ofLengths (lower upper strides : List Int) (shape : List Nat) (etype : ElementType)
    (types : List TensorType)
    (accepted : infer (.ofInts lower upper strides) [⟨.ofLengths shape, etype⟩] = .ok types) :
    ∃ ranges : List StridedRange, SliceBounds.ofInts lower upper strides = bounds ranges ∧
      List.Forall₂ Fits ranges shape ∧
      types = [⟨.ofLengths (ranges.map StridedRange.length), etype⟩] := by
  obtain ⟨short, shapeShort⟩ := isShort_of_infer accepted
  simp only [infer, Outcome.bind_eq_ok, Outcome.exists_unit, Outcome.require_eq_ok,
    Outcome.pure_eq_ok] at accepted
  obtain ⟨checked, ⟨-, fitsRank⟩, inRange, slice, shaped, rfl⟩ := accepted
  obtain ⟨-, ranges, same⟩ := (StridedRange.check_ofInts kind lower upper strides).mp checked
  rw [same] at fitsRank inRange shaped short
  have ranks : ranges.length = shape.length := by
    simp only [Shape.ofLengths, Shape.rank, List.length_map, SliceBounds.fitsRank,
      StridedRange.rank_bounds, beq_iff_eq] at fitsRank
    exact fitsRank.symm
  rw [StridedRange.shape_bounds, Except.ok.injEq] at shaped
  exact ⟨ranges, same, (StridedRange.checkRange_bounds kind short shapeShort ranks).mp inRange,
    by rw [← shaped]⟩

/-- Ranges that end within the axes of a shape are accepted, if all of this can be written. -/
theorem infer_bounds (ranges : List StridedRange) (shape : List Nat) (etype : ElementType)
    (short : (bounds ranges).isShort = true) (shapeShort : (Shape.ofLengths shape).isShort = true)
    (fits : List.Forall₂ Fits ranges shape) :
    infer (bounds ranges) [⟨.ofLengths shape, etype⟩] =
      .ok [⟨.ofLengths (ranges.map StridedRange.length), etype⟩] := by
  have ranks : ranges.length = shape.length := fits.length_eq
  have fitsRank : (bounds ranges).fitsRank (Shape.ofLengths shape).rank = true := by
    simp [Shape.ofLengths, Shape.rank, SliceBounds.fitsRank, StridedRange.rank_bounds, ranks]
  simp only [infer, Outcome.bind_eq_ok, Outcome.exists_unit, Outcome.require_eq_ok,
    Outcome.pure_eq_ok, StridedRange.isShort_sliceRank, short, shapeShort]
  exact ⟨StridedRange.check_bounds kind short, ⟨rfl, fitsRank⟩,
    (StridedRange.checkRange_bounds kind short shapeShort ranks).mpr fits, _,
    StridedRange.shape_bounds ranges, rfl⟩

/-- The elements that the ranges select. -/
def sliced (ranges : List StridedRange) (input : Tensor) : Tensor :=
  input.slice (ranges.map StridedRange.progression)

theorem evaluate_bounds (ranges : List StridedRange) (input : Tensor)
    (fits : List.Forall₂ Fits ranges input.shape) :
    evaluate (bounds ranges) [input] = .ok [sliced ranges input] := by
  rw [evaluate, StridedRange.selection_bounds fits]
  rfl

theorem shape_sliced (ranges : List StridedRange) (input : Tensor) :
    (sliced ranges input).shape = ranges.map StridedRange.length :=
  StridedRange.map_count_progression ranges

theorem elements_sliced (ranges : List StridedRange) (input : Tensor) :
    (sliced ranges input).elements = .ofFn (ranges.map StridedRange.length) fun index =>
      input.elements.get (sources ranges index) :=
  StridedRange.take_ranges input.elements

/-- A slice with axes is an array. -/
theorem sliced_eq_ofElements (ranges : List StridedRange) (input : Tensor) (ranked : ranges ≠ []) :
    sliced ranges input = .ofElements input.etype (sliced ranges input).elements := by
  have axes : (sliced ranges input).shape.isEmpty = false := by
    rw [shape_sliced]
    simpa using ranked
  have writable : (sliced ranges input).writable = true := by
    change (!(sliced ranges input).shape.isEmpty) = true
    rw [axes]
    rfl
  exact congrArg (Tensor.mk _ _) writable

end OpGraph.Slice
