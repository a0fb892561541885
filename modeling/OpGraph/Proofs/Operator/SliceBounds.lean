import OpGraph.Proofs.Array
import OpGraph.Proofs.Operator.StridedRange
import OpGraph.Proofs.Tensor
import OpGraph.Proofs.Writing

/-!
# Slices of several axes

What `StridedRange` says of one axis, for all axes of a slice together. Main statements: integer
bounds pass the checks exactly when they are those of strided ranges (`check_ofInts`), and in a
shape that the upper bounds do not exceed they select the progressions of these ranges
(`selection_bounds`).
-/
namespace OpGraph

theorem SliceBounds.ofInts_injective (lower upper strides lower' upper' strides' : List Int) :
    ofInts lower upper strides = ofInts lower' upper' strides' ↔
      lower = lower' ∧ upper = upper' ∧ strides = strides' := by
  have cast (xs ys : List Int) : xs.map Value.int = ys.map Value.int ↔ xs = ys :=
    List.map_inj_right fun _ _ same => Value.int.inj same
  simp only [ofInts, SliceBounds.mk.injEq, cast]

namespace StridedRange

/-- The range ends within an axis. -/
def Fits (r : StridedRange) (extent : Nat) : Prop :=
  r.upper ≤ extent

/-! ### The checks -/

theorem isShort_boundRanks (bounds : SliceBounds) :
    (Violation.boundRanks bounds).isShort = bounds.isShort := by
  simp [Violation.isShort, Violation.phrases, Phrase.isShort, SliceBounds.isShort, Bool.and_assoc]

theorem isShort_sliceRank (bounds : SliceBounds) (shape : Shape) :
    (Violation.sliceRank bounds shape).isShort = (bounds.isShort && shape.isShort) := by
  simp [Violation.isShort, Violation.phrases, Violation.boundsPhrases, Phrase.isShort,
    SliceBounds.isShort, Bool.and_assoc]

theorem isShort_replacedRank (bounds : SliceBounds) :
    (Violation.replacedRank bounds).isShort = bounds.isShort := by
  simp [Violation.isShort, Violation.phrases, Violation.boundsPhrases, Phrase.isShort,
    SliceBounds.isShort, Bool.and_assoc]

/-- A slice has no more elements along an axis than the axis up to its upper bound. -/
theorem isShort_lengths {ranges : List StridedRange}
    (short : (bounds ranges).isShort = true) :
    (Shape.ofLengths (ranges.map length)).isShort = true := by
  simp only [SliceBounds.isShort, bounds, SliceBounds.ofInts, Bool.and_eq_true, List.all_map,
    List.all_eq_true, Function.comp_apply] at short
  simp only [Shape.isShort_ofLengths, List.all_map, List.all_eq_true, Function.comp_apply]
  intro r member
  refine Text.isShort_of_natAbs_le (short.1.2 r member) ?_
  simpa using r.length_le_upper

variable (kind : String)

private theorem checkAxis_ofInts {given : SliceBounds} (short : given.isShort = true) (index : Nat)
    (lower upper stride : Int) :
    given.checkAxis kind index ⟨.int lower, .int upper, .int stride⟩ = .ok () ↔
      0 ≤ lower ∧ lower ≤ upper ∧ 0 < stride := by
  -- A stride is also checked not to be zero, which a positive one is not.
  have nonzero : 0 < stride → (!(Value.int stride).equalsInt 0) = true := by
    intro positive
    have differs : ¬(Value.int stride).equalsInt 0 = true := by
      rw [Value.equalsInt_int]
      omega
    simp [differs]
  simp only [SliceBounds.isShort, Bool.and_eq_true] at short
  simp only [SliceBounds.checkAxis, Number.ofValue_int, Outcome.ok_bind, Outcome.bind_eq_ok, Outcome.exists_unit,
    Outcome.require_eq_ok, Number.isNonNegative_int, Number.lessEq_int, Number.isPositive_int,
    Violation.isShort, Violation.phrases, List.all_cons, List.all_nil, Phrase.isShort, short,
    Bool.and_self, true_and]
  constructor
  · rintro ⟨nonneg, ordered, -, positive⟩
    exact ⟨nonneg, ordered, positive⟩
  · rintro ⟨nonneg, ordered, positive⟩
    exact ⟨nonneg, ordered, nonzero positive, positive⟩

private theorem checkAxes_ofInts {given : SliceBounds} (short : given.isShort = true) (index : Nat)
    (lower upper strides : List Int) (ranks : lower.length = upper.length)
    (ranks' : lower.length = strides.length) :
    given.checkAxes kind index (SliceBounds.ofInts lower upper strides).axes = .ok () ↔
      ∃ ranges : List StridedRange, lower = ranges.map (fun r => (r.lower : Int)) ∧
        upper = ranges.map (fun r => (r.upper : Int)) ∧
        strides = ranges.map (fun r => (r.stride : Int)) := by
  induction lower generalizing index upper strides with
  | nil =>
    have none : upper = [] := List.length_eq_zero_iff.mp ranks.symm
    have none' : strides = [] := List.length_eq_zero_iff.mp ranks'.symm
    subst none none'
    exact ⟨fun _ => ⟨[], rfl, rfl, rfl⟩, fun _ => rfl⟩
  | cons l lower ih =>
    obtain _ | ⟨u, upper⟩ := upper
    · simp at ranks
    obtain _ | ⟨s, strides⟩ := strides
    · simp at ranks'
    have later := ih (index + 1) upper strides (by simpa using ranks) (by simpa using ranks')
    have split : (SliceBounds.ofInts (l :: lower) (u :: upper) (s :: strides)).axes =
        ⟨.int l, .int u, .int s⟩ :: (SliceBounds.ofInts lower upper strides).axes := rfl
    rw [split, SliceBounds.checkAxes, Outcome.bind_eq_ok, Outcome.exists_unit, later,
      checkAxis_ofInts kind short]
    constructor
    -- The checks of an axis are what a range asks of its numbers.
    · rintro ⟨⟨nonneg, ordered, positive⟩, ranges, rfl, rfl, rfl⟩
      obtain ⟨r, rfl, rfl, rfl⟩ := exists_of_ordered nonneg ordered positive
      exact ⟨r :: ranges, rfl, rfl, rfl⟩
    · rintro ⟨ranges, lowers, uppers, steps⟩
      obtain _ | ⟨r, ranges⟩ := ranges
      · cases lowers
      simp only [List.map_cons, List.cons.injEq] at lowers uppers steps
      have ordered := r.ordered
      have moving := r.moving
      exact ⟨by omega, ranges, lowers.2, uppers.2, steps.2⟩

/-- The bounds of ranges whose numbers can be written pass, and no others. -/
theorem check_ofInts (lower upper strides : List Int) :
    (SliceBounds.ofInts lower upper strides).check kind = .ok () ↔
      (SliceBounds.ofInts lower upper strides).isShort = true ∧
        ∃ ranges, SliceBounds.ofInts lower upper strides = bounds ranges := by
  simp only [SliceBounds.check, Outcome.bind_eq_ok, Outcome.exists_unit, Outcome.require_eq_ok, Bool.and_eq_true,
    beq_iff_eq, isShort_boundRanks, and_assoc]
  refine and_congr_right fun short => ?_
  simp only [SliceBounds.ofInts, List.length_map] at short ⊢
  constructor
  · rintro ⟨ranks, ranks', checked⟩
    obtain ⟨ranges, rfl, rfl, rfl⟩ :=
      (checkAxes_ofInts kind short _ _ _ _ ranks ranks').mp checked
    exact ⟨ranges, rfl⟩
  · rintro ⟨ranges, same⟩
    obtain ⟨rfl, rfl, rfl⟩ := (SliceBounds.ofInts_injective _ _ _ _ _ _).mp same
    have ranks : (ranges.map fun r : StridedRange => (r.lower : Int)).length =
        (ranges.map fun r : StridedRange => (r.upper : Int)).length := by simp
    have ranks' : (ranges.map fun r : StridedRange => (r.lower : Int)).length =
        (ranges.map fun r : StridedRange => (r.stride : Int)).length := by simp
    exact ⟨ranks, ranks',
      (checkAxes_ofInts kind short _ _ _ _ ranks ranks').mpr ⟨ranges, rfl, rfl, rfl⟩⟩

theorem bounds_injective {ranges ranges' : List StridedRange}
    (same : bounds ranges = bounds ranges') : ranges = ranges' := by
  obtain ⟨lowers, uppers, strides⟩ := (SliceBounds.ofInts_injective _ _ _ _ _ _).mp same
  clear same
  induction ranges generalizing ranges' with
  | nil => exact (List.map_eq_nil_iff.mp lowers.symm).symm
  | cons r ranges ih =>
    obtain _ | ⟨⟨lower, upper, stride, _, _⟩, ranges'⟩ := ranges'
    · cases lowers
    obtain ⟨l, u, s, _, _⟩ := r
    simp only [List.map_cons, List.cons.injEq, Int.natCast_inj] at lowers uppers strides
    obtain ⟨rfl, rfl, rfl⟩ := And.intro lowers.1 (And.intro uppers.1 strides.1)
    rw [ih lowers.2 uppers.2 strides.2]

theorem check_bounds {ranges : List StridedRange}
    (short : (bounds ranges).isShort = true) :
    (bounds ranges).check kind = .ok () :=
  (check_ofInts kind _ _ _).mpr ⟨short, ranges, rfl⟩

/-! ### Extents -/

section Extents

variable {ranges : List StridedRange} {dims : List Dimension} {extents : List Nat}

private theorem checkUpper_bounds {bounds : SliceBounds} {shape : Shape}
    (written : (bounds.upper.all Value.isShort && shape.isShort) = true)
    (index : Nat) (ranks : ranges.length = dims.length) :
    bounds.checkUpper kind shape index (ranges.map fun r => Value.int r.upper) dims = .ok () ↔
      List.Forall₂ (fun r dim => r.Fits (dim.lengthOr r.upper)) ranges dims := by
  have short : ∀ index, (Violation.upperOutOfRange index bounds.upper shape).isShort = true := by
    simpa [Violation.isShort, Violation.phrases, Phrase.isShort] using written
  induction ranges generalizing index dims with
  | nil =>
    have none : dims = [] := List.length_eq_zero_iff.mp ranks.symm
    subst none
    simp [SliceBounds.checkUpper]
  | cons r ranges ih =>
    obtain _ | ⟨dim, dims⟩ := dims
    · simp at ranks
    have later := ih (index + 1) (by simpa using ranks)
    cases dim with
    | dynamic =>
      simp only [List.map_cons, SliceBounds.checkUpper, pure_bind, Outcome.bind_eq_ok,
        Outcome.exists_unit, Outcome.require_eq_ok, short, later, List.forall₂_cons, Fits]
      simp
    | static extent =>
      simp only [List.map_cons, SliceBounds.checkUpper, Number.ofValue_int, Outcome.ok_bind,
        Outcome.bind_eq_ok, Outcome.exists_unit, pure_bind, Outcome.require_eq_ok, short, true_and,
        Number.lessEq_int, later, List.forall₂_cons, Fits, Dimension.lengthOr_static]
      norm_cast

/-- The upper bounds of a slice that fits the rank of a shape are in range when each of them is. A
dimension that is unknown reaches every bound. -/
theorem checkRange_ranked (short : (bounds ranges).isShort = true)
    (shapeShort : (Shape.ranked dims).isShort = true) (ranks : ranges.length = dims.length) :
    (bounds ranges).checkRange kind (.ranked dims) = .ok () ↔
      List.Forall₂ (fun r dim => r.Fits (dim.lengthOr r.upper)) ranges dims := by
  have uppers : (bounds ranges).upper = ranges.map fun r => Value.int r.upper := by
    simp [bounds, SliceBounds.ofInts]
  have written : ((bounds ranges).upper.all Value.isShort && (Shape.ranked dims).isShort) = true := by
    simp only [SliceBounds.isShort, Bool.and_eq_true] at short
    rw [short.1.2, shapeShort, Bool.and_self]
  have checked := checkUpper_bounds kind written 0 ranks
  rw [← uppers] at checked
  exact checked

theorem checkRange_bounds (short : (bounds ranges).isShort = true)
    (shapeShort : (Shape.ofLengths extents).isShort = true)
    (ranks : ranges.length = extents.length) :
    (bounds ranges).checkRange kind (.ofLengths extents) = .ok () ↔
      List.Forall₂ Fits ranges extents := by
  rw [Shape.ofLengths] at shapeShort ⊢
  rw [checkRange_ranked kind short shapeShort (by simpa using ranks), List.forall₂_map_right_iff]
  rfl

private theorem select_bounds (fits : List.Forall₂ Fits ranges extents) :
    SliceBounds.select (ranges.map axis) extents = .ok (ranges.map progression) := by
  induction fits with
  | nil => rfl
  | cons fit _ ih =>
    simp only [List.map_cons, SliceBounds.select, progression_axis _ _ fit, ih, Outcome.ok_bind]
    rfl

theorem selection_bounds (fits : List.Forall₂ Fits ranges extents) :
    (bounds ranges).selection extents = .ok (ranges.map progression) := by
  have deep : ¬extents.length < (bounds ranges).axes.length := by
    simp [axes_bounds, fits.length_eq]
  rw [SliceBounds.selection, if_neg deep, axes_bounds]
  exact select_bounds fits

end Extents

/-! ### Coordinates -/

variable (ranges : List StridedRange) (index : List Nat)

/-- The position in a slice of a coordinate that all ranges select. -/
def positions : List Nat :=
  List.zipWith position ranges index

theorem positions?_progression (ranks : ranges.length = index.length) :
    Progression.positions? (ranges.map progression) index =
      if List.Forall₂ Selects ranges index then some (positions ranges index) else none := by
  induction ranges generalizing index with
  | nil =>
    have none : index = [] := List.length_eq_zero_iff.mp ranks.symm
    subst none
    rfl
  | cons r ranges ih =>
    obtain _ | ⟨i, index⟩ := index
    · simp at ranks
    have later := ih index (by simpa using ranks)
    simp only [List.map_cons, Progression.positions?, position?_progression, later,
      List.forall₂_cons]
    by_cases here : r.Selects i <;> by_cases there : List.Forall₂ Selects ranges index <;>
      simp [here, there, positions]

/-- The position of a coordinate lies in the shape of the slice. -/
theorem inBounds_positions (selected : List.Forall₂ Selects ranges index) :
    NDArray.InBounds (ranges.map length) (positions ranges index) := by
  induction selected with
  | nil => trivial
  | cons here _ ih => exact ⟨position_lt_length _ _ here, ih⟩

/-- The coordinate that an element of a slice comes from. -/
def sources : List Nat :=
  List.zipWith (fun r k => r.lower + k * r.stride) ranges index

theorem zipWith_nth : List.zipWith Progression.nth (ranges.map progression) index =
    sources ranges index := by
  rw [List.zipWith_map_left]
  simp only [nth_progression]
  rfl

theorem map_count_progression :
    (ranges.map progression).map Progression.count = ranges.map length := by
  rw [List.map_map]
  rfl

variable {ranges index} in
theorem selects_sources (inside : NDArray.InBounds (ranges.map length) index) :
    List.Forall₂ Selects ranges (sources ranges index) := by
  induction ranges generalizing index with
  | nil =>
    obtain _ | _ := index
    · exact .nil
    · exact inside.elim
  | cons r ranges ih =>
    obtain _ | ⟨k, index⟩ := index
    · exact inside.elim
    · exact .cons (r.selects_nth k inside.1) (ih inside.2)

variable {ranges index} in
/-- An element of a slice stands at its place in the slice. -/
theorem positions_sources (inside : NDArray.InBounds (ranges.map length) index) :
    positions ranges (sources ranges index) = index := by
  induction ranges generalizing index with
  | nil =>
    obtain _ | _ := index
    · rfl
    · exact inside.elim
  | cons r ranges ih =>
    obtain _ | ⟨k, index⟩ := index
    · exact inside.elim
    · exact congrArg₂ (· :: ·) (r.position_nth k) (ih inside.2)

variable {ranges index} in
/-- A coordinate that all ranges select is the one that its place in the slice comes from. -/
theorem sources_positions (selected : List.Forall₂ Selects ranges index) :
    sources ranges (positions ranges index) = index := by
  induction selected with
  | nil => rfl
  | @cons r i _ _ here _ ih => exact congrArg₂ (· :: ·) (r.nth_position i here) ih

/-- What a slice takes from an array lies in its shape. -/
theorem inBounds_sources (extents : List Nat) (fits : List.Forall₂ Fits ranges extents)
    (inside : NDArray.InBounds (ranges.map length) index) :
    NDArray.InBounds extents (sources ranges index) := by
  induction fits generalizing index with
  | nil =>
    cases index with
    | nil => trivial
    | cons => exact inside.elim
  | @cons r extent ranges extents fit _ ih =>
    cases index with
    | nil => exact inside.elim
    | cons k index =>
      have below := r.nth_lt_upper k inside.1
      exact ⟨Nat.lt_of_lt_of_le below fit, ih index inside.2⟩

/-! ### Elements

What is taken and what is put, whatever the elements are. -/

section Elements

variable {α : Type} [Inhabited α] {ranges}

theorem take_ranges (a : NDArray α) : a.take (ranges.map progression) =
    .ofFn (ranges.map length) fun index => a.get (sources ranges index) := by
  simp only [NDArray.take, map_count_progression, zipWith_nth]

/-- Nothing is spread where the value has the shape of the slice. -/
theorem put_ranges {a b : NDArray α} (fits : List.Forall₂ Fits ranges a.shape)
    (shape : b.shape = ranges.map length) :
    a.put (ranges.map progression) b = .ofFn a.shape fun index =>
      if List.Forall₂ Selects ranges index then b.get (positions ranges index)
      else a.get index := by
  refine NDArray.ofFn_congr a.shape _ _ fun index inside => ?_
  have ranks : ranges.length = index.length := by
    rw [fits.length_eq, NDArray.inBounds_length a.shape index inside]
  rw [positions?_progression ranges index ranks]
  by_cases selected : List.Forall₂ Selects ranges index
  · have place : NDArray.InBounds b.shape (positions ranges index) := by
      rw [shape]
      exact inBounds_positions ranges index selected
    have spread := NDArray.spreadIndex_self b.shape (positions ranges index) place
    simp only [if_pos selected]
    exact congrArg _ spread
  · simp only [if_neg selected]

end Elements

end StridedRange

end OpGraph
