import OpGraph.Proofs.Operator.Findings

/-!
# Stages of slices

`Slice` and `ReplaceSlice` report the first of what is wrong with their bounds and operands: bounds
axis by axis, each axis against its extent, and at last the shape of what is written.
-/
namespace OpGraph

/-! ### Bounds -/

namespace SliceBounds

variable (kind : String) (bounds : SliceBounds)

theorem AxisFinds.turn {bounds : SliceBounds} {index : Nat} {axis : SliceAxis} {v : Violation}
    (found : bounds.AxisFinds index axis v) : ∃ check, v.turn = [3, 1, index, check] := by
  cases found <;> exact ⟨_, rfl⟩

theorem AxisFinds.stage {bounds : SliceBounds} {index : Nat} {axis : SliceAxis} {v : Violation}
    (found : bounds.AxisFinds index axis v) : v.stage = .attributes := by
  cases found <;> rfl

/-- The messages about one axis have nothing in them but the bounds. -/
private theorem isShort_axis {bounds : SliceBounds} (short : bounds.isShort = true) (index : Nat) :
    (Violation.negativeLower index bounds).isShort = true ∧
      (Violation.lowerAboveUpper index bounds).isShort = true ∧
      (Violation.zeroSliceStride index bounds).isShort = true ∧
      (Violation.negativeSliceStride index bounds).isShort = true := by
  simp only [SliceBounds.isShort, Bool.and_eq_true] at short
  simp [Violation.isShort, Violation.phrases, Phrase.isShort, short]

private theorem reportsFirst_checkAxis {bounds : SliceBounds} (short : bounds.isShort = true)
    (index : Nat) (lower upper stride : Int) :
    ReportsFirst kind ∅ (bounds.AxisFinds index ⟨.int lower, .int upper, .int stride⟩)
      (bounds.checkAxis kind index ⟨.int lower, .int upper, .int stride⟩) := by
  simp only [checkAxis, Number.ofValue_int, Outcome.ok_bind]
  obtain ⟨writtenLower, writtenBoth, writtenZero, writtenStride⟩ := isShort_axis short index
  have nonnegative : (Number.int lower).isNonNegative = false ↔ lower < 0 := by
    rw [← Bool.not_eq_true, Number.isNonNegative_int, Int.not_le]
  have ordered : (Number.int lower).lessEq (.int upper) = false ↔ upper < lower := by
    rw [← Bool.not_eq_true, Number.lessEq_int, Int.not_le]
  have zero : (!(Value.int stride).equalsInt 0) = false ↔ stride = 0 := by
    rw [Bool.not_eq_false', Value.equalsInt_int]
  have positive (nonzero : stride ≠ 0) : (Number.int stride).isPositive = false ↔ stride < 0 := by
    rw [← Bool.not_eq_true, Number.isPositive_int]
    omega
  -- The four checks in their order; what each compares are two integers.
  refine .congr (fun v => lower < 0 ∧ v = .negativeLower index bounds ∨
    upper < lower ∧ v = .lowerAboveUpper index bounds ∨
    stride = 0 ∧ v = .zeroSliceStride index bounds ∨
    stride < 0 ∧ v = .negativeSliceStride index bounds) ?_ rfl fun v => ?_
  · refine .require_bind writtenLower nonnegative (fun _ => ?_) ?_
    · refine .require_bind writtenBoth ordered (fun _ => ?_) ?_
      · refine .require_bind writtenZero zero
          (fun nonzero => .require_short writtenStride (positive nonzero)) ?_
        rintro _ ⟨-, rfl⟩
        simp
      · rintro _ (⟨-, rfl⟩ | ⟨-, rfl⟩) <;>
          simp
    · rintro _ (⟨-, rfl⟩ | ⟨-, rfl⟩ | ⟨-, rfl⟩) <;>
        simp
  · constructor
    · rintro (⟨negative, rfl⟩ | ⟨above, rfl⟩ | ⟨rfl, rfl⟩ | ⟨negative, rfl⟩)
      · exact .negativeLower negative
      · exact .lowerAboveUpper above
      · exact .zeroStride
      · exact .negativeStride negative
    · intro found
      cases found with
      | negativeLower negative => exact .inl ⟨negative, rfl⟩
      | lowerAboveUpper above => exact .inr (.inl ⟨above, rfl⟩)
      | zeroStride => exact .inr (.inr (.inl ⟨rfl, rfl⟩))
      | negativeStride negative => exact .inr (.inr (.inr ⟨negative, rfl⟩))

/-- What is wrong with the axes from one on. -/
def FindsFrom (index : Nat) (axes : List SliceAxis) (v : Violation) : Prop :=
  ∃ i axis, axes[i]? = some axis ∧ bounds.AxisFinds (index + i) axis v

theorem findsFrom_cons (index : Nat) (axis : SliceAxis) (axes : List SliceAxis) (v : Violation) :
    bounds.AxisFinds index axis v ∨ bounds.FindsFrom (index + 1) axes v ↔
      bounds.FindsFrom index (axis :: axes) v := by
  constructor
  · rintro (found | ⟨i, axis', known, found⟩)
    · exact ⟨0, axis, rfl, found⟩
    · exact ⟨i + 1, axis', known, by rwa [← Nat.add_assoc, Nat.add_right_comm]⟩
  · rintro ⟨_ | i, axis', known, found⟩
    · cases known
      exact .inl found
    · exact .inr ⟨i, axis', known, by rwa [Nat.add_right_comm, Nat.add_assoc]⟩

private theorem reportsFirst_checkAxes {bounds : SliceBounds} (short : bounds.isShort = true)
    (index : Nat) (lower upper strides : List Int) :
    ReportsFirst kind ∅ (bounds.FindsFrom index (ofInts lower upper strides).axes)
      (bounds.checkAxes kind index (ofInts lower upper strides).axes) := by
  have nothing (index : Nat) : ReportsFirst kind ∅ (bounds.FindsFrom index []) (.ok ()) :=
    .passed () (fun v ⟨_, _, known, _⟩ => nomatch known) nofun
  -- The axes are as many as the shortest of the three lists has entries.
  induction lower generalizing index upper strides with
  | nil => exact nothing index
  | cons l lower ih =>
    cases upper with
    | nil => exact nothing index
    | cons u upper =>
      cases strides with
      | nil => exact nothing index
      | cons s strides =>
        refine ((reportsFirst_checkAxis kind short index l u s).bind_plain
          (fun _ _ => ih (index + 1) upper strides) ?_ nofun).congr _ rfl
          fun v => findsFrom_cons bounds index _ _ v
        -- Turns of two axes differ in the axis, whichever checks they are of.
        rintro v v' found ⟨i, axis, -, found'⟩
        obtain ⟨check, turn⟩ := found.turn
        obtain ⟨check', turn'⟩ := found'.turn
        rw [turn, turn']
        simp
        omega

theorem Finds.stage {bounds : SliceBounds} {v : Violation} (found : bounds.Finds v) :
    v.stage = .attributes := by
  cases found with
  | ranks => rfl
  | axis _ found => exact found.stage

theorem reportsFirst_check (lower upper strides : List Int) :
    ReportsFirst kind
      {stage | (ofInts lower upper strides).isShort = false ∧ stage = .attributes}
      (ofInts lower upper strides).Finds ((ofInts lower upper strides).check kind) := by
  let bounds := ofInts lower upper strides
  have ranks : (bounds.lower.length == bounds.upper.length &&
      bounds.lower.length == bounds.strides.length) = false ↔
      ¬(bounds.lower.length = bounds.upper.length ∧
        bounds.lower.length = bounds.strides.length) := by
    rw [← Bool.not_eq_true]
    simp
  -- The first message has all of the bounds in it.
  have first := ReportsFirst.require kind (.boundRanks bounds) ranks
  rw [StridedRange.isShort_boundRanks] at first
  have axes (short : bounds.isShort = true) :=
    reportsFirst_checkAxes kind short 0 lower upper strides
  refine (first.bind_plain (fun _ passed => axes ?_) ?_ ?_).congr _ rfl fun v => ?_
  · rw [Outcome.require_eq_ok, StridedRange.isShort_boundRanks] at passed
    exact passed.1
  · rintro _ v' ⟨-, rfl⟩ ⟨i, axis, -, found⟩
    obtain ⟨check, turn⟩ := found.turn
    rw [turn]
    simp
  · rintro stage ⟨-, rfl⟩ v' ⟨i, axis, -, found⟩
    rw [found.stage, Violation.stage]
  · constructor
    · rintro (⟨apart, rfl⟩ | ⟨i, axis, known, found⟩)
      · exact .ranks apart
      · rw [Nat.zero_add] at found
        exact .axis known found
    · rintro (apart | ⟨known, found⟩)
      · exact .inl ⟨apart, rfl⟩
      · exact .inr ⟨_, _, known, by rwa [Nat.zero_add]⟩

/-! ### Bounds and shapes -/

/-- What is wrong with the upper bounds of the axes from one on. -/
def ExceedsFrom (shape : Shape) (index : Nat) (uppers : List Int) (dims : List Dimension)
    (v : Violation) : Prop :=
  ∃ (i : Nat) (upper : Int) (length : Nat), uppers[i]? = some upper ∧
    dims[i]? = some (.static length) ∧ length < upper ∧
    v = .upperOutOfRange (index + i) bounds.upper shape

private theorem reportsFirst_checkUpper (bounds : SliceBounds) (shape : Shape)
    (written : (bounds.upper.all Value.isShort && shape.isShort) = true) (index : Nat)
    (uppers : List Int) (dims : List Dimension) :
    ReportsFirst kind ∅ (bounds.ExceedsFrom shape index uppers dims)
      (bounds.checkUpper kind shape index (uppers.map .int) dims) := by
  have short : ∀ index, (Violation.upperOutOfRange index bounds.upper shape).isShort = true := by
    simpa [Violation.isShort, Violation.phrases, Phrase.isShort] using written
  induction uppers generalizing index dims with
  | nil =>
    refine .passed () ?_ Set.notMem_empty
    rintro v ⟨_, _, _, known, -⟩
    cases known
  | cons u uppers ih =>
    cases dims with
    | nil =>
      refine .passed () ?_ Set.notMem_empty
      rintro v ⟨_, _, _, -, known, -⟩
      cases known
    | cons dim dims =>
      have first : ReportsFirst kind ∅
          (fun v => (∃ length : Nat, dim = .static length ∧ length < u) ∧
            v = .upperOutOfRange index bounds.upper shape ∨
              bounds.ExceedsFrom shape (index + 1) uppers dims v)
          (bounds.checkUpper kind shape index ((u :: uppers).map .int) (dim :: dims)) := by
        have before (v' : Violation) (found : bounds.ExceedsFrom shape (index + 1) uppers dims v') :
            (Violation.upperOutOfRange index bounds.upper shape).turn < v'.turn := by
          obtain ⟨i, _, _, -, -, -, rfl⟩ := found
          simp
          omega
        simp only [List.map_cons, checkUpper, Number.ofValue_int, Outcome.ok_bind]
        -- An unknown extent checks nothing; a known one compares two integers.
        cases dim with
        | dynamic =>
          rw [pure_bind]
          exact .require_bind (short index) (by simp) (fun _ => ih (index + 1) dims) before
        | static length =>
          refine .require_bind (short index) ?_ (fun _ => ih (index + 1) dims) before
          rw [← Bool.not_eq_true, Number.lessEq_int, Int.not_le]
          simp
      refine first.congr _ rfl fun v => ?_
      constructor
      · rintro (⟨⟨length, rfl, beyond⟩, rfl⟩ | ⟨i, upper, length, known, known', beyond, rfl⟩)
        · exact ⟨0, u, length, rfl, rfl, beyond, rfl⟩
        · refine ⟨i + 1, upper, length, known, known', beyond, ?_⟩
          rw [Nat.add_right_comm, Nat.add_assoc]
      · rintro ⟨_ | i, upper, length, known, known', beyond, rfl⟩
        · cases known
          cases known'
          exact .inl ⟨⟨length, rfl, beyond⟩, rfl⟩
        · refine .inr ⟨i, upper, length, known, known', beyond, ?_⟩
          rw [Nat.add_right_comm, Nat.add_assoc]

theorem reportsFirst_checkRange (lower upper strides : List Int) {shape : Shape}
    (short : (ofInts lower upper strides).isShort = true) (shapeShort : shape.isShort = true) :
    ReportsFirst kind ∅
      (fun v => ∃ index, (ofInts lower upper strides).Exceeds shape index ∧
        v = .upperOutOfRange index (ofInts lower upper strides).upper shape)
      ((ofInts lower upper strides).checkRange kind shape) := by
  simp only [isShort, Bool.and_eq_true] at short
  cases shape with
  | dynamicRank =>
    refine .passed () ?_ Set.notMem_empty
    rintro v ⟨_, ⟨_, _, _, known, -⟩, -⟩
    cases known
  | ranked dims =>
    have checked := reportsFirst_checkUpper kind (ofInts lower upper strides) (.ranked dims)
      (by rw [short.1.2, shapeShort, Bool.and_self]) 0 upper dims
    refine checked.congr _ rfl fun v => ?_
    constructor
    · rintro ⟨i, u, length, known, known', beyond, rfl⟩
      rw [Nat.zero_add]
      exact ⟨i, ⟨dims, u, length, rfl, by simp [ofInts, known], known', beyond⟩, rfl⟩
    · rintro ⟨i, ⟨_, u, length, ⟨⟩, known, known', beyond⟩, rfl⟩
      refine ⟨i, u, length, ?_, known', beyond, by rw [Nat.zero_add]⟩
      simpa [ofInts] using known

theorem fitsRank_eq_false {rank : Dimension} :
    bounds.fitsRank rank = false ↔ rank.Differ (.static bounds.rank) := by
  cases rank <;> simp [fitsRank, Dimension.Differ]

end SliceBounds

/-! ### Operators -/

theorem Slice.violates_iff (bounds : SliceBounds) (input : TensorType) (v : Violation) :
    Operator.Violates (.slice bounds) [input] v ↔ bounds.Finds v ∨
      input.shape.rank.Differ (.static bounds.rank) ∧ v = .sliceRank bounds input.shape ∨
      ∃ axis, bounds.Exceeds input.shape axis ∧
        v = .upperOutOfRange axis bounds.upper input.shape := by
  constructor
  · intro found
    cases found with
    | count takes wrong =>
      cases takes
      exact absurd rfl wrong
    | slice found => exact .inl found
    | sliceRank wrong => exact .inr (.inl ⟨wrong, rfl⟩)
    | sliceRange beyond => exact .inr (.inr ⟨_, beyond, rfl⟩)
  · rintro (found | ⟨wrong, rfl⟩ | ⟨axis, beyond, rfl⟩)
    · exact .slice found
    · exact .sliceRank wrong
    · exact .sliceRange beyond

/-- What is too long in a slice: its bounds, or the shape of its input. -/
theorem Slice.overlong_eq (bounds : SliceBounds) (input : TensorType) :
    {stage | Operator.Overlong (.slice bounds) [input] stage} =
      {stage | bounds.isShort = false ∧ stage = .attributes} ∪
        {stage | input.isShort = false ∧ stage = .attributesFit} := by
  ext stage
  constructor
  · intro long
    cases long with
    | slice many => exact .inl ⟨many, rfl⟩
    | sliceInput many => exact .inr ⟨many, rfl⟩
    | window many => cases many
  · rintro (⟨many, rfl⟩ | ⟨many, rfl⟩)
    · exact .slice many
    · exact .sliceInput many

theorem Slice.reportsFirst_infer (lower upper strides : List Int) (inputs : List TensorType) :
    ReportsFirst kind {stage | Operator.Overlong (.slice (.ofInts lower upper strides)) inputs stage}
      (Operator.Violates (.slice (.ofInts lower upper strides)) inputs)
      (infer (.ofInts lower upper strides) inputs) := by
  unfold infer
  split
  next input =>
    refine .congr _ ?_ (overlong_eq _ input).symm fun v => (violates_iff _ input v).symm
    refine (SliceBounds.reportsFirst_check kind lower upper strides).bind_stage .attributes
      (fun _ checked => ?_) (fun v found => found.stage) ?_ ?_ ?_
    · obtain ⟨short, ranges, same⟩ :=
        (StridedRange.check_ofInts kind lower upper strides).mp checked
      have rank := ReportsFirst.require kind
        (.sliceRank (.ofInts lower upper strides) input.shape)
        (@SliceBounds.fitsRank_eq_false (.ofInts lower upper strides) input.shape.rank)
      rw [StridedRange.isShort_sliceRank, short, Bool.true_and] at rank
      refine rank.bind_plain (fun _ passed => ?_) ?_ ?_
      · rw [Outcome.require_eq_ok, StridedRange.isShort_sliceRank, short, Bool.true_and] at passed
        refine (SliceBounds.reportsFirst_checkRange kind lower upper strides short
          passed.1).bind_ok fun _ _ => ?_
        -- Bounds that were checked are those of ranges, which have a shape.
        rw [same, StridedRange.shape_bounds]
        exact ⟨_, rfl⟩
      · rintro _ _ ⟨-, rfl⟩ ⟨axis, -, rfl⟩
        simp
      · rintro _ ⟨-, rfl⟩ _ ⟨axis, -, rfl⟩
        simp
    · rintro _ ⟨-, rfl⟩
      rfl
    · rintro _ (⟨-, rfl⟩ | ⟨axis, -, rfl⟩) <;>
        simp
    · rintro _ ⟨-, rfl⟩
      simp
  next other =>
    refine Operator.reportsFirst_count rfl fun one => ?_
    obtain ⟨input, rfl⟩ := List.length_eq_one_iff.mp one
    exact other input rfl

namespace ReplaceSlice

theorem violates_iff (bounds : SliceBounds) (target replacement : TensorType) (v : Violation) :
    Operator.Violates (.replaceSlice bounds) [target, replacement] v ↔
      target.shape.rank.Differ replacement.shape.rank ∧
        v = .argumentRanks target.shape replacement.shape ∨
      target.etype.Differ replacement.etype ∧
        v = .argumentElements target.etype replacement.etype ∨
      bounds.Finds v ∨
      (target.shape.rank.Differ (.static bounds.rank) ∨
        replacement.shape.rank.Differ (.static bounds.rank)) ∧ v = .replacedRank bounds ∨
      (∃ axis, bounds.Exceeds target.shape axis ∧
        v = .upperOutOfRange axis bounds.upper target.shape) ∨
      ∃ ranges, bounds = StridedRange.bounds ranges ∧
        replacement.shape.compatible (.ofLengths (ranges.map StridedRange.length)) = false ∧
        v = .replacementShape replacement.shape
          (.ofLengths (ranges.map StridedRange.length)) := by
  constructor
  · intro found
    cases found with
    | count takes wrong =>
      cases takes
      exact absurd rfl wrong
    | replaceRanks apart => exact .inl ⟨apart, rfl⟩
    | replaceElements apart => exact .inr (.inl ⟨apart, rfl⟩)
    | replaceSlice found => exact .inr (.inr (.inl found))
    | replacedRank wrong => exact .inr (.inr (.inr (.inl ⟨wrong, rfl⟩)))
    | replacedRange beyond => exact .inr (.inr (.inr (.inr (.inl ⟨_, beyond, rfl⟩))))
    | replacementShape same apart =>
      exact .inr (.inr (.inr (.inr (.inr ⟨_, same, apart, rfl⟩))))
  · rintro (⟨apart, rfl⟩ | ⟨apart, rfl⟩ | found | ⟨wrong, rfl⟩ | ⟨axis, beyond, rfl⟩ |
      ⟨ranges, same, apart, rfl⟩)
    · exact .replaceRanks apart
    · exact .replaceElements apart
    · exact .replaceSlice found
    · exact .replacedRank wrong
    · exact .replacedRange beyond
    · exact .replacementShape same apart

private theorem reportsFirst_requireRank (target replacement : Shape) :
    ReportsFirst kind
      {stage | (target.isShort = false ∨ replacement.isShort = false) ∧ stage = .inputRanks}
      (fun v => target.rank.Differ replacement.rank ∧ v = .argumentRanks target replacement)
      (requireRank target replacement) := by
  have written : (Violation.argumentRanks target replacement).isShort =
      (target.isShort && replacement.isShort) := by
    simp [Violation.isShort, Violation.phrases, Phrase.isShort]
  rw [← Bool.and_eq_false_iff, ← written, ← Dimension.merge_eq_none]
  unfold requireRank Violation.write
  cases short : (Violation.argumentRanks target replacement).isShort with
  | false =>
    rw [writeWhen_of_long _ rfl, Outcome.error_bind]
    refine .digits .inputRanks ⟨rfl, rfl⟩ ?_
    rintro _ ⟨-, rfl⟩
    simp
  | true =>
    rw [writeWhen_of_short _ rfl, Outcome.ok_bind]
    cases target.rank.merge replacement.rank with
    | none =>
      exact .reported _ ⟨rfl, rfl⟩ (fun v' here => .inl here.2) fun _ many => Bool.noConfusion many.1
    | some rank =>
      exact .passed rank (fun v here => Option.some_ne_none rank here.1)
        fun _ many => Bool.noConfusion many.1

/-- What is written against the slice that it is written to, which has a shape. -/
private theorem reportsFirst_written {ranges : List StridedRange} {target replacement : Shape}
    (short : (StridedRange.bounds ranges).isShort = true)
    (replacementShort : replacement.isShort = true) (etype : ElementType) :
    ReportsFirst kind ∅
      (fun v => ∃ ranges', StridedRange.bounds ranges = StridedRange.bounds ranges' ∧
        replacement.compatible (.ofLengths (ranges'.map StridedRange.length)) = false ∧
        v = .replacementShape replacement (.ofLengths (ranges'.map StridedRange.length)))
      (do
        let slice ← (StridedRange.bounds ranges).shape
        require kind (replacement.compatible slice) (.replacementShape replacement slice)
        return [⟨outputShape (StridedRange.bounds ranges) target, etype⟩] :
        Except Failure (List TensorType)) := by
  have written : (Violation.replacementShape replacement
      (.ofLengths (ranges.map StridedRange.length))).isShort = true := by
    simp [Violation.isShort, Violation.phrases, Phrase.isShort, replacementShort,
      StridedRange.isShort_lengths short]
  rw [StridedRange.shape_bounds, Outcome.ok_bind]
  refine ((ReportsFirst.require_short written Iff.rfl).bind_ok fun _ _ => ⟨_, rfl⟩).congr _ rfl
    fun v => ?_
  constructor
  · rintro ⟨apart, rfl⟩
    exact ⟨ranges, rfl, apart, rfl⟩
  · rintro ⟨ranges', same, apart, rfl⟩
    -- Bounds have one shape, whichever ranges they are taken for.
    have one : Shape.ofLengths (ranges'.map StridedRange.length) =
        .ofLengths (ranges.map StridedRange.length) := by
      rw [← Except.ok.injEq, ← StridedRange.shape_bounds, ← StridedRange.shape_bounds, same]
    rw [one] at apart ⊢
    exact ⟨apart, rfl⟩

/-- What is too long in a replacement: the shapes of its inputs, or its bounds. -/
theorem overlong_eq (bounds : SliceBounds) (target replacement : TensorType) :
    {stage | Operator.Overlong (.replaceSlice bounds) [target, replacement] stage} =
      {stage | (target.isShort = false ∨ replacement.isShort = false) ∧ stage = .inputRanks} ∪
        {stage | bounds.isShort = false ∧ stage = .attributes} := by
  ext stage
  constructor
  · intro long
    cases long with
    | replaceInputs many => exact .inl ⟨many, rfl⟩
    | replaceSlice many => exact .inr ⟨many, rfl⟩
    | window many => cases many
  · rintro (⟨many, rfl⟩ | ⟨many, rfl⟩)
    · exact .replaceInputs many
    · exact .replaceSlice many

theorem reportsFirst_infer (lower upper strides : List Int) (inputs : List TensorType) :
    ReportsFirst kind
      {stage | Operator.Overlong (.replaceSlice (.ofInts lower upper strides)) inputs stage}
      (Operator.Violates (.replaceSlice (.ofInts lower upper strides)) inputs)
      (infer (.ofInts lower upper strides) inputs) := by
  unfold infer
  split
  next target replacement =>
    refine .congr _ ?_ (overlong_eq _ target replacement).symm
      fun v => (violates_iff _ target replacement v).symm
    -- One bind for each check, in the order of the code; what is left of each is that its findings
    -- come before those of the checks behind it.
    refine (reportsFirst_requireRank _ _).bind_stage .inputRanks (fun rank merged => ?_) ?_ ?_ ?_ ?_
    · obtain ⟨⟨targetShort, replacementShort⟩, ranks⟩ := requireRank_eq_ok.mp merged
      refine (ReportsFirst.requireElements _ _ _).bind_short (fun etype _ => ?_) ?_ ?_
      · refine (SliceBounds.reportsFirst_check kind lower upper strides).bind_plain
          (fun _ checked => ?_) ?_ ?_
        · obtain ⟨short, ranges, same⟩ :=
            (StridedRange.check_ofInts kind lower upper strides).mp checked
          have written : (Violation.replacedRank (.ofInts lower upper strides)).isShort = true := by
            rw [StridedRange.isShort_replacedRank, short]
          refine .require_bind written ((SliceBounds.fitsRank_eq_false _).trans
            (Dimension.differ_of_merge ranks)) (fun _ => ?_) ?_
          · refine (SliceBounds.reportsFirst_checkRange kind lower upper strides short
              targetShort).bind_plain (fun _ _ => ?_) ?_ nofun
            · rw [same] at short ⊢
              exact reportsFirst_written short replacementShort etype
            · rintro _ _ ⟨_, -, rfl⟩ ⟨_, -, -, rfl⟩
              exact Violation.turn_lt_of_stage (by simp)
          · rintro _ (⟨_, -, rfl⟩ | ⟨_, -, -, rfl⟩) <;>
              simp
        · rintro v _ found (⟨-, rfl⟩ | ⟨_, -, rfl⟩ | ⟨_, -, -, rfl⟩) <;>
            exact Violation.turn_lt_of_stages found.stage rfl (by simp)
        · rintro _ ⟨-, rfl⟩ _ (⟨-, rfl⟩ | ⟨_, -, rfl⟩ | ⟨_, -, -, rfl⟩) <;>
            simp
      · rintro _ v' ⟨-, rfl⟩ (found | ⟨-, rfl⟩ | ⟨_, -, rfl⟩ | ⟨_, -, -, rfl⟩)
        · exact Violation.turn_lt_of_stages rfl found.stage (by simp)
        all_goals exact Violation.turn_lt_of_stage (by simp)
      · rintro _ ⟨-, rfl⟩ _ ⟨-, rfl⟩
        simp
    · rintro _ ⟨-, rfl⟩
      rfl
    · rintro _ ⟨-, rfl⟩
      rfl
    · rintro v' (⟨-, rfl⟩ | found | ⟨-, rfl⟩ | ⟨_, -, rfl⟩ | ⟨_, -, -, rfl⟩)
      case inr.inl =>
        rw [found.stage]
        simp
      all_goals simp
    · rintro _ ⟨-, rfl⟩
      simp
  next other =>
    refine Operator.reportsFirst_count rfl fun two => ?_
    obtain ⟨target, replacement, rfl⟩ := List.length_eq_two.mp two
    exact other target replacement rfl

end ReplaceSlice

end OpGraph
