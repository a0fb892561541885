import OpGraph.Proofs.Operator.Evaluation

/-!
# Inferred types can be written

Every dimension that an operator of the library infers is one of its inputs or was counted from
numbers that stood in the message of a check before: the length of a slice is no greater than its
upper bound (`SliceAxis.isShort_dim`) and the places of a window are no more than the padded
extent (`Convolution.isShort_spatialDim`). So what is inferred can be written
(`Operator.areShort_of_infer`), whatever the attributes are. There is one type, but for generic
operators (`Operator.infer_single`).
-/
namespace OpGraph

namespace Number

/-- Only integers make integers. -/
theorem lift_eq_int {onInts : Int → Int → Except Failure Int}
    {onReals : Real64 → Real64 → Except Failure Real64} {a b : Number} {n : Int} :
    lift onInts onReals a b = .ok (.int n) ↔
      ∃ x y, a = .int x ∧ b = .int y ∧ onInts x y = .ok n := by
  cases a <;> cases b <;> simp only [lift, Outcome.bind_eq_ok, Outcome.pure_eq_ok, int.injEq,
    reduceCtorEq, false_and, and_false, exists_false, exists_eq_right, exists_and_left,
    exists_eq_left']

/-- The number that a value counts as is no longer than the value. -/
theorem isShort_of_ofValue {value : Value} {n : Int} (read : ofValue value = .ok (.int n))
    (short : value.isShort = true) : Text.isShort n = true := by
  cases value with
  | int m =>
    cases read
    exact short
  | bool flag =>
    cases read
    cases flag <;> decide
  | _ => cases read

end Number

theorem Dimension.ofNumber_eq_ok {number : Number} {dim : Dimension} :
    ofNumber number = .ok dim ↔ ∃ length : Nat, number = .int length ∧ dim = .static length := by
  cases number with
  | real value => simp [ofNumber, ofValue, Number.toValue]
  | int n =>
    cases n with
    | ofNat length =>
      constructor
      · intro made
        cases made
        exact ⟨length, rfl, rfl⟩
      · rintro ⟨_, same, rfl⟩
        cases same
        rfl
    | negSucc n =>
      simp only [ofNumber, ofValue, Number.toValue, ofInt, Failure.raise_ne_ok, Number.int.injEq,
        false_iff]
      rintro ⟨length, negative, -⟩
      cases negative

/-! ### Slices -/

/-- A started step is at least one long. -/
private theorem fdiv_add_le {extent step : Int} (positive : 0 < step) (nonneg : 0 ≤ extent) :
    extent.fdiv step + (if (Number.int (extent.fmod step)).isZero then 0 else 1) ≤ extent := by
  have split := Int.mul_fdiv_add_fmod extent step
  have whole : 0 ≤ extent.fdiv step := Int.fdiv_nonneg nonneg (by omega)
  have rest : 0 ≤ extent.fmod step := Int.fmod_nonneg_of_pos extent positive
  have steps : extent.fdiv step ≤ step * extent.fdiv step :=
    calc extent.fdiv step = 1 * extent.fdiv step := (Int.one_mul _).symm
      _ ≤ step * extent.fdiv step := Int.mul_le_mul_of_nonneg_right (by omega) whole
  split
  · omega
  next started =>
    have left : extent.fmod step ≠ 0 := by simpa [Number.isZero] using started
    omega

namespace SliceAxis

/-- What the checks of a slice say about one axis. -/
structure IsChecked (axis : SliceAxis) : Prop where
  lower : ∃ n, Number.ofValue axis.lower = .ok n ∧ n.isNonNegative = true
  stride : ∃ n, Number.ofValue axis.stride = .ok n ∧ n.isPositive = true

theorem isShort_dim {axis : SliceAxis} {dim : Dimension} (isChecked : axis.IsChecked)
    (short : axis.upper.isShort = true) (made : axis.dim = .ok dim) : dim.isShort = true := by
  simp only [SliceAxis.dim, slicedLength, startedSteps, Outcome.bind_eq_ok,
    Dimension.ofNumber_eq_ok] at made
  obtain ⟨_, ⟨upper, readUpper, lower, readLower, extent, between, step, readStep, whole, divided,
    rest, remains, counted⟩, length, rfl, rfl⟩ := made
  -- All of these numbers are integers, since the length is one.
  obtain ⟨quotient, _, rfl, same, sum⟩ := Number.lift_eq_int.mp counted
  obtain ⟨x, s, rfl, rfl, quotients⟩ := Number.lift_eq_int.mp divided
  obtain ⟨u, l, rfl, rfl, difference⟩ := Number.lift_eq_int.mp between
  have positive : 0 < s := by
    obtain ⟨_, read, positive⟩ := isChecked.stride
    cases readStep.symm.trans read
    simpa using positive
  have nonneg : 0 ≤ l := by
    obtain ⟨_, read, nonneg⟩ := isChecked.lower
    cases readLower.symm.trans read
    simpa using nonneg
  have nonzero : s ≠ 0 := by omega
  rw [Number.floorMod_int x s nonzero] at remains
  rw [if_neg nonzero] at quotients
  cases remains
  cases quotients
  cases difference
  cases same
  have total : (length : Int) =
      (u - l).fdiv s + (if (Number.int ((u - l).fmod s)).isZero then 0 else 1) :=
    (Except.ok.inj sum).symm
  have short := Number.isShort_of_ofValue readUpper short
  refine Text.isShort_of_natAbs_le short ?_
  by_cases forward : 0 ≤ u - l
  · have bound := fdiv_add_le positive forward
    omega
  -- Bounds in the wrong order have no elements between them.
  · have below : (u - l).fdiv s < 0 := Int.fdiv_neg_of_neg_of_pos (by omega) positive
    have one : (if (Number.int ((u - l).fmod s)).isZero then (0 : Int) else 1) ≤ 1 := by
      split <;> omega
    omega

end SliceAxis

namespace SliceBounds

private theorem isChecked_of_checkAxes {kind : String} {bounds : SliceBounds} {index : Nat}
    {axes : List SliceAxis} (checked : checkAxes kind bounds index axes = .ok ()) :
    ∀ axis ∈ axes, axis.IsChecked := by
  induction axes generalizing index with
  | nil => exact nofun
  | cons axis axes ih =>
    simp only [checkAxes, checkAxis, Outcome.bind_eq_ok, Outcome.exists_unit,
      Outcome.require_eq_ok] at checked
    obtain ⟨⟨lower, readLower, ⟨-, nonneg⟩, _, -, -, -, stride, readStride, -, positive⟩, rest⟩ :=
      checked
    exact List.forall_mem_cons.mpr
      ⟨⟨⟨lower, readLower, nonneg⟩, ⟨stride, readStride, positive⟩⟩, ih rest⟩

private theorem mem_upper_of_axesOf {lowers uppers strides : List Value} :
    ∀ axis ∈ axesOf lowers uppers strides, axis.upper ∈ uppers := by
  fun_induction axesOf lowers uppers strides with
  | case1 lower lowers upper uppers stride strides ih =>
    intro axis member
    rcases List.mem_cons.mp member with rfl | later
    · exact List.mem_cons_self
    · exact List.mem_cons_of_mem _ (ih axis later)
  | case2 => exact nofun

theorem isShort_shape {kind : String} {bounds : SliceBounds} {slice : Shape}
    (short : bounds.isShort = true) (checked : bounds.check kind = .ok ())
    (made : bounds.shape = .ok slice) : slice.isShort = true := by
  simp only [check, Outcome.bind_eq_ok, Outcome.exists_unit] at checked
  obtain ⟨-, axes⟩ := checked
  simp only [isShort, Bool.and_eq_true, List.all_eq_true] at short
  have uppers := short.1.2
  simp only [shape, Outcome.bind_eq_ok, Outcome.mapM_eq_ok_iff, Outcome.pure_eq_ok] at made
  obtain ⟨dims, each, rfl⟩ := made
  rw [Shape.isShort, List.all_eq_true]
  intro dim member
  obtain ⟨axis, among, made⟩ := Outcome.forall₂_mem_left each.flip dim member
  exact SliceAxis.isShort_dim (isChecked_of_checkAxes axes axis among)
    (uppers _ (mem_upper_of_axesOf axis among)) made

end SliceBounds

theorem Slice.areShort_of_infer {bounds : SliceBounds} {inputs types : List TensorType}
    (accepted : infer bounds inputs = .ok types) : types.all TensorType.isShort = true := by
  match inputs with
  | [input] =>
    have short := (isShort_of_infer accepted).1
    simp only [infer, Outcome.bind_eq_ok, Outcome.exists_unit, Outcome.pure_eq_ok] at accepted
    obtain ⟨checked, -, -, slice, made, rfl⟩ := accepted
    simpa [TensorType.isShort] using SliceBounds.isShort_shape short checked made
  | [] | _ :: _ :: _ => simp [infer] at accepted

theorem ReplaceSlice.areShort_of_infer {bounds : SliceBounds} {inputs types : List TensorType}
    (accepted : infer bounds inputs = .ok types) : types.all TensorType.isShort = true := by
  match inputs with
  | [target, replacement] =>
    have known := (isShort_of_infer accepted).2.1
    simp only [infer, Outcome.bind_eq_ok, Outcome.exists_unit, Outcome.pure_eq_ok] at accepted
    obtain ⟨_, -, _, -, -, -, -, _, -, -, rfl⟩ := accepted
    cases shape : target.shape with
    | dynamicRank =>
      simp [TensorType.isShort, outputShape, Shape.ofRank, Shape.isShort, Dimension.isShort]
    | ranked dims =>
      rw [shape] at known
      simpa [TensorType.isShort, outputShape] using known
  | [] | [_] | _ :: _ :: _ :: _ => simp [infer] at accepted

/-! ### Products and convolutions -/

namespace Dot

theorem isShort_dims {shape : Shape} (short : shape.isShort = true) :
    (dims shape).1.isShort = true ∧ (dims shape).2.isShort = true := by
  unfold dims
  split
  · simpa [Shape.isShort] using short
  · exact ⟨rfl, rfl⟩

theorem areShort_of_infer {inputs types : List TensorType}
    (accepted : infer inputs = .ok types) : types.all TensorType.isShort = true := by
  match inputs with
  | [a, b] =>
    obtain ⟨first, second⟩ := isShort_of_infer accepted
    simp only [infer, Outcome.bind_eq_ok, Outcome.exists_unit, Outcome.pure_eq_ok] at accepted
    obtain ⟨-, -, _, -, -, rfl⟩ := accepted
    have rows := (isShort_dims first).1
    have columns := (isShort_dims second).2
    simp [TensorType.isShort, Shape.isShort, rows, columns]
  | [] | [_] | _ :: _ :: _ :: _ => simp [infer] at accepted

end Dot

namespace Convolution

theorem isShort_dataDims (channelsFirst : Bool) {shape : Shape} (short : shape.isShort = true) :
    (dataDims channelsFirst shape).1.isShort = true ∧
      (dataDims channelsFirst shape).2.1.isShort = true ∧
      (dataDims channelsFirst shape).2.2.1.isShort = true ∧
      (dataDims channelsFirst shape).2.2.2.isShort = true := by
  unfold dataDims
  split
  · simp only [Shape.isShort, List.all_cons, Bool.and_eq_true] at short
    split <;> simp [short]
  · exact ⟨rfl, rfl, rfl, rfl⟩

theorem isShort_filterDims (channelsFirst : Bool) {shape : Shape} (short : shape.isShort = true) :
    (filterDims channelsFirst shape).1.isShort = true ∧
      (filterDims channelsFirst shape).2.1.isShort = true ∧
      (filterDims channelsFirst shape).2.2.1.isShort = true ∧
      (filterDims channelsFirst shape).2.2.2.isShort = true := by
  unfold filterDims
  split
  · simp only [Shape.isShort, List.all_cons, Bool.and_eq_true] at short
    split <;> simp [short]
  · exact ⟨rfl, rfl, rfl, rfl⟩

/-- What the checks of the attributes say about one axis. -/
structure IsMoving (axis : SpatialAxis) : Prop where
  stride : ∃ n, Number.ofValue axis.stride = .ok n ∧ n.isPositive = true
  dilation : ∃ n, Number.ofValue axis.dilation = .ok n ∧ n.isPositive = true

private theorem isMoving_of_checkAxis {attrs : ConvolutionAttributes} {index : Nat}
    {axis : SpatialAxis} (checked : checkAxis attrs index axis = .ok ()) : IsMoving axis := by
  simp only [checkAxis, Outcome.bind_eq_ok, Outcome.exists_unit, Outcome.require_eq_ok] at checked
  obtain ⟨stride, readStride, ⟨-, moves⟩, dilation, readDilation, ⟨-, spread⟩, -⟩ := checked
  exact ⟨⟨stride, readStride, moves⟩, ⟨dilation, readDilation, spread⟩⟩

private theorem isMoving_of_checkAttributes {attrs : ConvolutionAttributes}
    {axes : SpatialAxis × SpatialAxis} (checked : checkAttributes attrs = .ok axes) :
    IsMoving axes.1 ∧ IsMoving axes.2 := by
  simp only [checkAttributes, Outcome.bind_eq_ok, Outcome.exists_unit, Outcome.pure_eq_ok] at checked
  obtain ⟨_, -, _, -, _, -, _, -, height, width, -, rfl⟩ := checked
  exact ⟨isMoving_of_checkAxis height, isMoving_of_checkAxis width⟩

private theorem one_le_window {length window : Nat} {dilation : Value} {n : Number}
    (nonempty : 0 < length) (read : Number.ofValue dilation = .ok n) (positive : n.isPositive = true)
    (made : windowDimension length dilation = .ok (.static window)) : 1 ≤ window := by
  simp only [windowDimension, Outcome.bind_eq_ok, Dimension.ofNumber_eq_ok, read, Except.ok.injEq,
    exists_eq_left'] at made
  obtain ⟨spread, times, _, sum, extent, rfl, same⟩ := made
  cases same
  obtain ⟨_, _, rfl, one, total⟩ := Number.lift_eq_int.mp sum
  obtain ⟨count, factor, counted, rfl, product⟩ := Number.lift_eq_int.mp times
  cases one
  cases counted
  cases product
  have positive : 0 < factor := by simpa using positive
  have spread : 0 ≤ ((length : Int) - 1) * factor := Int.mul_nonneg (by omega) (by omega)
  have total : ((length : Int) - 1) * factor + 1 = (window : Int) := Except.ok.inj total
  omega

private theorem places_le_padded {padded window places : Nat} {stride : Value} {n : Number}
    (nonempty : 1 ≤ window) (fits : window ≤ padded) (read : Number.ofValue stride = .ok n)
    (positive : n.isPositive = true)
    (made : placesDimension padded window stride = .ok (.static places)) : places ≤ padded := by
  simp only [placesDimension, Outcome.bind_eq_ok, Dimension.ofNumber_eq_ok, read, Except.ok.injEq,
    exists_eq_left'] at made
  obtain ⟨steps, divided, _, sum, extent, rfl, same⟩ := made
  cases same
  obtain ⟨quotient, _, rfl, one, total⟩ := Number.lift_eq_int.mp sum
  obtain ⟨room, step, left, rfl, quotients⟩ := Number.lift_eq_int.mp divided
  cases one
  cases left
  have positive : 0 < step := by simpa using positive
  rw [if_neg (by omega)] at quotients
  cases quotients
  have nonneg : 0 ≤ (padded : Int) - window := by omega
  have whole : 0 ≤ ((padded : Int) - window).fdiv step := Int.fdiv_nonneg nonneg (by omega)
  have bound := fdiv_add_le positive nonneg
  have total : ((padded : Int) - window).fdiv step + 1 = (places : Int) := Except.ok.inj total
  split at bound <;> omega

theorem isShort_spatialDim {index : Nat} {axis : SpatialAxis} {size kernel dim : Dimension}
    {data filters : Shape} (isMoving : IsMoving axis)
    (made : spatialDim index axis size kernel data filters = .ok dim) : dim.isShort = true := by
  unfold spatialDim at made
  simp only [Outcome.bind_eq_ok] at made
  obtain ⟨_, -, padded, -, made⟩ := made
  cases kernel with
  | dynamic =>
    cases made
    rfl
  | static length =>
    simp only [Outcome.bind_eq_ok, Outcome.exists_unit, Outcome.require_eq_ok] at made
    obtain ⟨⟨-, nonempty⟩, window, spread, made⟩ := made
    cases padded with
    | dynamic =>
      cases made
      rfl
    | static padded =>
      cases window with
      | dynamic =>
        cases made
        rfl
      | static window =>
        simp only [Outcome.bind_eq_ok, Outcome.exists_unit, Outcome.require_eq_ok,
          decide_eq_true_eq] at made nonempty
        obtain ⟨⟨written, fits⟩, counted⟩ := made
        obtain ⟨dilation, readDilation, dilates⟩ := isMoving.dilation
        obtain ⟨stride, readStride, moves⟩ := isMoving.stride
        obtain ⟨places, rfl⟩ : ∃ places, dim = .static places := by
          simp only [placesDimension, Outcome.bind_eq_ok, Dimension.ofNumber_eq_ok] at counted
          obtain ⟨_, -, _, -, _, -, places, -, rfl⟩ := counted
          exact ⟨places, rfl⟩
        -- The padded extent stands in the message, and there are no more places than that.
        have below := places_le_padded (one_le_window nonempty readDilation dilates spread) fits
          readStride moves counted
        simp only [Violation.isShort, Violation.phrases, List.all_cons, Phrase.isShort,
          Bool.and_eq_true] at written
        exact Text.isShort_of_natAbs_le written.2.2.2.1 below

theorem areShort_of_infer {attrs : ConvolutionAttributes} {inputs types : List TensorType}
    (accepted : infer attrs inputs = .ok types) : types.all TensorType.isShort = true := by
  match inputs with
  | [data, filters] =>
    obtain ⟨-, first, second⟩ := isShort_of_infer accepted
    simp only [infer, Outcome.bind_eq_ok, Outcome.exists_unit, Outcome.pure_eq_ok] at accepted
    obtain ⟨-, -, _, -, axes, checked, rows, high, columns, wide, -, rfl⟩ := accepted
    obtain ⟨height, width⟩ := isMoving_of_checkAttributes checked
    have batch := (isShort_dataDims attrs.isChannelsFirst first).1
    have channels := (isShort_filterDims attrs.isChannelsFirst second).1
    have rows := isShort_spatialDim height high
    have columns := isShort_spatialDim width wide
    unfold outputShape
    split <;> simp [TensorType.isShort, Shape.isShort, batch, channels, rows, columns]
  | [] | [_] | _ :: _ :: _ :: _ => simp [infer] at accepted

end Convolution

namespace Operator

/-- The operators that pass on what they are given. -/
def isGeneric : Operator → Bool
  | generic _ _ => true
  | _ => false

theorem areShort_of_infer {operator : Operator} (known : operator.isGeneric = false)
    (operation : operator.isParameter = false) {inputs types : List TensorType}
    (accepted : operator.infer inputs = .ok types) : types.all TensorType.isShort = true := by
  cases operator with
  | generic name attrs => cases known
  | parameter type => cases operation
  | convolution attrs => exact Convolution.areShort_of_infer accepted
  | replaceSlice bounds => exact ReplaceSlice.areShort_of_infer accepted
  | slice bounds => exact Slice.areShort_of_infer accepted
  | dot => exact Dot.areShort_of_infer accepted

theorem IsIntegral.isGeneric {operator : Operator} (integral : operator.IsIntegral) :
    operator.isGeneric = false := by
  cases integral <;> rfl

/-! ### How many types are inferred -/

/-- What is accepted has one output. -/
private def IsSingle (step : Except Failure (List TensorType)) : Prop :=
  ∀ types, step = .ok types → ∃ type, types = [type]

private theorem isSingle_pure (type : TensorType) : IsSingle (pure [type]) := by
  intro types same
  exact ⟨type, ((Outcome.pure_eq_ok _ _).mp same).symm⟩

private theorem isSingle_report (kind : String) (violation : Violation) :
    IsSingle (violation.report kind) := by
  intro types same
  exact ((Outcome.report_ne_ok kind violation types).mp same).elim

private theorem isSingle_bind {α : Type} {step : Except Failure α}
    {next : α → Except Failure (List TensorType)} (each : ∀ value, IsSingle (next value)) :
    IsSingle (step >>= next) := by
  intro types accepted
  obtain ⟨value, -, accepted⟩ := (Outcome.bind_eq_ok _ _ _).mp accepted
  exact each value types accepted

/-- An operator has one output, but for the generic ones, which pass their inputs on. -/
theorem infer_single {operator : Operator} {inputs types : List TensorType}
    (accepted : operator.infer inputs = .ok types) :
    (∃ name attrs, operator = .generic name attrs ∧ types = inputs) ∨ ∃ type, types = [type] := by
  cases operator with
  | generic name attrs =>
    cases accepted
    exact .inl ⟨name, attrs, rfl, rfl⟩
  -- Every other operator runs its checks one after another and then returns one type.
  | parameter type =>
    right
    suffices single : IsSingle (infer (.parameter type) inputs) from single types accepted
    cases inputs with
    | nil => exact isSingle_pure type
    | cons => exact isSingle_report _ _
  | convolution attrs =>
    right
    suffices single : IsSingle (Convolution.infer attrs inputs) from single types accepted
    unfold Convolution.infer
    split
    · iterate 7 refine isSingle_bind fun _ => ?_
      exact isSingle_pure _
    · exact isSingle_report _ _
  | replaceSlice bounds =>
    right
    suffices single : IsSingle (ReplaceSlice.infer bounds inputs) from single types accepted
    unfold ReplaceSlice.infer
    split
    · iterate 7 refine isSingle_bind fun _ => ?_
      exact isSingle_pure _
    · exact isSingle_report _ _
  | slice bounds =>
    right
    suffices single : IsSingle (Slice.infer bounds inputs) from single types accepted
    unfold Slice.infer
    split
    · iterate 4 refine isSingle_bind fun _ => ?_
      exact isSingle_pure _
    · exact isSingle_report _ _
  | dot =>
    right
    suffices single : IsSingle (Dot.infer inputs) from single types accepted
    unfold Dot.infer
    split
    · iterate 4 refine isSingle_bind fun _ => ?_
      exact isSingle_pure _
    · exact isSingle_report _ _

/-- An operator with integer attributes has one output. -/
theorem IsIntegral.infer_single {operator : Operator} (integral : operator.IsIntegral)
    {inputs types : List TensorType} (accepted : operator.infer inputs = .ok types) :
    ∃ type, types = [type] := by
  rcases Operator.infer_single accepted with ⟨name, attrs, rfl, -⟩ | single
  · cases integral
  · exact single

end Operator

end OpGraph
