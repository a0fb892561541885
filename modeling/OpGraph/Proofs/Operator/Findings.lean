import Mathlib.Data.Set.Basic
import OpGraph.Proofs.Operator.Evaluation
import OpGraph.Proofs.Operator.Overlong

/-!
# Findings

What there is to be found wrong with an operator and the types of its inputs, whichever of it a
check comes upon (`Operator.Violates`), and the turns in which the checks are made
(`Violation.turn`). A chain of checks whose turns come one after another reports the first finding
of all (`ReportsFirst.bind`), unless a message that is too long stands before it.
-/
namespace OpGraph

/-! ### Turns -/

namespace Violation

attribute [simp] stage List.cons_lt_cons_iff

/-- The attributes of a convolution with one entry per axis, as they are checked. -/
def pairNames : List String :=
  ["window_movement_strides", "window_dilation_strides", "padding_below", "padding_above"]

/-- When a check is made in its stage: before, at or after the axes, at which axis, and as which
of the checks there. -/
@[simp] def place : Violation → List Nat
  | attributeLength name _ => [0, pairNames.idxOf name, 0]
  | filtersRank _ => [0, 1, 0]
  | argumentRank position _ => [0, position, 0]
  | strideNotPositive axis _ | negativeLower axis _ | upperOutOfRange axis .. |
    emptyWindow axis _ => [1, axis, 0]
  | dilationNotPositive axis _ | lowerAboveUpper axis _ | windowTooLarge axis .. => [1, axis, 1]
  | negativePadding axis .. | zeroSliceStride axis _ => [1, axis, 2]
  | negativeSliceStride axis _ => [1, axis, 3]
  | dataFormat _ => [2, 0, 0]
  | _ => [0, 0, 0]

/-- When a check is made. Turns are compared number by number. -/
@[simp] def turn (violation : Violation) : List Nat :=
  violation.stage.index :: violation.place

variable {v v' : Violation}

theorem turn_lt_of_stage (earlier : v.stage.index < v'.stage.index) : v.turn < v'.turn :=
  List.cons_lt_cons_iff.mpr (.inl earlier)

theorem turn_lt_of_stages {stage stage' : Stage} (here : v.stage = stage)
    (later : v'.stage = stage') (earlier : stage.index < stage'.index) : v.turn < v'.turn :=
  turn_lt_of_stage (by rwa [here, later])

theorem stage_le_of_turn (before : v.turn = v'.turn ∨ v.turn < v'.turn) :
    v.stage.index ≤ v'.stage.index := by
  rcases before with same | before
  · exact Nat.le_of_eq (List.cons.inj same).1
  · rcases List.cons_lt_cons_iff.mp before with earlier | ⟨same, -⟩
    · exact Nat.le_of_lt earlier
    · exact Nat.le_of_eq same

end Violation

/-! ### Chains of checks -/

/-- What comes of a chain of checks for which there is `found` to be found and whose messages are
too `long` at some stages: nothing where there is neither. Otherwise it is the finding whose turn is
first or the failure to write a message, whichever is of the earlier stage. -/
inductive ReportsFirst {α : Type} (kind : String) (long : Set Stage) (found : Violation → Prop) :
    Except Failure α → Prop
  | passed (value : α) (nothing : ∀ v, ¬found v) (written : ∀ stage, stage ∉ long) :
    ReportsFirst kind long found (.ok value)
  | reported (v : Violation) (here : found v) (first : ∀ v', found v' → v' = v ∨ v.turn < v'.turn)
      (before : ∀ stage ∈ long, v.stage.index ≤ stage.index) :
    ReportsFirst kind long found (.error (.invalid kind none v))
  | digits (stage : Stage) (many : stage ∈ long)
      (before : ∀ v, found v → stage.index ≤ v.stage.index) :
    ReportsFirst kind long found (.error .numberTooLong)

namespace ReportsFirst

variable {α β : Type} {kind : String} {long long' : Set Stage} {found found' : Violation → Prop}

theorem congr (found : Violation → Prop) {step : Except Failure α}
    (first : ReportsFirst kind long found step) (stages : long = long')
    (same : ∀ v, found v ↔ found' v) : ReportsFirst kind long' found' step := by
  obtain rfl : found = found' := funext fun v => propext (same v)
  rwa [stages] at first

theorem outcome {step : Except Failure α} (first : ReportsFirst kind long found step) :
    ((∃ value, step = .ok value) ∧ (∀ v, ¬found v) ∧ ∀ stage, stage ∉ long) ∨
    (∃ v, step = .error (.invalid kind none v) ∧ found v ∧
      (∀ v', found v' → v' = v ∨ v.turn < v'.turn) ∧
      ∀ stage ∈ long, v.stage.index ≤ stage.index) ∨
    (step = .error .numberTooLong ∧
      ∃ stage ∈ long, ∀ v, found v → stage.index ≤ v.stage.index) := by
  cases first with
  | passed value nothing written => exact .inl ⟨⟨value, rfl⟩, nothing, written⟩
  | reported v here first before => exact .inr (.inl ⟨v, rfl, here, first, before⟩)
  | digits stage many before => exact .inr (.inr ⟨rfl, stage, many, before⟩)

/-- One check, on the violation that it is about. Its message is written in any case. -/
theorem require (kind : String) {holds : Bool} (violation : Violation) {fails : Prop}
    (same : holds = false ↔ fails) :
    ReportsFirst kind {stage | violation.isShort = false ∧ stage = violation.stage}
      (fun v => fails ∧ v = violation) (OpGraph.require kind holds violation) := by
  cases short : violation.isShort with
  | false =>
    rw [require_of_long short]
    refine .digits violation.stage ⟨rfl, rfl⟩ ?_
    rintro v ⟨-, rfl⟩
    exact Nat.le_refl _
  | true =>
    rw [require_of_short short]
    cases holds with
    | true =>
      have passes : ¬fails := fun fails => Bool.noConfusion (same.mpr fails)
      exact .passed () (fun v here => passes here.1) fun stage many => Bool.noConfusion many.1
    | false =>
      exact .reported violation ⟨same.mp rfl, rfl⟩ (fun v' here => .inl here.2)
        fun stage many => Bool.noConfusion many.1

/-- A check whose message can be written. -/
theorem require_short {holds : Bool} {violation : Violation} {fails : Prop}
    (short : violation.isShort = true) (same : holds = false ↔ fails) :
    ReportsFirst kind ∅ (fun v => fails ∧ v = violation)
      (OpGraph.require kind holds violation) := by
  refine (require kind violation same).congr _ ?_ fun _ => Iff.rfl
  simp [short]

/-- Checks whose turns come before all later ones. -/
theorem bind {step : Except Failure α} {next : α → Except Failure β}
    (first : ReportsFirst kind long found step)
    (later : ∀ value, step = .ok value → ReportsFirst kind long' found' (next value))
    (before : ∀ v v', found v → found' v' → v.turn < v'.turn)
    (longLater : ∀ v, found v → ∀ stage ∈ long', v.stage.index ≤ stage.index)
    (longFirst : ∀ stage ∈ long, ∀ v', found' v' → stage.index ≤ v'.stage.index) :
    ReportsFirst kind (long ∪ long') (fun v => found v ∨ found' v) (step >>= next) := by
  -- It only comes to the later checks where the first ones find and write nothing.
  cases first with
  | reported v here first written =>
    refine .reported v (.inl here) ?_ ?_
    · rintro v' (among | among)
      · exact first v' among
      · exact .inr (before v v' here among)
    · rintro stage (among | among)
      · exact written stage among
      · exact longLater v here stage among
  | digits stage many early =>
    refine .digits stage (.inl many) ?_
    rintro v (among | among)
    · exact early v among
    · exact longFirst stage many v among
  | passed value nothing written =>
    rw [Outcome.ok_bind]
    have rest := later value rfl
    cases ran : next value with
    | ok result =>
      rw [ran] at rest
      cases rest with
      | passed _ nothing' written' =>
        refine .passed result (fun v among => ?_) fun stage among => ?_
        · exact among.elim (nothing v) (nothing' v)
        · exact among.elim (written stage) (written' stage)
    | error failure =>
      rw [ran] at rest
      cases rest with
      | reported v here first written' =>
        refine .reported v (.inr here) ?_ ?_
        · rintro v' (among | among)
          · exact absurd among (nothing v')
          · exact first v' among
        · rintro stage (among | among)
          · exact absurd among (written stage)
          · exact written' stage among
      | digits stage many early =>
        refine .digits stage (.inr many) ?_
        rintro v (among | among)
        · exact absurd among (nothing v)
        · exact early v among

/-- Checks of one stage, before those of later stages. -/
theorem bind_stage (stage : Stage) {step : Except Failure α} {next : α → Except Failure β}
    (first : ReportsFirst kind long found step)
    (later : ∀ value, step = .ok value → ReportsFirst kind long' found' (next value))
    (here : ∀ v, found v → v.stage = stage) (longHere : ∀ s ∈ long, s = stage)
    (after : ∀ v, found' v → stage.index < v.stage.index)
    (longAfter : ∀ s ∈ long', stage.index ≤ s.index) :
    ReportsFirst kind (long ∪ long') (fun v => found v ∨ found' v) (step >>= next) := by
  refine first.bind later (fun v v' among among' => ?_) (fun v among s many => ?_)
    fun s many v' among => ?_
  · exact Violation.turn_lt_of_stages (here v among) rfl (after v' among')
  · rw [here v among]
    exact longAfter s many
  · rw [longHere s many]
    exact Nat.le_of_lt (after v' among)

/-- Checks whose messages can all be written, before others. -/
theorem bind_short {step : Except Failure α} {next : α → Except Failure β}
    (first : ReportsFirst kind ∅ found step)
    (later : ∀ value, step = .ok value → ReportsFirst kind long' found' (next value))
    (before : ∀ v v', found v → found' v' → v.turn < v'.turn)
    (longLater : ∀ v, found v → ∀ stage ∈ long', v.stage.index ≤ stage.index) :
    ReportsFirst kind long' (fun v => found v ∨ found' v) (step >>= next) :=
  (first.bind later before longLater fun _ many => many.elim).congr _ (Set.empty_union _)
    fun _ => Iff.rfl

/-- Checks before others whose messages can all be written. -/
theorem bind_plain {step : Except Failure α} {next : α → Except Failure β}
    (first : ReportsFirst kind long found step)
    (later : ∀ value, step = .ok value → ReportsFirst kind ∅ found' (next value))
    (before : ∀ v v', found v → found' v' → v.turn < v'.turn)
    (longFirst : ∀ stage ∈ long, ∀ v', found' v' → stage.index ≤ v'.stage.index) :
    ReportsFirst kind long (fun v => found v ∨ found' v) (step >>= next) :=
  (first.bind later before (fun _ _ _ many => many.elim) longFirst).congr _ (Set.union_empty _)
    fun _ => Iff.rfl

/-- Checks before steps that cannot fail. -/
theorem bind_ok {step : Except Failure α} {next : α → Except Failure β}
    (first : ReportsFirst kind long found step)
    (later : ∀ value, step = .ok value → ∃ result, next value = .ok result) :
    ReportsFirst kind long found (step >>= next) := by
  cases first with
  | reported v here first before => exact .reported v here first before
  | digits stage many before => exact .digits stage many before
  | passed value nothing written =>
    obtain ⟨result, ran⟩ := later value rfl
    rw [Outcome.ok_bind, ran]
    exact .passed result nothing written

/-- A check whose message can be written and whose turn comes before all later ones. -/
theorem require_bind {holds : Bool} {violation : Violation} {fails : Prop}
    {next : Unit → Except Failure β} (short : violation.isShort = true)
    (same : holds = false ↔ fails) (later : ¬fails → ReportsFirst kind ∅ found' (next ()))
    (before : ∀ v', found' v' → violation.turn < v'.turn) :
    ReportsFirst kind ∅ (fun v => fails ∧ v = violation ∨ found' v)
      (OpGraph.require kind holds violation >>= next) := by
  have passes : OpGraph.require kind holds violation = .ok () → ¬fails := by
    rw [Outcome.require_eq_ok, ← same]
    exact fun passed => by simp [passed.2]
  refine (require_short short same).bind_plain (fun _ passed => later (passes passed)) ?_
    fun _ many => many.elim
  rintro v v' ⟨-, rfl⟩ among
  exact before v' among

end ReportsFirst

/-! ### What differs -/

/-- Both lengths are known, and they are not the same. -/
def Dimension.Differ (a b : Dimension) : Prop :=
  ∃ m n, a = .static m ∧ b = .static n ∧ m ≠ n

/-- Both element types are known, and they are not the same. -/
def ElementType.Differ (a b : ElementType) : Prop :=
  a ≠ .dynamic ∧ b ≠ .dynamic ∧ a ≠ b

theorem Dimension.compatible_eq_false {a b : Dimension} :
    a.compatible b = false ↔ a.Differ b := by
  cases a <;> cases b <;> simp [compatible, Differ]

theorem Dimension.merge_eq_none {a b : Dimension} : a.merge b = none ↔ a.Differ b := by
  cases a <;> cases b <;> simp [merge, Differ]

theorem Dimension.isSome_merge_eq_false {a b : Dimension} :
    (a.merge b).isSome = false ↔ a.Differ b := by
  rw [Option.isSome_eq_false_iff, Option.isNone_iff_eq_none, merge_eq_none]

/-- What two dimensions have in common differs from what one of them differs from. -/
theorem Dimension.differ_of_merge {a b merged c : Dimension} (merges : a.merge b = some merged) :
    merged.Differ c ↔ a.Differ c ∨ b.Differ c := by
  cases a <;> cases b <;> simp [merge] at merges
  · subst merges
    simp [Differ]
  · subst merges
    simp [Differ]
  · subst merges
    simp [Differ]
  · obtain ⟨rfl, rfl⟩ := merges
    simp

theorem ElementType.merge_eq_none {a b : ElementType} : a.merge b = none ↔ a.Differ b := by
  unfold merge
  split
  · simp [Differ]
  · simp [Differ]
  next unknown unknown' =>
    split
    next same => simp [Differ, same]
    next apart =>
      exact iff_of_true rfl ⟨fun same => unknown same, fun same => unknown' same, apart⟩

namespace ReportsFirst

variable {kind : String}

theorem requireElements (first second : ElementType) (violation : Violation) :
    ReportsFirst kind ∅ (fun v => first.Differ second ∧ v = violation)
      (OpGraph.requireElements kind first second violation) := by
  rw [← ElementType.merge_eq_none]
  unfold OpGraph.requireElements
  cases first.merge second with
  | none => exact .reported violation ⟨rfl, rfl⟩ (fun v' here => .inl here.2) nofun
  | some etype => exact .passed etype (fun v here => nomatch here.1) nofun

end ReportsFirst

/-! ### Slices -/

namespace SliceBounds

variable (bounds : SliceBounds)

/-- What is wrong with the integers of one axis. -/
inductive AxisFinds (index : Nat) : SliceAxis → Violation → Prop
  | negativeLower {lower upper stride : Int} (negative : lower < 0) :
    AxisFinds index ⟨.int lower, .int upper, .int stride⟩ (.negativeLower index bounds)
  | lowerAboveUpper {lower upper stride : Int} (above : upper < lower) :
    AxisFinds index ⟨.int lower, .int upper, .int stride⟩ (.lowerAboveUpper index bounds)
  | zeroStride {lower upper : Int} :
    AxisFinds index ⟨.int lower, .int upper, .int 0⟩ (.zeroSliceStride index bounds)
  | negativeStride {lower upper stride : Int} (negative : stride < 0) :
    AxisFinds index ⟨.int lower, .int upper, .int stride⟩ (.negativeSliceStride index bounds)

/-- What is wrong with bounds in themselves. -/
inductive Finds : Violation → Prop
  | ranks (apart : ¬(bounds.lower.length = bounds.upper.length ∧
      bounds.lower.length = bounds.strides.length)) : Finds (.boundRanks bounds)
  | axis {index : Nat} {axis : SliceAxis} {v : Violation} (known : bounds.axes[index]? = some axis)
      (found : bounds.AxisFinds index axis v) : Finds v

/-- An upper bound lies beyond the end of its axis. -/
def Exceeds (shape : Shape) (index : Nat) : Prop :=
  ∃ dims upper length, shape = .ranked dims ∧ bounds.upper[index]? = some (.int upper) ∧
    dims[index]? = some (.static length) ∧ (length : Int) < upper

end SliceBounds

/-! ### Convolutions -/

namespace Convolution

/-- The attributes of one axis. -/
def axis? (attrs : ConvolutionAttributes) (index : Nat) : Option SpatialAxis := do
  return ⟨← attrs.strides[index]?, ← attrs.dilations[index]?, ← attrs.paddingBelow[index]?,
    ← attrs.paddingAbove[index]?⟩

/-- What is wrong with the integers of one axis. -/
inductive AxisFinds (attrs : ConvolutionAttributes) (index : Nat) : SpatialAxis → Violation → Prop
  | stride {stride : Int} {dilation below above : Value} (low : stride ≤ 0) :
    AxisFinds attrs index ⟨.int stride, dilation, below, above⟩
      (.strideNotPositive index attrs.strides)
  | dilation {dilation : Int} {stride below above : Value} (low : dilation ≤ 0) :
    AxisFinds attrs index ⟨stride, .int dilation, below, above⟩
      (.dilationNotPositive index attrs.dilations)
  | padding {below above : Int} {stride dilation : Value} (negative : below < 0 ∨ above < 0) :
    AxisFinds attrs index ⟨stride, dilation, .int below, .int above⟩
      (.negativePadding index attrs.paddingBelow attrs.paddingAbove)

/-- The attributes with one entry per axis, under their names. -/
def pairs (attrs : ConvolutionAttributes) : List (String × List Value) :=
  Violation.pairNames.zip [attrs.strides, attrs.dilations, attrs.paddingBelow, attrs.paddingAbove]

/-- What is wrong with attributes in themselves. -/
inductive Finds (attrs : ConvolutionAttributes) : Violation → Prop
  | length {name : String} {values : List Value} (among : (name, values) ∈ pairs attrs)
      (wrong : values.length ≠ 2) : Finds attrs (.attributeLength name values)
  | axis {index : Nat} {axis : SpatialAxis} {v : Violation} (spatial : index < 2)
      (known : axis? attrs index = some axis) (found : AxisFinds attrs index axis v) :
    Finds attrs v
  | format (unknown : ∀ format ∈ formats, attrs.dataFormat ≠ .text format) :
    Finds attrs (.dataFormat attrs.dataFormat)

/-- Height and width of the data. -/
def dataSides (channelsFirst : Bool) (data : Shape) : List Dimension :=
  [(dataDims channelsFirst data).2.2.1, (dataDims channelsFirst data).2.2.2]

/-- Height and width of the filters. -/
def filterSides (channelsFirst : Bool) (filters : Shape) : List Dimension :=
  [(filterDims channelsFirst filters).2.2.1, (filterDims channelsFirst filters).2.2.2]

/-- What is wrong along one axis of operands: a window has no elements or is larger than the
padded data. -/
inductive SideFinds (data filters : Shape) (index : Nat) (w : WindowAxis)
    (size kernel : Dimension) : Violation → Prop
  | emptyWindow (empty : kernel = .static 0) : SideFinds data filters index w size kernel
      (.emptyWindow index filters)
  | windowTooLarge {extent length : Nat} (known : size = .static extent)
      (known' : kernel = .static length) (nonempty : 0 < length)
      (large : w.padded extent < w.window length) : SideFinds data filters index w size kernel
      (.windowTooLarge index (w.window length) (w.padded extent) data filters)

end Convolution

/-! ### All operators -/

namespace Operator

/-- The number of inputs that an operator takes, unless it takes any. -/
def arity? : Operator → Option Nat
  | generic .. => none
  | parameter _ => some 0
  | slice _ => some 1
  | convolution _ | replaceSlice _ | dot => some 2

/-- What is wrong with an operator and the types of its inputs. What compares several things is
about operands that are right in themselves. -/
inductive Violates : Operator → List TensorType → Violation → Prop
  | count {operator : Operator} {inputs : List TensorType} {expected : Nat}
      (takes : operator.arity? = some expected) (wrong : inputs.length ≠ expected) :
    Violates operator inputs (.inputCount expected inputs.length)
  | slice {bounds : SliceBounds} {input : TensorType} {v : Violation} (found : bounds.Finds v) :
    Violates (.slice bounds) [input] v
  | sliceRank {bounds : SliceBounds} {input : TensorType}
      (wrong : input.shape.rank.Differ (.static bounds.rank)) :
    Violates (.slice bounds) [input] (.sliceRank bounds input.shape)
  | sliceRange {bounds : SliceBounds} {input : TensorType} {axis : Nat}
      (beyond : bounds.Exceeds input.shape axis) :
    Violates (.slice bounds) [input] (.upperOutOfRange axis bounds.upper input.shape)
  | replaceRanks {bounds : SliceBounds} {target replacement : TensorType}
      (apart : target.shape.rank.Differ replacement.shape.rank) :
    Violates (.replaceSlice bounds) [target, replacement]
      (.argumentRanks target.shape replacement.shape)
  | replaceElements {bounds : SliceBounds} {target replacement : TensorType}
      (apart : target.etype.Differ replacement.etype) :
    Violates (.replaceSlice bounds) [target, replacement]
      (.argumentElements target.etype replacement.etype)
  | replaceSlice {bounds : SliceBounds} {target replacement : TensorType} {v : Violation}
      (found : bounds.Finds v) :
    Violates (.replaceSlice bounds) [target, replacement] v
  | replacedRank {bounds : SliceBounds} {target replacement : TensorType}
      (wrong : target.shape.rank.Differ (.static bounds.rank) ∨
        replacement.shape.rank.Differ (.static bounds.rank)) :
    Violates (.replaceSlice bounds) [target, replacement] (.replacedRank bounds)
  | replacedRange {bounds : SliceBounds} {target replacement : TensorType} {axis : Nat}
      (beyond : bounds.Exceeds target.shape axis) :
    Violates (.replaceSlice bounds) [target, replacement]
      (.upperOutOfRange axis bounds.upper target.shape)
  | replacementShape {bounds : SliceBounds} {ranges : List StridedRange}
      {target replacement : TensorType} (same : bounds = StridedRange.bounds ranges)
      (apart : replacement.shape.compatible (.ofLengths (ranges.map StridedRange.length)) = false) :
    Violates (.replaceSlice bounds) [target, replacement]
      (.replacementShape replacement.shape (.ofLengths (ranges.map StridedRange.length)))
  | factorRank (position : Nat) {first second factor : TensorType}
      (known : [first, second][position]? = some factor)
      (wrong : factor.shape.rank.Differ (.static 2)) :
    Violates .dot [first, second] (.argumentRank position factor.shape)
  | factorElements {first second : TensorType} (apart : first.etype.Differ second.etype) :
    Violates .dot [first, second] (.argumentElements first.etype second.etype)
  | reduction {first second : TensorType} {rows inner inner' columns : Dimension}
      (matrix : first.shape = .ranked [rows, inner])
      (matrix' : second.shape = .ranked [inner', columns]) (apart : inner.Differ inner') :
    Violates .dot [first, second] (.reduction first.shape second.shape)
  | dataRank {attrs : ConvolutionAttributes} {data filters : TensorType}
      (wrong : data.shape.rank.Differ (.static 4)) :
    Violates (.convolution attrs) [data, filters] (.dataRank data.shape)
  | filtersRank {attrs : ConvolutionAttributes} {data filters : TensorType}
      (wrong : filters.shape.rank.Differ (.static 4)) :
    Violates (.convolution attrs) [data, filters] (.filtersRank filters.shape)
  | convolutionElements {attrs : ConvolutionAttributes} {data filters : TensorType}
      (apart : data.etype.Differ filters.etype) :
    Violates (.convolution attrs) [data, filters] (.convolutionElements data.etype filters.etype)
  | convolution {attrs : ConvolutionAttributes} {data filters : TensorType} {v : Violation}
      (found : Convolution.Finds attrs v) : Violates (.convolution attrs) [data, filters] v
  | side {attrs : ConvolutionAttributes} {data filters : TensorType} {v : Violation} {index : Nat}
      {w : WindowAxis} {size kernel : Dimension}
      (axis : Convolution.axis? attrs index = some w.axis)
      (side : (Convolution.dataSides attrs.isChannelsFirst data.shape)[index]? = some size)
      (side' : (Convolution.filterSides attrs.isChannelsFirst filters.shape)[index]? = some kernel)
      (found : Convolution.SideFinds data.shape filters.shape index w size kernel v) :
    Violates (.convolution attrs) [data, filters] v
  | channels {attrs : ConvolutionAttributes} {data filters : TensorType}
      (apart : (Convolution.dataDims attrs.isChannelsFirst data.shape).2.1.Differ
        (Convolution.filterDims attrs.isChannelsFirst filters.shape).2.1) :
    Violates (.convolution attrs) [data, filters]
      (.channels (Convolution.dataDims attrs.isChannelsFirst data.shape).2.1
        (Convolution.filterDims attrs.isChannelsFirst filters.shape).2.1 data.shape filters.shape)

/-- Messages with numbers are about as many inputs as the operator takes. -/
theorem Overlong.arity {operator : Operator} {inputs : List TensorType} {stage : Stage}
    (long : operator.Overlong inputs stage) : operator.arity? = some inputs.length := by
  cases long with
  | window many =>
    cases many
    rfl
  | _ => rfl

/-- Nothing else is found or written with a wrong number of inputs. -/
theorem reportsFirst_count {α : Type} {name : String} {operator : Operator}
    {inputs : List TensorType} {expected : Nat} (takes : operator.arity? = some expected)
    (wrong : inputs.length ≠ expected) :
    ReportsFirst name {stage | operator.Overlong inputs stage} (operator.Violates inputs)
      ((Violation.inputCount expected inputs.length).report name : Except Failure α) := by
  refine .reported _ (.count takes wrong) (fun v' found => .inl ?_) fun stage long =>
    absurd (Option.some.inj (long.arity.symm.trans takes)) wrong
  cases found with
  | count takes' wrong' =>
    cases takes.symm.trans takes'
    rfl
  | _ =>
    cases takes
    exact absurd rfl wrong

end Operator

end OpGraph
