import OpGraph.Proofs.Operator.WindowAxis
import OpGraph.Proofs.Sums

/-!
# Convolutions

What an accepted convolution computes. At a place of the output the positions of the filters are
worked off in order; each adds the sum over the channels of the elements that it meets, where
the padding counts as zero. Main statement: evaluation gives these elements unless the arrays it
makes on the way cannot be held (`evaluate_attributes`); in integer types they are sums reduced
once (`convolved_eq_sums`).
-/
namespace OpGraph

namespace WindowAxis

variable (w : WindowAxis)

/-- The coordinate before padding, if it is none of the padding. -/
def source? (extent coordinate : Nat) : Option Nat :=
  if w.below ≤ coordinate ∧ coordinate < w.below + extent then some (coordinate - w.below)
  else none

/-- The padded coordinates that one position of the filters meets. -/
def patch (extent kernel position : Nat) : StridedRange where
  lower := position * w.dilation
  upper := position * w.dilation + w.stride * (w.places extent kernel - 1) + 1
  stride := w.stride
  ordered := by omega
  moving := w.moving

@[simp] theorem length_patch (extent kernel position : Nat) :
    (w.patch extent kernel position).length = w.places extent kernel := by
  have moving := w.moving
  have some' : 0 < w.places extent kernel := Nat.succ_pos _
  have steps : position * w.dilation + w.stride * (w.places extent kernel - 1) + 1 -
      position * w.dilation + (w.stride - 1) = w.stride * (w.places extent kernel - 1) + w.stride := by
    omega
  simp only [StridedRange.length, patch, steps]
  rw [Nat.add_div_right _ moving, Nat.mul_div_cancel_left _ moving]
  omega

theorem patch_fits (extent kernel position : Nat) (fits : w.Fits extent kernel)
    (inKernel : position < kernel) :
    (w.patch extent kernel position).upper ≤ w.padded extent := by
  have last := w.meets_lt_padded extent kernel (w.places extent kernel - 1) position fits
    (Nat.sub_lt (Nat.succ_pos _) Nat.one_pos) inKernel
  rw [meets, Nat.mul_comm _ w.stride] at last
  simp only [patch]
  omega

theorem nth_patch (extent kernel position place : Nat) :
    (w.patch extent kernel position).progression.nth place = w.meets place position := by
  rw [StridedRange.nth_progression, meets, patch, Nat.add_comm]

end WindowAxis

namespace Convolution

theorem patchProgression_axis (w : WindowAxis) (extent kernel position : Nat)
    (fits : w.Fits extent kernel) (inKernel : position < kernel) :
    patchProgression ⟨w.stride, w.dilation⟩ (w.places extent kernel) (w.padded extent) position =
      (w.patch extent kernel position).progression := by
  have some' : 0 < w.places extent kernel := Nat.succ_pos _
  rw [← StridedRange.ofBounds_fits _ _ (w.patch_fits extent kernel position fits inKernel)]
  have lower : (position : Int) * w.dilation = (position * w.dilation : Nat) := by push_cast; rfl
  have upper : (position : Int) * w.dilation +
      w.stride * ((w.places extent kernel : Int) - 1) + 1 =
        (position * w.dilation + w.stride * (w.places extent kernel - 1) + 1 : Nat) := by
    have before : ((w.places extent kernel : Int) - 1) = (w.places extent kernel - 1 : Nat) := by
      omega
    rw [before]
    push_cast
    rfl
  simp only [patchProgression, WindowAxis.patch, upper]
  rw [lower]

/-- The number of places in integer arithmetic, where nothing is cut off at zero. -/
theorem fdiv_room (w : WindowAxis) (extent kernel : Nat) (fits : w.Fits extent kernel) :
    ((w.padded extent : Int) - ((kernel : Int) - 1) * w.dilation - 1).fdiv w.stride + 1 =
      (w.places extent kernel : Nat) := by
  have room : (w.padded extent : Int) - ((kernel : Int) - 1) * w.dilation - 1 =
      (w.padded extent - w.window kernel : Nat) := by
    have before : (kernel : Int) - 1 = (kernel - 1 : Nat) := by
      have := fits.1
      omega
    have below := fits.2
    unfold WindowAxis.window at below ⊢
    rw [before]
    push_cast [below]
    omega
  rw [room, Int.fdiv_eq_ediv_of_nonneg _ (by omega), WindowAxis.places]
  norm_cast

theorem placeCount_axis (w : WindowAxis) (extent kernel : Nat) (fits : w.Fits extent kernel) :
    placeCount w.axis (w.padded extent) kernel = .ok (.int (w.places extent kernel)) := by
  have moving := w.moving
  have nonzero : (w.stride : Int) ≠ 0 := by omega
  simp only [placeCount, WindowAxis.axis, Number.ofValue_int, Number.mul_int, Number.sub_int,
    Outcome.ok_bind, Number.floorDiv_int _ _ nonzero, Number.add_int, fdiv_room w extent kernel fits]

@[simp] theorem stepsOf_axis (w : WindowAxis) : stepsOf w.axis = .ok ⟨w.stride, w.dilation⟩ :=
  rfl

/-! ### The elements -/

section Elements

variable (channelsFirst : Bool) (e : Extents) (height width : WindowAxis)

/-- The element of the padded data at a batch, a channel and two padded coordinates. -/
def paddedAt (data : Tensor) (n c i j : Nat) : Rat :=
  match height.source? e.height i, width.source? e.width j with
  | some i, some j => data.elements.get (dataOrder channelsFirst n c i j)
  | _, _ => 0

/-- What one position of the filters adds at a place of the output. -/
def termAt (data filters : Tensor) (n f y x : Nat) (position : Nat × Nat) : Rat :=
  Tensor.total e.channels fun c =>
    paddedAt channelsFirst e height width data n c (height.meets y position.1)
        (width.meets x position.2) *
      filters.elements.get (filterOrder channelsFirst f c position.1 position.2)

def positions : List (Nat × Nat) :=
  (List.range e.kernelHeight).flatMap fun row =>
    (List.range e.kernelWidth).map fun column => (row, column)

theorem mem_positions (position : Nat × Nat) :
    position ∈ positions e ↔ position.1 < e.kernelHeight ∧ position.2 < e.kernelWidth := by
  simp [positions, Prod.ext_iff]

/-- A function of batch, channel and place, at a coordinate of either layout. -/
def atPlace (value : Nat → Nat → Nat → Nat → Rat) : List Nat → Rat
  | [i, j, k, l] => if channelsFirst then value i j k l else value i l j k
  | _ => 0

/-- The terms are reduced and added one by one. -/
def elementAt (data filters : Tensor) (n f y x : Nat) : Rat :=
  (positions e).foldl (fun sum position =>
    data.etype.reduce (sum + data.etype.reduce
      (termAt channelsFirst e height width data filters n f y x position))) 0

def convolved (data filters : Tensor) : Tensor :=
  .ofElements data.etype <| .ofFn (e.output channelsFirst height width) <|
    atPlace channelsFirst (elementAt channelsFirst e height width data filters)

/-- The sum over the positions of the filters, not reduced. -/
def sumAt (data filters : Tensor) (n f y x : Nat) : Rat :=
  Tensor.total e.kernelHeight fun row => Tensor.total e.kernelWidth fun column =>
    termAt channelsFirst e height width data filters n f y x (row, column)

/-- The sums at all places, each reduced once. -/
def sums (data filters : Tensor) : Tensor :=
  .ofElements data.etype <| .ofFn (e.output channelsFirst height width) <|
    atPlace channelsFirst fun n f y x =>
      data.etype.reduce (sumAt channelsFirst e height width data filters n f y x)

/-- The arrays that evaluation makes must be held: the padded data and the output. -/
def allocate [Host] (etype : ElementType) : Except Failure Unit := do
  let _ ← paddingsOf height.axis width.axis
  Tensor.requireSize etype
    [e.batch, e.channels, height.padded e.height, width.padded e.width]
  Tensor.requireSize etype
    [e.batch, e.filters, height.places e.height e.kernelHeight, width.places e.width e.kernelWidth]

/-! ### Padding -/

def pads : List (Nat × Nat) :=
  [(0, 0), (0, 0), (height.below, height.above), (width.below, width.above)]

private theorem padWord_eq_ok {amount : Nat} {word : Int} :
    padWord (.int amount) = .ok word ↔ (amount : Int) < wordBound ∧ (amount : Int) = word := by
  simp only [padWord, Number.ofValue_int, Outcome.ok_bind]
  have signed : -wordBound ≤ (amount : Int) := by
    have positive : 0 ≤ wordBound := by decide
    omega
  split
  next inside => simp [inside.2, pure, Except.pure]
  next outside =>
    have above : ¬(amount : Int) < wordBound := fun below => outside ⟨signed, below⟩
    simp [above]

/-- Paddings that can be read are those of the axes, and they can be if they are machine words. -/
theorem paddingsOf_eq_ok {paddings : List (Nat × Nat)} :
    paddingsOf height.axis width.axis = .ok paddings ↔
      (∀ padding ∈ [height.below, height.above, width.below, width.above],
        (padding : Int) < wordBound) ∧ paddings = pads height width := by
  have noSequence : ([height.axis.below, height.axis.above, width.axis.below,
      width.axis.above].any Value.isSequence) = false := rfl
  have read (w : WindowAxis) (word : Int) :
      (padWord w.axis.below = .ok word ↔ (w.below : Int) < wordBound ∧ (w.below : Int) = word) ∧
        (padWord w.axis.above = .ok word ↔ (w.above : Int) < wordBound ∧ (w.above : Int) = word) :=
    ⟨padWord_eq_ok, padWord_eq_ok⟩
  simp only [paddingsOf, noSequence, Bool.false_eq_true, if_false, Outcome.bind_eq_ok,
    List.mapM_cons, List.mapM_nil, Outcome.pure_eq_ok, read, List.forall_mem_cons]
  constructor
  · rintro ⟨_, ⟨_, ⟨first, rfl⟩, _, ⟨_, ⟨second, rfl⟩, _, ⟨_, ⟨third, rfl⟩, _, ⟨_, ⟨fourth, rfl⟩, _,
      rfl, rfl⟩, rfl⟩, rfl⟩, rfl⟩, extents, made, rest⟩
    cases made
    cases rest
    exact ⟨⟨first, second, third, fourth, List.forall_mem_nil _⟩, rfl⟩
  · rintro ⟨⟨first, second, third, fourth, -⟩, rfl⟩
    exact ⟨_, ⟨_, ⟨first, rfl⟩, _, ⟨_, ⟨second, rfl⟩, _, ⟨_, ⟨third, rfl⟩, _, ⟨_, ⟨fourth, rfl⟩, _,
      rfl, rfl⟩, rfl⟩, rfl⟩, rfl⟩, _, rfl, rfl⟩

/-- What a convolution needs of its host: paddings that are machine words, and room for the padded
data and for the output. -/
structure IsHeld [Host] (etype : ElementType) : Prop where
  words : ∀ padding ∈ [height.below, height.above, width.below, width.above],
    (padding : Int) < wordBound
  padded : Tensor.IsHeld etype [e.batch, e.channels, height.padded e.height, width.padded e.width]
  output : Tensor.IsHeld etype
    [e.batch, e.filters, height.places e.height e.kernelHeight, width.places e.width e.kernelWidth]

theorem allocate_eq_ok [Host] {etype : ElementType} :
    allocate e height width etype = .ok () ↔ IsHeld e height width etype := by
  simp only [allocate, Outcome.bind_eq_ok, paddingsOf_eq_ok, Outcome.exists_unit,
    Tensor.requireSize_eq_ok]
  constructor
  · rintro ⟨_, ⟨words, -⟩, padded, output⟩
    exact ⟨words, padded, output⟩
  · intro held
    exact ⟨_, ⟨held.words, rfl⟩, held.padded, held.output⟩

private theorem paddedShape_pads :
    NDArray.paddedShape [e.batch, e.channels, e.height, e.width] (pads height width) =
      [e.batch, e.channels, height.padded e.height, width.padded e.width] := by
  simp [NDArray.paddedShape, pads, WindowAxis.padded]

private theorem unpadded?_pads (n c i j : Nat) (inBatch : n < e.batch) (inChannels : c < e.channels) :
    NDArray.unpadded? (pads height width) [e.batch, e.channels, e.height, e.width] [n, c, i, j] =
      match height.source? e.height i, width.source? e.width j with
      | some i, some j => some [n, c, i, j]
      | _, _ => none := by
  unfold WindowAxis.source?
  by_cases high : height.below ≤ i ∧ i < height.below + e.height <;>
    by_cases wide : width.below ≤ j ∧ j < width.below + e.width <;>
      simp [NDArray.unpadded?, pads, high, wide, inBatch, inChannels]

/-- The padded array has the elements of the data where no padding lies. -/
theorem get_pad (data : Tensor) (shape : data.shape = [e.batch, e.channels, e.height, e.width])
    (n c i j : Nat) (inBatch : n < e.batch) (inChannels : c < e.channels)
    (inHeight : i < height.padded e.height) (inWidth : j < width.padded e.width) :
    (data.elements.pad (pads height width) 0).get [n, c, i, j] =
      paddedAt true e height width data n c i j := by
  have inside : NDArray.InBounds (NDArray.paddedShape data.elements.shape (pads height width))
      [n, c, i, j] := by
    rw [show data.elements.shape = _ from shape, paddedShape_pads]
    exact ⟨inBatch, inChannels, inHeight, inWidth, trivial⟩
  rw [NDArray.pad, NDArray.get_ofFn _ _ _ inside, show data.elements.shape = _ from shape,
    unpadded?_pads e height width n c i j inBatch inChannels, paddedAt]
  cases height.source? e.height i <;> cases width.source? e.width j <;> rfl

/-! ### One position of the filters -/

variable (data filters : Tensor) (shape : data.shape = e.data true)
  (shape' : filters.shape = e.kernel true) (etype : data.etype = filters.etype)

/-- The data within its padding. -/
def padded : Tensor :=
  .ofElements data.etype (data.elements.pad (pads height width) 0)

include shape in
theorem shape_padded : (padded height width data).shape =
    [e.batch, e.channels, height.padded e.height, width.padded e.width] := by
  have around : (padded height width data).shape =
      NDArray.paddedShape data.shape (pads height width) := rfl
  rw [around, shape]
  exact paddedShape_pads e height width

/-- What one position of the filters meets in the padded data. -/
def patchOf (position : Nat × Nat) : Tensor :=
  (padded height width data).slice [.whole e.batch, .whole e.channels,
    (height.patch e.height e.kernelHeight position.1).progression,
    (width.patch e.width e.kernelWidth position.2).progression]

theorem slice_patchProgression (fits : e.Fits height width) (position : Nat × Nat)
    (inKernel : position ∈ positions e) :
    (padded height width data).slice [.whole e.batch, .whole e.channels,
      patchProgression ⟨height.stride, height.dilation⟩ (height.places e.height e.kernelHeight)
        (height.padded e.height) position.1,
      patchProgression ⟨width.stride, width.dilation⟩ (width.places e.width e.kernelWidth)
        (width.padded e.width) position.2] = patchOf e height width data position := by
  obtain ⟨inKernelHeight, inKernelWidth⟩ := (mem_positions e position).mp inKernel
  rw [patchProgression_axis height _ _ _ fits.height inKernelHeight,
    patchProgression_axis width _ _ _ fits.width inKernelWidth, patchOf]

theorem shape_patchOf (position : Nat × Nat) :
    (patchOf e height width data position).shape =
      [e.batch, e.channels, height.places e.height e.kernelHeight,
        width.places e.width e.kernelWidth] := by
  have high := height.length_patch e.height e.kernelHeight position.1
  have wide := width.length_patch e.width e.kernelWidth position.2
  simp only [patchOf, Tensor.slice, Tensor.ofResult, Tensor.shape, NDArray.take, NDArray.ofFn,
    List.map_cons, List.map_nil, Progression.whole, StridedRange.progression, high, wide]

include shape in
theorem get_patchOf (fits : e.Fits height width) (position : Nat × Nat)
    (inKernel : position ∈ positions e) (n c y x : Nat) (inBatch : n < e.batch)
    (inChannels : c < e.channels) (inRows : y < height.places e.height e.kernelHeight)
    (inColumns : x < width.places e.width e.kernelWidth) :
    (patchOf e height width data position).elements.get [n, c, y, x] =
      paddedAt true e height width data n c (height.meets y position.1)
        (width.meets x position.2) := by
  obtain ⟨inKernelHeight, inKernelWidth⟩ := (mem_positions e position).mp inKernel
  have inside : NDArray.InBounds (patchOf e height width data position).shape [n, c, y, x] := by
    rw [shape_patchOf]
    exact ⟨inBatch, inChannels, inRows, inColumns, trivial⟩
  have whole (extent k : Nat) : (Progression.whole extent).nth k = k := by
    simp [Progression.nth, Progression.whole]
  have taken := NDArray.get_ofFn _ (fun index => (padded height width data).elements.get
    (List.zipWith Progression.nth [.whole e.batch, .whole e.channels,
      (height.patch e.height e.kernelHeight position.1).progression,
      (width.patch e.width e.kernelWidth position.2).progression] index)) _ inside
  refine taken.trans ?_
  simp only [List.zipWith_cons_cons, List.zipWith_nil_left, whole, WindowAxis.nth_patch]
  exact get_pad e height width data shape n c _ _ inBatch inChannels
    (height.meets_lt_padded _ _ y _ fits.height inRows inKernelHeight)
    (width.meets_lt_padded _ _ x _ fits.width inColumns inKernelWidth)

include shape shape' etype in
theorem contract_patchOf (fits : e.Fits height width) (position : Nat × Nat)
    (inKernel : position ∈ positions e) :
    contract (patchOf e height width data position) filters position.1 position.2 =
      .ok (.ofElements data.etype (.ofFn (e.output true height width) (atPlace true
        fun n f y x => data.etype.reduce
          (termAt true e height width data filters n f y x position)))) := by
  have same : (patchOf e height width data position).etype.promote filters.etype = data.etype := by
    rw [show (patchOf e height width data position).etype = data.etype from rfl, ← etype,
      ElementType.promote_self]
  have channels : Tensor.commonExtent e.channels e.channels = .ok e.channels := by
    simp [Tensor.commonExtent]
  have kernel : filters.shape = [e.filters, e.channels, e.kernelHeight, e.kernelWidth] := shape'
  unfold contract
  simp only [shape_patchOf, kernel, channels, Outcome.ok_bind, same]
  refine congrArg (fun elements => Except.ok (Tensor.ofElements data.etype elements)) ?_
  apply NDArray.ofFn_congr
  intro index inside
  obtain ⟨n, f, y, x, rfl, inBatch, -, inRows, inColumns⟩ := NDArray.inBounds_four _ _ _ _ _ inside
  simp only [atPlace, if_true, termAt]
  refine congrArg data.etype.reduce (Tensor.total_congr _ _ _ fun k below => ?_)
  -- The channel of an axis of extent one is its only one.
  have only : (if e.channels = 1 then 0 else k) = k := by
    split <;> omega
  rw [only, get_patchOf e height width data shape fits position inKernel n k y x inBatch below
    inRows inColumns]
  rfl

include shape shape' etype in
/-- One step of the sum over the positions of the filters. -/
theorem accumulate_patchOf (fits : e.Fits height width) (position : Nat × Nat)
    (inKernel : position ∈ positions e) (sum : Nat → Nat → Nat → Nat → Rat) :
    (do
      let patch ← contract (patchOf e height width data position) filters position.1 position.2
      (Tensor.ofElements data.etype
        (.ofFn (e.output true height width) (atPlace true sum))).accumulate patch) =
      .ok (.ofElements data.etype (.ofFn (e.output true height width) (atPlace true
        fun n f y x => data.etype.reduce (sum n f y x + data.etype.reduce
          (termAt true e height width data filters n f y x position))))) := by
  -- The sum of two elements of one type goes back into an array of that type.
  have storable : (data.etype.promote data.etype).storable data.etype = true := by
    rw [ElementType.promote_self]
    simp [ElementType.storable]
  rw [contract_patchOf e height width data filters shape shape' etype fits position inKernel,
    Outcome.ok_bind]
  simp only [Tensor.accumulate, Tensor.etype_ofElements, storable, Bool.not_true,
    Bool.false_eq_true, if_false, Tensor.shape_ofElements, NDArray.shape_ofFn,
    NDArray.spreads_self, if_true]
  refine congrArg (fun elements => Except.ok (Tensor.ofElements data.etype elements)) ?_
  apply NDArray.ofFn_congr
  intro index inside
  rw [NDArray.spreadIndex_self _ index inside]
  simp only [Tensor.ofElements, NDArray.get_ofFn _ _ index inside]
  obtain ⟨n, f, y, x, rfl, -⟩ := NDArray.inBounds_four _ _ _ _ _ inside
  rfl

include shape shape' etype in
/-- All positions of the filters, in order. -/
theorem foldlM_positions (fits : e.Fits height width) (todo : List (Nat × Nat))
    (inKernel : ∀ position ∈ todo, position ∈ positions e) (sum : Nat → Nat → Nat → Nat → Rat) :
    todo.foldlM (fun (total : Tensor) position => do
      let patch := (padded height width data).slice [.whole e.batch, .whole e.channels,
        patchProgression ⟨height.stride, height.dilation⟩ (height.places e.height e.kernelHeight)
          (height.padded e.height) position.1,
        patchProgression ⟨width.stride, width.dilation⟩ (width.places e.width e.kernelWidth)
          (width.padded e.width) position.2]
      total.accumulate (← contract patch filters position.1 position.2))
      (Tensor.ofElements data.etype (.ofFn (e.output true height width) (atPlace true sum))) =
      .ok (.ofElements data.etype (.ofFn (e.output true height width) (atPlace true
        fun n f y x => todo.foldl (fun sum position =>
          data.etype.reduce (sum + data.etype.reduce
            (termAt true e height width data filters n f y x position))) (sum n f y x)))) := by
  induction todo generalizing sum with
  | nil => rfl
  | cons position todo ih =>
    have here := inKernel position (by simp)
    have step := accumulate_patchOf e height width data filters shape shape' etype fits position
      here sum
    rw [List.foldlM_cons]
    simp only [slice_patchProgression e height width data fits position here, step,
      Outcome.ok_bind]
    exact ih (fun other member => inKernel other (by simp [member])) _

private theorem atPlace_zero : atPlace true (fun _ _ _ _ => 0) = fun _ => 0 := by
  funext index
  unfold atPlace
  split <;> rfl

include shape shape' etype in
theorem convolve_axis [Host] (fits : e.Fits height width) :
    convolve data filters height.axis width.axis = (do
      allocate e height width data.etype
      return convolved true e height width data filters) := by
  -- Both sides fail at the same places: at the paddings, at the size of the padded input and at the
  -- size of the result.
  cases known : paddingsOf height.axis width.axis with
  | error failure => simp only [convolve, padData, allocate, known, Outcome.error_bind]
  | ok paddings =>
    obtain rfl := ((paddingsOf_eq_ok height width).mp known).2
    have fourAxes : (data.shape.length != 4) = false := by
      rw [shape]
      rfl
    have around : NDArray.paddedShape data.shape (pads height width) =
        [e.batch, e.channels, height.padded e.height, width.padded e.width] := by
      rw [shape]
      exact paddedShape_pads e height width
    cases held : Tensor.requireSize data.etype
        [e.batch, e.channels, height.padded e.height, width.padded e.width] with
    | error failure =>
      simp only [convolve, padData, allocate, known, Outcome.ok_bind, Outcome.error_bind, fourAxes,
        Bool.false_eq_true, if_false, Tensor.pad, around, held]
    | ok _ =>
      have padded : padData data height.axis width.axis = .ok (padded height width data) := by
        simp only [padData, known, Outcome.ok_bind, fourAxes, Bool.false_eq_true, if_false,
          Tensor.pad, around, held]
        rfl
      have kernel : filters.shape = [e.filters, e.channels, e.kernelHeight, e.kernelWidth] :=
        shape'
      have integers : [Number.int (height.places e.height e.kernelHeight),
          .int (width.places e.width e.kernelWidth)].mapM Number.asInteger =
          .ok [(height.places e.height e.kernelHeight : Int), width.places e.width e.kernelWidth] :=
        rfl
      have extents : [(height.places e.height e.kernelHeight : Int),
          width.places e.width e.kernelWidth].mapM extentOf =
          .ok [height.places e.height e.kernelHeight, width.places e.width e.kernelWidth] := rfl
      simp only [convolve, padded, Outcome.ok_bind, shape_padded e height width data shape, kernel,
        placeCount_axis height _ _ fits.height, placeCount_axis width _ _ fits.width, integers,
        extents, stepsOf_axis, Tensor.zeros, allocate, known, held]
      cases Tensor.requireSize data.etype [e.batch, e.filters,
          height.places e.height e.kernelHeight, width.places e.width e.kernelWidth] with
      | error failure => rfl
      | ok _ =>
        simp only [Outcome.ok_bind, pure_bind]
        have summed := foldlM_positions e height width data filters shape shape' etype fits
          (positions e) (fun _ member => member) (fun _ _ _ _ => 0)
        rw [atPlace_zero] at summed
        exact summed

end Elements

/-! ### Both layouts -/

section Layouts

variable (e : Extents) (height width : WindowAxis) (data filters : Tensor)

private theorem get_transposeData (shape : data.shape = e.data false) (n c i j : Nat)
    (inBatch : n < e.batch) (inChannels : c < e.channels) (inHeight : i < e.height)
    (inWidth : j < e.width) :
    (data.transpose [0, 3, 1, 2]).elements.get [n, c, i, j] = data.elements.get [n, i, j, c] := by
  have lengths : data.elements.shape = [e.batch, e.height, e.width, e.channels] := shape
  have inside : NDArray.InBounds
      ([0, 3, 1, 2].map fun axis => data.elements.shape.getD axis 0) [n, c, i, j] := by
    rw [lengths]
    exact ⟨inBatch, inChannels, inHeight, inWidth, trivial⟩
  refine (NDArray.get_ofFn _ _ _ inside).trans ?_
  rw [NDArray.rank, lengths]
  rfl

private theorem get_transposeFilters (shape : filters.shape = e.kernel false) (f c i j : Nat)
    (inFilters : f < e.filters) (inChannels : c < e.channels) (inHeight : i < e.kernelHeight)
    (inWidth : j < e.kernelWidth) :
    (filters.transpose [3, 2, 0, 1]).elements.get [f, c, i, j] =
      filters.elements.get [i, j, c, f] := by
  have lengths : filters.elements.shape =
      [e.kernelHeight, e.kernelWidth, e.channels, e.filters] := shape
  have inside : NDArray.InBounds
      ([3, 2, 0, 1].map fun axis => filters.elements.shape.getD axis 0) [f, c, i, j] := by
    rw [lengths]
    exact ⟨inFilters, inChannels, inHeight, inWidth, trivial⟩
  refine (NDArray.get_ofFn _ _ _ inside).trans ?_
  rw [NDArray.rank, lengths]
  rfl

theorem source?_lt (w : WindowAxis) (extent coordinate i : Nat)
    (found : w.source? extent coordinate = some i) : i < extent := by
  unfold WindowAxis.source? at found
  split at found
  next inside =>
    cases found
    omega
  · cases found

private theorem paddedAt_transpose (shape : data.shape = e.data false) (n c i j : Nat)
    (inBatch : n < e.batch) (inChannels : c < e.channels) :
    paddedAt true e height width (data.transpose [0, 3, 1, 2]) n c i j =
      paddedAt false e height width data n c i j := by
  unfold paddedAt
  cases high : height.source? e.height i with
  | none => rfl
  | some i' =>
    cases wide : width.source? e.width j with
    | none => rfl
    | some j' =>
      exact get_transposeData e data shape n c i' j' inBatch inChannels
        (source?_lt height _ _ _ high) (source?_lt width _ _ _ wide)

private theorem termAt_transpose (shape : data.shape = e.data false)
    (shape' : filters.shape = e.kernel false) (n f y x row column : Nat) (inBatch : n < e.batch)
    (inFilters : f < e.filters) (inHeight : row < e.kernelHeight)
    (inWidth : column < e.kernelWidth) :
    termAt true e height width (data.transpose [0, 3, 1, 2]) (filters.transpose [3, 2, 0, 1])
        n f y x (row, column) =
      termAt false e height width data filters n f y x (row, column) := by
  refine Tensor.total_congr _ _ _ fun c below => ?_
  rw [paddedAt_transpose e height width data shape n c _ _ inBatch below]
  exact congrArg _ (get_transposeFilters e filters shape' f c _ _ inFilters below inHeight inWidth)

private theorem elementAt_transpose (shape : data.shape = e.data false)
    (shape' : filters.shape = e.kernel false) (n f y x : Nat) (inBatch : n < e.batch)
    (inFilters : f < e.filters) :
    elementAt true e height width (data.transpose [0, 3, 1, 2])
        (filters.transpose [3, 2, 0, 1]) n f y x =
      elementAt false e height width data filters n f y x := by
  unfold elementAt
  refine List.foldl_ext _ _ _ fun sum position member => ?_
  obtain ⟨inHeight, inWidth⟩ := (mem_positions e position).mp member
  rw [termAt_transpose e height width data filters shape shape' n f y x _ _ inBatch inFilters
    inHeight inWidth]
  rfl

/-- Moving the channels of an output to the end changes only where its elements lie. -/
private theorem transpose_atPlace (etype : ElementType)
    (value value' : Nat → Nat → Nat → Nat → Rat)
    (same : ∀ n < e.batch, ∀ f < e.filters, ∀ y x, value n f y x = value' n f y x) :
    (Tensor.ofElements etype (.ofFn (e.output true height width) (atPlace true value))).transpose
        [0, 2, 3, 1] =
      .ofElements etype (.ofFn (e.output false height width) (atPlace false value')) := by
  refine congrArg (Tensor.ofElements etype) ?_
  apply NDArray.ofFn_congr
  intro index inside
  obtain ⟨n, y, x, f, rfl, inBatch, inRows, inColumns, inFilters⟩ :=
    NDArray.inBounds_four _ _ _ _ _ inside
  have place : NDArray.InBounds (e.output true height width) [n, f, y, x] :=
    ⟨inBatch, inFilters, inRows, inColumns, trivial⟩
  refine (NDArray.get_ofFn _ _ [n, f, y, x] place).trans ?_
  exact same n inBatch f inFilters y x

private theorem transpose_convolved (shape : data.shape = e.data false)
    (shape' : filters.shape = e.kernel false) :
    (convolved true e height width (data.transpose [0, 3, 1, 2])
        (filters.transpose [3, 2, 0, 1])).transpose [0, 2, 3, 1] =
      convolved false e height width data filters :=
  transpose_atPlace e height width data.etype _ _ fun n inBatch f inFilters y x =>
    elementAt_transpose e height width data filters shape shape' n f y x inBatch inFilters

theorem transpose_sums (shape : data.shape = e.data false)
    (shape' : filters.shape = e.kernel false) :
    (sums true e height width (data.transpose [0, 3, 1, 2])
        (filters.transpose [3, 2, 0, 1])).transpose [0, 2, 3, 1] =
      sums false e height width data filters := by
  refine transpose_atPlace e height width data.etype _ _ fun n inBatch f inFilters y x => ?_
  refine congrArg data.etype.reduce ?_
  refine Tensor.total_congr _ _ _ fun row inHeight => Tensor.total_congr _ _ _ fun column inWidth => ?_
  exact termAt_transpose e height width data filters shape shape' n f y x row column inBatch
    inFilters inHeight inWidth

theorem shape_transposeData (shape : data.shape = e.data false) :
    (data.transpose [0, 3, 1, 2]).shape = e.data true := by
  have known : data.elements.shape = [e.batch, e.height, e.width, e.channels] := shape
  simp only [Tensor.transpose, Tensor.shape_ofElements, NDArray.transpose, NDArray.shape_ofFn,
    known]
  rfl

theorem shape_transposeFilters (shape : filters.shape = e.kernel false) :
    (filters.transpose [3, 2, 0, 1]).shape = e.kernel true := by
  have known : filters.elements.shape =
      [e.kernelHeight, e.kernelWidth, e.channels, e.filters] := shape
  simp only [Tensor.transpose, Tensor.shape_ofElements, NDArray.transpose, NDArray.shape_ofFn,
    known]
  rfl

/-- An accepted convolution evaluates as soon as its arrays can be held. -/
theorem evaluate_attributes [Host] (channelsFirst : Bool)
    (shape : data.shape = e.data channelsFirst)
    (shape' : filters.shape = e.kernel channelsFirst) (etype : data.etype = filters.etype)
    (fits : e.Fits height width) :
    evaluate (attributes channelsFirst height width) [data, filters] = (do
      allocate e height width data.etype
      return [convolved channelsFirst e height width data filters]) := by
  cases channelsFirst with
  | true =>
    simp only [evaluate, isChannelsFirst_attributes, if_true, axes?_attributes,
      convolve_axis e height width data filters shape shape' etype fits, bind_assoc, pure_bind]
  | false =>
    have fourAxes : requireFourAxes data = .ok () := by
      rw [requireFourAxes, shape]
      rfl
    have fourAxes' : requireFourAxes filters = .ok () := by
      rw [requireFourAxes, shape']
      rfl
    have same : (data.transpose [0, 3, 1, 2]).etype = data.etype := rfl
    simp only [evaluate, isChannelsFirst_attributes, Bool.false_eq_true, if_false, fourAxes,
      fourAxes', Outcome.ok_bind, axes?_attributes,
      convolve_axis e height width _ _ (shape_transposeData e data shape)
        (shape_transposeFilters e filters shape') etype fits, bind_assoc, pure_bind,
      transpose_convolved e height width data filters shape shape', same]

end Layouts

/-! ### Integer types -/

section Integers

variable (channelsFirst : Bool) (e : Extents) (height width : WindowAxis) (data filters : Tensor)

variable (array : data.IsArray) (array' : filters.IsArray)
  (integer : data.etype.isInteger = true) (integer' : filters.etype.isInteger = true)

include array array' integer integer'

theorem isIntegral_termAt (n f y x : Nat) (position : Nat × Nat) :
    IsIntegral (termAt channelsFirst e height width data filters n f y x position) := by
  refine IsIntegral.total _ _ fun c _ => ?_
  refine IsIntegral.mul ?_ (array'.isIntegral_get integer' _)
  unfold paddedAt
  split
  · exact array.isIntegral_get integer _
  · exact IsIntegral.zero

theorem elementAt_eq_reduce (n f y x : Nat) :
    elementAt channelsFirst e height width data filters n f y x =
      data.etype.reduce (sumAt channelsFirst e height width data filters n f y x) := by
  have folded := ElementType.foldl_reduce integer (positions e)
    (termAt channelsFirst e height width data filters n f y x) 0 IsIntegral.zero
    fun position _ => isIntegral_termAt channelsFirst e height width data filters array array'
      integer integer' n f y x position
  rw [ElementType.reduce_zero integer, zero_add] at folded
  rw [elementAt, folded, sumAt]
  exact congrArg _ (Tensor.sum_pairs _ _ fun row column =>
    termAt channelsFirst e height width data filters n f y x (row, column))

/-- In integer types the terms may be reduced once, after the sum. -/
theorem convolved_eq_sums :
    convolved channelsFirst e height width data filters =
      sums channelsFirst e height width data filters := by
  have same : elementAt channelsFirst e height width data filters = fun n f y x =>
      data.etype.reduce (sumAt channelsFirst e height width data filters n f y x) := by
    funext n f y x
    exact elementAt_eq_reduce channelsFirst e height width data filters array array' integer
      integer' n f y x
  rw [convolved, same, sums]

end Integers

end Convolution

end OpGraph
