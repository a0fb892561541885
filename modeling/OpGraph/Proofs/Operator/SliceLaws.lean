import OpGraph.Proofs.Operator.ReplaceSlice
import OpGraph.Proofs.Operator.Slice

/-!
# Slices and their replacements

Taking a slice and replacing it are a view of an array and its update. What was put in is taken
out again, putting back what was taken changes nothing, the last of two replacements counts, and
the elements outside the slice stay as they are. The two operators check their bounds apart, but
bounds that are in order pass both checks for the same shapes. Main statement:
`SliceBounds.obeysLaws`.
-/
namespace OpGraph

open StridedRange (Fits Selects positions sources bounds)

/-- Whether a coordinate belongs to the slice: along every axis it lies between the bounds, at a
multiple of the stride from the lower one. -/
def SliceBounds.Covers (lower upper strides : List Int) (index : List Nat) : Prop :=
  ∀ (axis : Nat) (l u s : Int) (i : Nat), lower[axis]? = some l → upper[axis]? = some u →
    strides[axis]? = some s → index[axis]? = some i → l ≤ i ∧ i < u ∧ s ∣ i - l

/-- Along every axis the bounds are in order and the stride is positive. -/
def SliceBounds.InOrder (lower upper strides : List Int) : Prop :=
  ∀ (axis : Nat) (l u s : Int), lower[axis]? = some l → upper[axis]? = some u →
    strides[axis]? = some s → 0 ≤ l ∧ l ≤ u ∧ 0 < s

namespace StridedRange

theorem covers_of_selects (ranges : List StridedRange) (index : List Nat)
    (selected : List.Forall₂ Selects ranges index) :
    SliceBounds.Covers (ranges.map fun r => (r.lower : Int)) (ranges.map fun r => (r.upper : Int))
      (ranges.map fun r => (r.stride : Int)) index := by
  intro axis l u s i lower upper stride coordinate
  rw [List.getElem?_map, Option.map_eq_some_iff] at lower upper stride
  obtain ⟨r, found, rfl⟩ := lower
  simp only [found, Option.some.injEq, exists_eq_left'] at upper stride
  subst upper stride
  have selects : r.Selects i := by
    obtain ⟨inRanges, rfl⟩ := List.getElem?_eq_some_iff.mp found
    obtain ⟨inIndex, rfl⟩ := List.getElem?_eq_some_iff.mp coordinate
    exact (List.forall₂_iff_get.mp selected).2 axis inRanges inIndex
  obtain ⟨above, below, aligned⟩ := selects
  refine ⟨by omega, by omega, ?_⟩
  have distance : (i : Int) - r.lower = (i - r.lower : Nat) := by omega
  rw [distance]
  exact_mod_cast Nat.dvd_of_mod_eq_zero aligned

theorem exists_of_inOrder (lower upper strides : List Int) (ranks : lower.length = upper.length)
    (ranks' : lower.length = strides.length)
    (ordered : SliceBounds.InOrder lower upper strides) :
    ∃ ranges : List StridedRange, SliceBounds.ofInts lower upper strides = bounds ranges := by
  induction lower generalizing upper strides with
  | nil =>
    rw [List.length_eq_zero_iff.mp ranks.symm, List.length_eq_zero_iff.mp ranks'.symm]
    exact ⟨[], rfl⟩
  | cons l lower ih =>
    obtain _ | ⟨u, upper⟩ := upper
    · simp at ranks
    obtain _ | ⟨s, strides⟩ := strides
    · simp at ranks'
    obtain ⟨nonneg, below, positive⟩ := ordered 0 l u s rfl rfl rfl
    obtain ⟨ranges, rest⟩ := ih upper strides (by simpa using ranks) (by simpa using ranks')
      fun axis => ordered (axis + 1)
    obtain ⟨rfl, rfl, rfl⟩ := (SliceBounds.ofInts_injective _ _ _ _ _ _).mp rest
    obtain ⟨r, rfl, rfl, rfl⟩ := exists_of_ordered nonneg below positive
    exact ⟨r :: ranges, rfl⟩

end StridedRange

/-! ### Elements of any type -/

/-- What taking the selected elements and putting others there have to do with each other. -/
structure NDArray.IsView {α : Type} [Inhabited α] (selected : List Progression)
    (covered : List Nat → Prop) (a b b' : NDArray α) : Prop where
  take_put : (a.put selected b).take selected = b
  put_take : a.put selected (a.take selected) = a
  put_put : (a.put selected b).put selected b' = a.put selected b'
  outside : ∀ index, InBounds a.shape index → ¬covered index →
    (a.put selected b).get index = a.get index

namespace StridedRange

section Elements

variable {α : Type} [Inhabited α] {ranges : List StridedRange} {a b b' : NDArray α}
  (fits : List.Forall₂ Fits ranges a.shape) (shape : b.shape = ranges.map length)

include fits shape

theorem get_put {index : List Nat} (inside : NDArray.InBounds a.shape index) :
    (a.put (ranges.map progression) b).get index =
      if List.Forall₂ Selects ranges index then b.get (positions ranges index)
      else a.get index := by
  rw [put_ranges fits shape]
  exact NDArray.get_ofFn _ _ index inside

theorem take_put : (a.put (ranges.map progression) b).take (ranges.map progression) = b := by
  rw [take_ranges]
  refine NDArray.ext_get shape.symm
    fun index (inside : NDArray.InBounds (ranges.map length) index) => ?_
  rw [NDArray.get_ofFn _ _ index inside,
    get_put fits shape (inBounds_sources ranges index a.shape fits inside),
    if_pos (selects_sources inside), positions_sources inside]

omit shape in
theorem put_take : a.put (ranges.map progression) (a.take (ranges.map progression)) = a := by
  have taken : (a.take (ranges.map progression)).shape = ranges.map length :=
    map_count_progression ranges
  -- A selected coordinate is written with the element that was taken from it.
  refine NDArray.ext_get rfl fun index (inside : NDArray.InBounds a.shape index) => ?_
  rw [get_put fits taken inside]
  split
  next selected =>
    rw [take_ranges, NDArray.get_ofFn _ _ _ (inBounds_positions ranges index selected),
      sources_positions selected]
  · rfl

theorem put_put (shape' : b'.shape = ranges.map length) :
    (a.put (ranges.map progression) b).put (ranges.map progression) b' =
      a.put (ranges.map progression) b' := by
  have fits' : List.Forall₂ Fits ranges (a.put (ranges.map progression) b).shape := fits
  rw [put_ranges fits' shape', put_ranges fits shape']
  refine NDArray.ofFn_congr a.shape _ _ fun index inside => ?_
  split
  · rfl
  -- What the second replacement leaves as it is, the first one left as well.
  next outside => rw [get_put fits shape inside, if_neg outside]

theorem isView (shape' : b'.shape = ranges.map length) :
    NDArray.IsView (ranges.map progression) (List.Forall₂ Selects ranges) a b b' where
  take_put := take_put fits shape
  put_take := put_take fits
  put_put := put_put fits shape shape'
  outside := fun index inside covered => by rw [get_put fits shape inside, if_neg covered]

end Elements

end StridedRange

/-! ### Elements of a tensor -/

namespace ReplaceSlice

variable {ranges : List StridedRange} {a b : Tensor} (fits : List.Forall₂ Fits ranges a.shape)
  (shape : b.shape = ranges.map StridedRange.length)

include fits shape

theorem sliced_replaced (array : b.IsArray) (etype : b.etype = a.etype) :
    (Slice.sliced ranges (replaced ranges a b)).elements = b.elements := by
  -- The elements have the element type of the array already.
  have converted : b.elements.map a.etype.reduce = b.elements := by
    rw [← etype, array.map_reduce]
  have elements := elements_replaced ranges a b fits shape
  rw [converted] at elements
  calc (Slice.sliced ranges (replaced ranges a b)).elements
      = (replaced ranges a b).elements.take (ranges.map StridedRange.progression) := rfl
    _ = b.elements := by rw [elements, StridedRange.take_put fits shape]

omit shape in
theorem replaced_sliced (array : a.IsArray) :
    replaced ranges a (Slice.sliced ranges a) = a := by
  have taken := elements_replaced ranges a (Slice.sliced ranges a) fits (Slice.shape_sliced ranges a)
  have converted : (Slice.sliced ranges a).elements.map a.etype.reduce =
      a.elements.take (ranges.map StridedRange.progression) := by
    refine NDArray.ext_get rfl fun index inside => ?_
    have place : NDArray.InBounds (ranges.map StridedRange.length) index := by
      rw [← Slice.shape_sliced ranges a]
      exact inside
    have element : (Slice.sliced ranges a).elements.get index =
        a.elements.get (sources ranges index) := by
      rw [Slice.elements_sliced, NDArray.get_ofFn _ _ index place]
    rw [NDArray.get_map (Slice.sliced ranges a).elements _ index inside, element,
      array.reduce_get _ (StridedRange.inBounds_sources ranges index a.shape fits place)]
    exact element.symm
  rw [converted, StridedRange.put_take fits] at taken
  calc replaced ranges a (Slice.sliced ranges a)
      = ⟨a.etype, a.elements, true⟩ := congrArg (Tensor.ofElements a.etype) taken
    _ = a := by rw [← array.writable]

theorem replaced_replaced {b' : Tensor} (shape' : b'.shape = ranges.map StridedRange.length) :
    replaced ranges (replaced ranges a b) b' = replaced ranges a b' := by
  have fits' : List.Forall₂ Fits ranges (replaced ranges a b).shape := fits
  refine congrArg (Tensor.ofElements a.etype) ?_
  calc (replaced ranges (replaced ranges a b) b').elements
      = (replaced ranges a b).elements.put (ranges.map StridedRange.progression)
          (b'.elements.map a.etype.reduce) := elements_replaced ranges _ b' fits' shape'
    _ = a.elements.put (ranges.map StridedRange.progression) (b'.elements.map a.etype.reduce) := by
        rw [elements_replaced ranges a b fits shape]
        exact StridedRange.put_put fits shape shape'
    _ = (replaced ranges a b').elements := (elements_replaced ranges a b' fits shape').symm

theorem get_replaced_outside {index : List Nat} (inside : NDArray.InBounds a.shape index)
    (covered : ¬List.Forall₂ Selects ranges index) :
    (replaced ranges a b).elements.get index = a.elements.get index := by
  rw [elements_replaced ranges a b fits shape]
  exact (StridedRange.get_put (b := b.elements.map a.etype.reduce) fits shape inside).trans
    (if_neg covered)

end ReplaceSlice

/-! ### The laws -/

/-- What taking a slice and replacing it have to do with each other. A slice without axes is taken
as a single number and not as an array, with the same element. -/
structure SliceBounds.ObeysLaws (bounds : SliceBounds) (covered : List Nat → Prop)
    (a b b' replaced : Tensor) : Prop where
  take_put : ∃ taken, Slice.evaluate bounds [replaced] = .ok [taken] ∧ taken.etype = b.etype ∧
    taken.elements = b.elements ∧ (a.shape ≠ [] → taken = b)
  put_take : ∃ taken, Slice.evaluate bounds [a] = .ok [taken] ∧
    ReplaceSlice.evaluate bounds [a, taken] = .ok [a]
  put_put : ∃ last, ReplaceSlice.evaluate bounds [replaced, b'] = .ok [last] ∧
    ReplaceSlice.evaluate bounds [a, b'] = .ok [last]
  outside : ∀ index, NDArray.InBounds a.shape index → ¬covered index →
    replaced.elements.get index = a.elements.get index

theorem StridedRange.laws_of_fits {ranges : List StridedRange} {a b b' : Tensor}
    (fits : List.Forall₂ Fits ranges a.shape) (shape : b.shape = ranges.map StridedRange.length)
    (shape' : b'.shape = ranges.map StridedRange.length) (etype : b.etype = a.etype)
    (array : a.IsArray) (array' : b.IsArray) :
    (bounds ranges).ObeysLaws (List.Forall₂ Selects ranges) a b b'
      (ReplaceSlice.replaced ranges a b) where
  take_put := by
    have elements := ReplaceSlice.sliced_replaced fits shape array' etype
    refine ⟨_, Slice.evaluate_bounds ranges _ fits, etype.symm, elements, fun axes => ?_⟩
    have ranked : ranges ≠ [] := by
      rintro rfl
      exact axes (List.forall₂_nil_left_iff.mp fits)
    calc Slice.sliced ranges (ReplaceSlice.replaced ranges a b)
        = ⟨a.etype, (Slice.sliced ranges (ReplaceSlice.replaced ranges a b)).elements, true⟩ :=
          Slice.sliced_eq_ofElements ranges _ ranked
      _ = b := by rw [elements, ← etype, ← array'.writable]
  put_take := by
    refine ⟨_, Slice.evaluate_bounds ranges a fits, ?_⟩
    rw [ReplaceSlice.evaluate_bounds ranges a _ array.writable fits (Slice.shape_sliced ranges a),
      ReplaceSlice.replaced_sliced fits array]
  put_put := by
    refine ⟨_, ReplaceSlice.evaluate_bounds ranges _ b' rfl fits shape', ?_⟩
    rw [ReplaceSlice.evaluate_bounds ranges a b' array.writable fits shape',
      ReplaceSlice.replaced_replaced fits shape shape']
  outside := by
    intro index inside covered
    exact ReplaceSlice.get_replaced_outside fits shape inside covered

/-- For integer bounds that are accepted with an array, replacing the slice by an array of its type
succeeds, is accepted as well, and obeys the laws. What is selected is a view of arrays of any
elements. Bounds that are in order have a slice shape, and the shapes with which a slice is accepted
are those with which it can be replaced. -/
theorem SliceBounds.obeysLaws (lower upper strides : List Int) :
    (∀ a b b' : Tensor, a.IsArray → b.IsArray → b'.type = b.type →
      Slice.infer (.ofInts lower upper strides) [a.type] = .ok [b.type] →
        ∃ replaced, ReplaceSlice.evaluate (.ofInts lower upper strides) [a, b] = .ok [replaced] ∧
          replaced.type = a.type ∧
          ReplaceSlice.infer (.ofInts lower upper strides) [a.type, b.type] =
            .ok [replaced.type] ∧
          (ofInts lower upper strides).ObeysLaws (Covers lower upper strides) a b b' replaced) ∧
    (∀ (α : Type) [Inhabited α] (a b b' : NDArray α) (etype etype' : ElementType),
      b'.shape = b.shape →
      Slice.infer (.ofInts lower upper strides) [⟨.ofLengths a.shape, etype⟩] =
          .ok [⟨.ofLengths b.shape, etype'⟩] →
        ∃ selected, (ofInts lower upper strides).selection a.shape = .ok selected ∧
          NDArray.IsView selected (Covers lower upper strides) a b b') ∧
    (lower.length = upper.length → lower.length = strides.length →
      InOrder lower upper strides →
        ∃ slice, (ofInts lower upper strides).shape = .ok slice ∧
          ∀ (shape : List Nat) (etype etype' : ElementType), (etype.merge etype').isSome = true →
            ((∃ types, Slice.infer (.ofInts lower upper strides) [⟨.ofLengths shape, etype⟩] =
                .ok types) ↔
              ∃ types, ReplaceSlice.infer (.ofInts lower upper strides)
                [⟨.ofLengths shape, etype⟩, ⟨slice, etype'⟩] = .ok types)) := by
  refine ⟨?tensors, ?arrays, ?shapes⟩
  case tensors =>
    intro a b b' array array' types accepted
    obtain ⟨short, known⟩ := Slice.isShort_of_infer accepted
    obtain ⟨ranges, same, fits, slice⟩ :=
      Slice.infer_ofLengths lower upper strides a.shape a.etype _ accepted
    obtain ⟨shape, etype⟩ := b.type_eq _ _ (List.cons.inj slice).1
    obtain ⟨shape', -⟩ := b'.type_eq _ _ (types.trans (List.cons.inj slice).1)
    rw [same] at short
    have laws := StridedRange.laws_of_fits fits shape shape' etype array array'
    obtain ⟨rfl, rfl, rfl⟩ := (ofInts_injective _ _ _ _ _ _).mp same
    refine ⟨_, ReplaceSlice.evaluate_bounds ranges a b array.writable fits shape, rfl, ?_,
      laws.take_put, laws.put_take, laws.put_put, fun index inside covered => ?_⟩
    · rw [Tensor.type, Tensor.type, shape, etype]
      exact ReplaceSlice.infer_bounds ranges a.shape _ _ _ short known fits a.etype.merge_self
    · exact laws.outside index inside
        (mt (StridedRange.covers_of_selects ranges index) covered)
  case arrays =>
    intro α _ a b b' etype etype' shape' accepted
    obtain ⟨ranges, same, fits, slice⟩ :=
      Slice.infer_ofLengths lower upper strides a.shape etype _ accepted
    have shape := (Shape.ofLengths_injective _ _).mp (TensorType.mk.inj (List.cons.inj slice).1).1
    obtain ⟨rfl, rfl, rfl⟩ := (ofInts_injective _ _ _ _ _ _).mp same
    have view := StridedRange.isView fits shape (shape'.trans shape)
    exact ⟨_, StridedRange.selection_bounds fits, view.take_put, view.put_take, view.put_put,
      fun index inside covered => view.outside index inside
        (mt (StridedRange.covers_of_selects ranges index) covered)⟩
  case shapes =>
    intro ranks ranks' ordered
    obtain ⟨ranges, same⟩ := StridedRange.exists_of_inOrder lower upper strides ranks ranks' ordered
    rw [same]
    refine ⟨_, StridedRange.shape_bounds ranges, fun shape etype etype' merges => ?_⟩
    obtain ⟨merged, merges⟩ := Option.isSome_iff_exists.mp merges
    constructor
    · rintro ⟨types, accepted⟩
      obtain ⟨short, known⟩ := Slice.isShort_of_infer accepted
      obtain ⟨ranges', same', fits, -⟩ := Slice.infer_ofLengths _ _ _ shape etype types accepted
      obtain rfl := StridedRange.bounds_injective same'
      exact ⟨_, ReplaceSlice.infer_bounds ranges shape etype etype' merged short known fits merges⟩
    · rintro ⟨types, accepted⟩
      obtain ⟨short, known, -⟩ := ReplaceSlice.isShort_of_infer accepted
      obtain ⟨ranges', _, same', fits, -⟩ :=
        ReplaceSlice.infer_ofLengths _ _ _ shape _ etype etype' types accepted
      obtain rfl := StridedRange.bounds_injective same'
      exact ⟨_, Slice.infer_bounds ranges shape etype short known fits⟩

/-- Every other row and column, starting at the second row; the last stride along either axis leaves
the array. Replacing the slice twice leaves the elements outside it as they were. -/
theorem SliceBounds.obeysLaws_partialStride :
    let bounds := SliceBounds.ofInts [1, 0] [4, 3] [2, 2]
    let a : Tensor :=
      .ofElements .int8 (.ofFn [4, 3] fun index => (NDArray.offset [4, 3] index : Nat))
    let b : Tensor :=
      .ofElements .int8 (.ofFn [2, 2] fun index => (100 + NDArray.offset [2, 2] index : Nat))
    let b' : Tensor := .ofElements .int8 (.ofFn [2, 2] fun _ => -1)
    (∃ replaced, ReplaceSlice.evaluate bounds [a, b] = .ok [replaced] ∧
      replaced.elements.data = #[0, 1, 2, 100, 4, 101, 6, 7, 8, 102, 10, 103] ∧
      Slice.evaluate bounds [replaced] = .ok [b] ∧
      ReplaceSlice.evaluate bounds [replaced, b'] = ReplaceSlice.evaluate bounds [a, b']) ∧
    (∃ selected, bounds.selection [4, 3] = .ok selected ∧
      ((NDArray.ofFn [4, 3] fun _ => "old").put selected
          (.ofFn [2, 2] fun _ => "new")).take selected =
        .ofFn [2, 2] fun _ => "new") ∧
    ∃ types, ReplaceSlice.infer bounds
      [⟨.ofLengths [4, 3], .int8⟩, ⟨.ofLengths [2, 2], .dynamic⟩] = .ok types := by
  intro bounds a b b'
  obtain ⟨laws, views, accepts⟩ := obeysLaws [1, 0] [4, 3] [2, 2]
  refine ⟨?_, ?_, ?_⟩
  · obtain ⟨replaced, evaluated, -, -, takePut, -, putPut, -⟩ :=
      laws a b b' ⟨rfl, by decide⟩ ⟨rfl, by decide⟩ rfl (by rfl)
    have computed : ((ReplaceSlice.evaluate bounds [a, b]).toOption.map
        fun results => results.map fun result => result.elements.data) =
        some [#[0, 1, 2, 100, 4, 101, 6, 7, 8, 102, 10, 103]] := by
      decide +kernel
    rw [evaluated] at computed
    obtain ⟨taken, taken', -, -, same⟩ := takePut
    obtain ⟨last, last', last''⟩ := putPut
    exact ⟨replaced, evaluated, (List.cons.inj (Option.some.inj computed)).1,
      same (by decide) ▸ taken', last'.trans last''.symm⟩
  · obtain ⟨selected, selects, view⟩ := views String (.ofFn [4, 3] fun _ => "old")
      (.ofFn [2, 2] fun _ => "new") (.ofFn [2, 2] fun _ => "new") .int8 .int8 rfl (by rfl)
    exact ⟨selected, selects, view.take_put⟩
  · have inOrder : InOrder [1, 0] [4, 3] [2, 2] := by
      rintro (_ | _ | axis) l u s <;> simp
      all_goals omega
    obtain ⟨slice, shaped, accepts⟩ := accepts rfl rfl inOrder
    have known : (ofInts [1, 0] [4, 3] [2, 2]).shape = .ok (.ofLengths [2, 2]) := by rfl
    obtain rfl := Except.ok.inj (known.symm.trans shaped)
    exact (accepts [4, 3] .int8 .dynamic rfl).mp ⟨_, by rfl⟩

end OpGraph
