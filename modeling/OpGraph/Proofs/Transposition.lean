import OpGraph.Proofs.Tensor

/-!
# Transposition

An order of the axes permutes the entries of shapes and of coordinates alike, and one order
undoes another one when each lists the places that the other gives to the axes. Main statements:
transposing by both in turn gives back the array (`Tensor.transpose_transpose`), and the type of
a transposed array is the transposed type (`Tensor.type_transpose`).
-/
namespace OpGraph

/-- Entry `i` of the result is entry `axes[i]`. -/
def permuted {α : Type} (default : α) (axes : List Nat) (entries : List α) : List α :=
  axes.map fun axis => entries.getD axis default

/-- Two orders of so many axes, each of which lists the places of the axes in the other one. -/
structure Undoes (back axes : List Nat) (rank : Nat) : Prop where
  back_eq : back = (List.range rank).map axes.idxOf
  axes_eq : axes = (List.range rank).map back.idxOf
  back_lt : ∀ axis ∈ back, axis < rank
  axes_lt : ∀ axis ∈ axes, axis < rank

namespace Undoes

instance decidable (back axes : List Nat) (rank : Nat) : Decidable (Undoes back axes rank) :=
  decidable_of_iff
    (back = (List.range rank).map axes.idxOf ∧ axes = (List.range rank).map back.idxOf ∧
      (∀ axis ∈ back, axis < rank) ∧ ∀ axis ∈ axes, axis < rank)
    ⟨fun ⟨places, places', below, below'⟩ => ⟨places, places', below, below'⟩,
      fun undoes => ⟨undoes.back_eq, undoes.axes_eq, undoes.back_lt, undoes.axes_lt⟩⟩

variable {back axes : List Nat} {rank : Nat} (undoes : Undoes back axes rank)

include undoes

theorem symm : Undoes axes back rank :=
  ⟨undoes.axes_eq, undoes.back_eq, undoes.axes_lt, undoes.back_lt⟩

theorem length_axes : axes.length = rank := by
  rw [undoes.axes_eq, List.length_map, List.length_range]

theorem idxOf_lt {axis : Nat} (below : axis < rank) : axes.idxOf axis < rank := by
  refine undoes.back_lt _ ?_
  rw [undoes.back_eq]
  exact List.mem_map_of_mem (List.mem_range.mpr below)

theorem permuted_permuted {α : Type} (default : α) (entries : List α)
    (ranks : entries.length = rank) :
    permuted default back (permuted default axes entries) = entries := by
  have each (i : Nat) (below : i < rank) :
      (permuted default axes entries).getD (axes.idxOf i) default = entries.getD i default := by
    have placed : axes.idxOf i < axes.length := undoes.length_axes ▸ undoes.idxOf_lt below
    simp [permuted, List.getD_eq_getElem?_getD, placed]
  have moved : permuted default back (permuted default axes entries) =
      (List.range rank).map fun i => entries.getD i default := by
    rw [permuted, undoes.back_eq, List.map_map]
    exact List.map_congr_left fun i member => each i (List.mem_range.mp member)
  rw [moved]
  refine List.ext_getElem (by simp [ranks]) fun i _ below => ?_
  simp [List.getD_eq_getElem?_getD, below]

end Undoes

namespace NDArray

theorem inBounds_iff (shape index : List Nat) :
    InBounds shape index ↔
      index.length = shape.length ∧ ∀ i < shape.length, index.getD i 0 < shape.getD i 0 := by
  induction shape generalizing index with
  | nil => cases index <;> simp [InBounds]
  | cons extent shape ih =>
    cases index with
    | nil => simp [InBounds]
    | cons k index =>
      simp only [InBounds, ih, List.length_cons, Nat.add_right_cancel_iff]
      constructor
      · rintro ⟨first, ranks, rest⟩
        refine ⟨ranks, fun i below => ?_⟩
        cases i with
        | zero => exact first
        | succ i => exact rest i (by omega)
      · rintro ⟨ranks, each⟩
        exact ⟨each 0 (by omega), ranks, fun i below => each (i + 1) (by omega)⟩

theorem inBounds_permuted {axes shape index : List Nat} (inside : InBounds shape index)
    (inRank : ∀ axis ∈ axes, axis < shape.length) :
    InBounds (permuted 0 axes shape) (permuted 0 axes index) := by
  obtain ⟨-, each⟩ := (inBounds_iff shape index).mp inside
  refine (inBounds_iff _ _).mpr ⟨by simp [permuted], fun i below => ?_⟩
  have known : i < axes.length := by simpa [permuted] using below
  have axis := each axes[i] (inRank _ (List.getElem_mem known))
  simpa [permuted, List.getD_eq_getElem?_getD, known] using axis

variable {α : Type} [Inhabited α] (a : NDArray α) {axes back : List Nat}
  (undoes : Undoes back axes a.rank)

include undoes

theorem get_transpose {index : List Nat} (inside : InBounds (permuted 0 axes a.shape) index) :
    (a.transpose axes).get index = a.get (permuted 0 back index) := by
  have source : (List.range a.rank).map (fun axis => index.getD (axes.idxOf axis) 0) =
      permuted 0 back index := by
    rw [permuted, undoes.back_eq, List.map_map]
    rfl
  rw [← source]
  exact get_ofFn _ _ index inside

theorem transpose_transpose : (a.transpose axes).transpose back = a := by
  have shape : permuted 0 back (permuted 0 axes a.shape) = a.shape :=
    undoes.permuted_permuted 0 a.shape rfl
  have rank : (a.transpose axes).rank = a.rank :=
    (List.length_map _).trans undoes.length_axes
  refine ext_get shape fun index outer => ?_
  -- A coordinate of the result is one of the array, and it is moved twice on the way to it.
  have inside : InBounds a.shape index := shape ▸ outer
  have once := (a.transpose axes).get_transpose (rank.symm ▸ undoes.symm) outer
  rw [once, get_transpose a undoes (inBounds_permuted inside undoes.axes_lt),
    undoes.permuted_permuted 0 index (inBounds_length _ _ inside)]

end NDArray

/-- Axis `i` of the result is axis `axes[i]` of the shape; nothing is known of the axes of an
unknown rank. -/
def Shape.permute (axes : List Nat) : Shape → Shape
  | .dynamicRank => .dynamicRank
  | .ranked dims => .ranked (permuted .dynamic axes dims)

def TensorType.permute (axes : List Nat) (t : TensorType) : TensorType :=
  ⟨t.shape.permute axes, t.etype⟩

namespace Tensor

theorem type_transpose (t : Tensor) {axes : List Nat}
    (inRank : ∀ axis ∈ axes, axis < t.shape.length) :
    (t.transpose axes).type = t.type.permute axes := by
  have each : ∀ axis ∈ axes, Dimension.static (t.shape.getD axis 0) =
      (t.shape.map .static).getD axis .dynamic := by
    intro axis member
    simp [List.getD_eq_getElem?_getD, inRank axis member]
  refine congrArg (fun dims => TensorType.mk (.ranked dims) t.etype) ?_
  exact (List.map_map ..).trans (List.map_congr_left each)

theorem transpose_transpose (t : Tensor) {axes back : List Nat}
    (undoes : Undoes back axes t.shape.length) (writable : t.writable = true) :
    (t.transpose axes).transpose back = t := by
  obtain ⟨etype, elements, _⟩ := t
  obtain rfl : _ = true := writable
  exact congrArg (ofElements etype) (elements.transpose_transpose undoes)

end Tensor

end OpGraph
