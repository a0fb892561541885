import OpGraph.NDArray.Layout
import OpGraph.NDArray.Slicing
import OpGraph.Proofs.Outcome

/-!
# Arrays by their elements

An array is known by its shape and its elements in bounds: two functions that agree there make
the same array (`ofFn_congr`), and every array is made by its own elements (`ofFn_get`). So two
arrays are equal when they agree there (`ext_get`).
-/
namespace OpGraph.NDArray

variable {α β : Type}

theorem mem_indices (shape index : List Nat) : index ∈ indices shape ↔ InBounds shape index := by
  induction shape generalizing index with
  | nil => cases index <;> simp [indices, InBounds]
  | cons extent shape ih =>
    cases index with
    | nil => simp [indices, InBounds]
    | cons i index => simp [indices, InBounds, ih]

theorem inBounds_length (shape index : List Nat) (inside : InBounds shape index) :
    index.length = shape.length := by
  induction shape generalizing index with
  | nil => cases index with
    | nil => rfl
    | cons => exact inside.elim
  | cons extent shape ih => cases index with
    | nil => exact inside.elim
    | cons i index => simp [ih index inside.2]

theorem inBounds_four (a b c d : Nat) (index : List Nat) (inside : InBounds [a, b, c, d] index) :
    ∃ i j k l, index = [i, j, k, l] ∧ i < a ∧ j < b ∧ k < c ∧ l < d := by
  obtain ⟨i, j, k, l, rfl⟩ := List.length_eq_four.mp (inBounds_length _ _ inside)
  exact ⟨i, j, k, l, rfl, inside.1, inside.2.1, inside.2.2.1, inside.2.2.2.1⟩

@[simp] theorem shape_ofFn (shape : List Nat) (f : List Nat → α) : (ofFn shape f).shape = shape :=
  rfl

theorem ofFn_congr (shape : List Nat) (f g : List Nat → α)
    (agree : ∀ index, InBounds shape index → f index = g index) : ofFn shape f = ofFn shape g := by
  have same : (indices shape).map f = (indices shape).map g :=
    List.map_congr_left fun index member => agree index ((mem_indices shape index).mp member)
  simp only [ofFn, same]

/-- The coordinates are listed in the order of their places. -/
theorem map_offset_indices (shape : List Nat) :
    (indices shape).map (offset shape) = List.range (count shape) := by
  induction shape with
  | nil => rfl
  | cons extent shape ih =>
    have rows (n : Nat) : ((List.range n).flatMap fun i => (indices shape).map (i :: ·)).map
        (offset (extent :: shape)) = List.range (n * count shape) := by
      induction n with
      | zero => simp
      | succ n rest =>
        -- One more row continues the range where the rows before it ended.
        have row : ((indices shape).map (n :: ·)).map (offset (extent :: shape)) =
            (List.range (count shape)).map (n * count shape + ·) := by
          rw [← ih, List.map_map, List.map_map]
          rfl
        rw [List.range_succ, List.flatMap_append, List.map_append, rest, Nat.succ_mul,
          List.range_add, List.flatMap_singleton, row]
    exact rows extent

theorem ofFn_get [Inhabited α] (a : NDArray α) : ofFn a.shape a.get = a := by
  obtain ⟨shape, data, size_eq⟩ := a
  have elements : (indices shape).map (NDArray.get ⟨shape, data, size_eq⟩) = data.toList := by
    have places : (indices shape).map (NDArray.get ⟨shape, data, size_eq⟩) =
        ((indices shape).map (offset shape)).map fun i => data.getD i default := by
      rw [List.map_map]
      rfl
    rw [places, map_offset_indices, ← size_eq]
    refine List.ext_getElem (by simp) fun i below _ => ?_
    have inside : i < data.size := by simpa using below
    simp [Array.getD, inside]
  simp only [ofFn, elements]

theorem ext_get [Inhabited α] {a b : NDArray α} (shape : a.shape = b.shape)
    (same : ∀ index, InBounds a.shape index → a.get index = b.get index) : a = b := by
  rw [← a.ofFn_get, ← b.ofFn_get, ← shape]
  exact ofFn_congr a.shape _ _ same

/-- The array of a function that may have no value at a coordinate. -/
def tabulate? (shape : List Nat) (f : List Nat → Option α) : Option (NDArray α) := do
  ofArray? shape (← (indices shape).mapM f).toArray

theorem tabulate?_eq_some (shape : List Nat) (f : List Nat → Option α) (g : List Nat → α)
    (each : ∀ index, InBounds shape index → f index = some (g index)) :
    tabulate? shape f = some (ofFn shape g) := by
  have values : (indices shape).mapM f = some ((indices shape).map g) :=
    Outcome.mapM_eq_some_map f g _ fun index member =>
      each index ((mem_indices shape index).mp member)
  simp [tabulate?, values, ofArray?, ofFn, length_indices]

end OpGraph.NDArray
