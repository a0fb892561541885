/-!
# Arrays of any rank

An array is a shape and its elements in row-major order. `indices` lists the coordinates of a
shape in that order and `offset` is the place of a coordinate in it, so reading an array made
by `ofFn` gives back the function on every coordinate (`get_ofFn`).
-/
namespace OpGraph

namespace NDArray

/-- The number of coordinates of a shape. -/
def count : List Nat → Nat
  | [] => 1
  | extent :: shape => extent * count shape

def indices : List Nat → List (List Nat)
  | [] => [[]]
  | extent :: shape =>
    (List.range extent).flatMap fun i => (indices shape).map (i :: ·)

/-- The place of a coordinate in row-major order. -/
def offset : List Nat → List Nat → Nat
  | _ :: shape, i :: index => i * count shape + offset shape index
  | _, _ => 0

/-- A coordinate has one entry per axis, each below its extent. -/
def InBounds : List Nat → List Nat → Prop
  | [], [] => True
  | extent :: shape, i :: index => i < extent ∧ InBounds shape index
  | _, _ => False

instance decidableInBounds : (shape index : List Nat) → Decidable (InBounds shape index)
  | [], [] => isTrue trivial
  | _ :: shape, i :: index =>
    have := decidableInBounds shape index
    inferInstanceAs (Decidable (i < _ ∧ InBounds shape index))
  | [], _ :: _ => isFalse id
  | _ :: _, [] => isFalse id

theorem length_flatMap_const {α β : Type} (items : List α) (f : α → List β) (n : Nat)
    (each : ∀ item, (f item).length = n) : (items.flatMap f).length = items.length * n := by
  induction items with
  | nil => simp
  | cons item items ih => simp [each, ih, Nat.succ_mul, Nat.add_comm]

theorem length_indices (shape : List Nat) : (indices shape).length = count shape := by
  induction shape with
  | nil => rfl
  | cons extent shape ih =>
    rw [indices, length_flatMap_const _ _ (count shape) (by simp [ih])]
    simp [count]

theorem getElem?_flatMap_const {α β : Type} (items : List α) (f : α → List β) (n : Nat)
    (each : ∀ item, (f item).length = n) (i j : Nat) (item : α) (found : items[i]? = some item)
    (below : j < n) : (items.flatMap f)[i * n + j]? = (f item)[j]? := by
  induction items generalizing i with
  | nil => simp at found
  | cons first items ih =>
    cases i with
    | zero =>
      simp only [List.getElem?_cons_zero, Option.some.injEq] at found
      subst found
      rw [List.flatMap_cons, Nat.zero_mul, Nat.zero_add,
        List.getElem?_append_left (by rw [each]; exact below)]
    | succ i =>
      have later : (i + 1) * n + j = (f first).length + (i * n + j) := by
        rw [each, Nat.succ_mul]; omega
      rw [List.flatMap_cons, later, List.getElem?_append_right (Nat.le_add_right _ _),
        Nat.add_sub_cancel_left]
      exact ih i (by simpa using found)

theorem offset_lt_count (shape index : List Nat) (inside : InBounds shape index) :
    offset shape index < count shape := by
  induction shape generalizing index with
  | nil => cases index with
    | nil => simp [offset, count]
    | cons => exact inside.elim
  | cons extent shape ih => cases index with
    | nil => exact inside.elim
    | cons i index =>
      have rest := ih index inside.2
      have room : (i + 1) * count shape ≤ extent * count shape :=
        Nat.mul_le_mul_right _ inside.1
      rw [Nat.succ_mul] at room
      simp only [offset, count]
      omega

theorem getElem?_indices (shape index : List Nat) (inside : InBounds shape index) :
    (indices shape)[offset shape index]? = some index := by
  induction shape generalizing index with
  | nil => cases index with
    | nil => rfl
    | cons => exact inside.elim
  | cons extent shape ih => cases index with
    | nil => exact inside.elim
    | cons i index =>
      rw [indices, offset, getElem?_flatMap_const _ _ (count shape) (by simp [length_indices])
        i (offset shape index) i (by simp [inside.1]) (offset_lt_count _ _ inside.2)]
      simp [ih index inside.2]

end NDArray

structure NDArray (α : Type) where
  shape : List Nat
  data : Array α
  size_eq : data.size = NDArray.count shape

namespace NDArray

variable {α β : Type}

def ofFn (shape : List Nat) (f : List Nat → α) : NDArray α where
  shape := shape
  data := ((indices shape).map f).toArray
  size_eq := by simp [length_indices]

def ofArray? (shape : List Nat) (data : Array α) : Option (NDArray α) :=
  if size_eq : data.size = count shape then some ⟨shape, data, size_eq⟩ else none

def rank (a : NDArray α) : Nat :=
  a.shape.length

/-- The element at a coordinate; outside the shape, the default one. -/
def get [Inhabited α] (a : NDArray α) (index : List Nat) : α :=
  a.data.getD (offset a.shape index) default

def map (f : α → β) (a : NDArray α) : NDArray β where
  shape := a.shape
  data := a.data.map f
  size_eq := by simp [a.size_eq]

theorem get_ofFn [Inhabited α] (shape : List Nat) (f : List Nat → α) (index : List Nat)
    (inside : InBounds shape index) : (ofFn shape f).get index = f index := by
  simp [get, ofFn, Array.getD_eq_getD_getElem?, getElem?_indices shape index inside]

end NDArray

end OpGraph
