import OpGraph.Proofs.Array
import OpGraph.Proofs.Shape
import OpGraph.Tensor

/-!
# Arrays as operands

What is known of the arrays that a graph is evaluated on: they can be written to and their
elements are elements of their type, so reducing an element leaves it as it is.
-/
namespace OpGraph

namespace NDArray

variable {α β : Type}

theorem offset_lt_size (a : NDArray α) (index : List Nat) (inside : InBounds a.shape index) :
    offset a.shape index < a.data.size := by
  rw [a.size_eq]
  exact offset_lt_count a.shape index inside

theorem get_map [Inhabited α] [Inhabited β] (a : NDArray α) (f : α → β) (index : List Nat)
    (inside : InBounds a.shape index) : (a.map f).get index = f (a.get index) := by
  have below := a.offset_lt_size index inside
  simp [get, map, Array.getD_eq_getD_getElem?, below]

theorem get_mem [Inhabited α] (a : NDArray α) (index : List Nat)
    (inside : InBounds a.shape index) : a.get index ∈ a.data := by
  have below := a.offset_lt_size index inside
  simp [get, Array.getD_eq_getD_getElem?, below]

theorem spreadsFromLast_self (shape : List Nat) : spreadsFromLast shape shape = true := by
  induction shape with
  | nil => rfl
  | cons extent shape ih => simp [spreadsFromLast, ih]

theorem spreads_self (shape : List Nat) : spreads shape shape = true :=
  spreadsFromLast_self shape.reverse

/-- A coordinate of a shape spreads over the shape as itself. -/
theorem spreadIndex_self (shape index : List Nat) (inside : InBounds shape index) :
    spreadIndex shape index = index := by
  have ranks := inBounds_length shape index inside
  simp only [spreadIndex, ranks, Nat.sub_self, List.replicate_zero, List.drop_zero, List.nil_append]
  clear ranks
  induction shape generalizing index with
  | nil => cases index with
    | nil => rfl
    | cons => exact inside.elim
  | cons extent shape ih => cases index with
    | nil => exact inside.elim
    | cons i index =>
      rw [List.zipWith_cons_cons, ih index inside.2]
      split
      -- Along an axis of length one every index is 0.
      next one =>
        have first : i = 0 := by
          have := inside.1
          omega
        rw [first]
      · rfl

end NDArray

theorem ElementType.promote_self (etype : ElementType) : etype.promote etype = etype := by
  simp [promote]

namespace Tensor

/-- The bytes of an array; empty axes do not count. -/
def bytes (etype : ElementType) (shape : List Nat) : Nat :=
  NDArray.count (shape.filter (· != 0)) * (etype.bitWidth / 8)

structure IsHeld [Host] (etype : ElementType) (shape : List Nat) : Prop where
  sized : bytes etype shape < sizeLimit
  fits : bytes etype shape < Host.memoryLimit

theorem requireSize_eq_ok [Host] {etype : ElementType} {shape : List Nat} :
    requireSize etype shape = .ok () ↔ IsHeld etype shape := by
  have unfolded : requireSize etype shape =
      if sizeLimit ≤ bytes etype shape then .error (.array .tooLarge)
      else if Host.memoryLimit ≤ bytes etype shape then .error .outOfMemory else .ok () := rfl
  rw [unfolded]
  constructor
  · intro held
    split at held
    · cases held
    · split at held
      · cases held
      · exact ⟨by omega, by omega⟩
  · rintro ⟨sized, fits⟩
    rw [if_neg (by omega), if_neg (by omega)]

structure IsArray (t : Tensor) : Prop where
  writable : t.writable = true
  fixed : ∀ value ∈ t.elements.data, t.etype.reduce value = value

theorem IsArray.reduce_get {t : Tensor} (array : t.IsArray) (index : List Nat)
    (inside : NDArray.InBounds t.shape index) :
    t.etype.reduce (t.elements.get index) = t.elements.get index :=
  array.fixed _ (t.elements.get_mem index inside)

theorem IsArray.map_reduce {t : Tensor} (array : t.IsArray) :
    t.elements.map t.etype.reduce = t.elements := by
  refine NDArray.ext_get rfl fun index inside => ?_
  rw [t.elements.get_map _ index inside]
  exact array.reduce_get index inside

theorem type_eq (t : Tensor) (lengths : List Nat) (etype : ElementType)
    (same : t.type = ⟨.ofLengths lengths, etype⟩) : t.shape = lengths ∧ t.etype = etype := by
  simp only [type, TensorType.mk.injEq, Shape.ofLengths_injective] at same
  exact same

@[simp] theorem shape_ofElements (etype : ElementType) (elements : NDArray Rat) :
    (ofElements etype elements).shape = elements.shape :=
  rfl

@[simp] theorem etype_ofElements (etype : ElementType) (elements : NDArray Rat) :
    (ofElements etype elements).etype = etype :=
  rfl

end Tensor

end OpGraph
