import Mathlib.Algebra.Field.Rat
import Mathlib.Algebra.BigOperators.Group.List.Basic
import OpGraph.Proofs.Tensor

/-!
# Sums

Sums over the positions of axes, and how integer types reduce them. Wrapping respects sums, so a
sum of integers whose every partial result is wrapped is the sum wrapped once
(`foldl_reduce`). Sums over two axes may be taken in either order (`total_comm`).
-/
namespace OpGraph

namespace Tensor

theorem total_zero (term : Nat → Rat) : total 0 term = 0 :=
  rfl

theorem total_eq_sum (n : Nat) (term : Nat → Rat) :
    total n term = ((List.range n).map term).sum :=
  rfl

theorem total_succ (n : Nat) (term : Nat → Rat) : total (n + 1) term = total n term + term n := by
  simp only [total_eq_sum, List.range_succ, List.map_append, List.sum_append, List.map_cons,
    List.map_nil, List.sum_cons, List.sum_nil, add_zero]

theorem total_congr (n : Nat) (term term' : Nat → Rat) (same : ∀ k < n, term k = term' k) :
    total n term = total n term' := by
  rw [total_eq_sum, total_eq_sum, List.map_congr_left]
  exact fun k member => same k (List.mem_range.mp member)

theorem total_add (n : Nat) (term term' : Nat → Rat) :
    total n (fun k => term k + term' k) = total n term + total n term' := by
  induction n with
  | zero => simp [total_zero]
  | succ n ih => rw [total_succ, ih, total_succ, total_succ, add_add_add_comm]

theorem total_comm (m n : Nat) (term : Nat → Nat → Rat) :
    total m (fun i => total n (term i)) = total n (fun j => total m fun i => term i j) := by
  induction m with
  | zero =>
    rw [total_zero]
    induction n with
    | zero => rfl
    | succ n ih => rw [total_succ, ← ih, total_zero, add_zero]
  | succ m ih =>
    rw [total_succ, ih, ← total_add]
    exact total_congr n _ _ fun j _ => (total_succ m _).symm

theorem total_rotate (l m n : Nat) (term : Nat → Nat → Nat → Rat) :
    total l (fun i => total m fun j => total n fun k => term i j k) =
      total m fun j => total n fun k => total l fun i => term i j k := by
  rw [total_comm]
  exact total_congr m _ _ fun j _ => total_comm l n _

/-- A sum over pairs of positions is a sum of sums. -/
theorem sum_pairs (m n : Nat) (term : Nat → Nat → Rat) :
    (((List.range m).flatMap fun i => (List.range n).map fun j => (i, j)).map
      fun p => term p.1 p.2).sum = total m fun i => total n (term i) := by
  induction m with
  | zero => rfl
  | succ m ih =>
    rw [total_succ, List.range_succ, List.flatMap_append, List.map_append, List.sum_append, ih]
    simp [total_eq_sum, Function.comp_def]

end Tensor

/-! ### Integers -/

def IsIntegral (value : Rat) : Prop :=
  ∃ n : Int, value = n

namespace IsIntegral

theorem zero : IsIntegral 0 :=
  ⟨0, by simp⟩

theorem add {a b : Rat} (first : IsIntegral a) (second : IsIntegral b) : IsIntegral (a + b) := by
  obtain ⟨m, rfl⟩ := first
  obtain ⟨n, rfl⟩ := second
  exact ⟨m + n, by push_cast; rfl⟩

theorem mul {a b : Rat} (first : IsIntegral a) (second : IsIntegral b) : IsIntegral (a * b) := by
  obtain ⟨m, rfl⟩ := first
  obtain ⟨n, rfl⟩ := second
  exact ⟨m * n, by push_cast; rfl⟩

theorem total (n : Nat) (term : Nat → Rat) (each : ∀ k < n, IsIntegral (term k)) :
    IsIntegral (Tensor.total n term) := by
  induction n with
  | zero => exact zero
  | succ n ih =>
    rw [Tensor.total_succ]
    exact (ih fun k below => each k (by omega)).add (each n (by omega))

end IsIntegral

namespace ElementType

def isInteger : ElementType → Bool
  | int8 | int16 | int32 | int64 | uint8 | uint16 | uint32 | uint64 => true
  | _ => false

variable {etype : ElementType} (integer : etype.isInteger = true)

include integer

theorem reduce_intCast (n : Int) : etype.reduce n = etype.wrapInt n := by
  have whole : truncate n = n := by simp [truncate]
  cases etype <;> first | rfl | cases integer <;> simp only [reduce, whole]

theorem reduce_zero : etype.reduce 0 = 0 := by
  have wrapped : etype.wrapInt 0 = 0 := by simp [wrapInt]
  have reduced := reduce_intCast integer 0
  rw [wrapped] at reduced
  simpa using reduced

theorem reduce_isIntegral (value : Rat) : IsIntegral (etype.reduce value) := by
  cases etype <;> first | exact ⟨_, rfl⟩ | cases integer

end ElementType

theorem ElementType.wrapInt_add (etype : ElementType) (a b : Int) :
    etype.wrapInt (etype.wrapInt a + etype.wrapInt b) = etype.wrapInt (a + b) := by
  unfold wrapInt
  dsimp only
  split
  · rw [Int.bmod_add_bmod, Int.add_bmod_bmod]
  · rw [← Int.add_emod]

namespace ElementType

variable {etype : ElementType} (integer : etype.isInteger = true)

include integer

theorem reduce_add {a b : Rat} (first : IsIntegral a) (second : IsIntegral b) :
    etype.reduce (etype.reduce a + etype.reduce b) = etype.reduce (a + b) := by
  obtain ⟨m, rfl⟩ := first
  obtain ⟨n, rfl⟩ := second
  have sum : (etype.wrapInt m : Rat) + (etype.wrapInt n : Rat) =
      ((etype.wrapInt m + etype.wrapInt n : Int) : Rat) := by push_cast; rfl
  have sum' : (m : Rat) + (n : Rat) = ((m + n : Int) : Rat) := by push_cast; rfl
  rw [reduce_intCast integer, reduce_intCast integer, sum, sum', reduce_intCast integer,
    reduce_intCast integer, wrapInt_add]

/-- Partial sums may be reduced on the way. -/
theorem foldl_reduce {α : Type} (items : List α) (term : α → Rat) (before : Rat)
    (integral : IsIntegral before) (each : ∀ item ∈ items, IsIntegral (term item)) :
    items.foldl (fun sum item => etype.reduce (sum + etype.reduce (term item)))
        (etype.reduce before) =
      etype.reduce (before + (items.map term).sum) := by
  induction items generalizing before with
  | nil => simp
  | cons item items ih =>
    have here := each item (by simp)
    rw [List.foldl_cons, reduce_add integer integral here,
      ih (before + term item) (integral.add here) fun other member => each other (by simp [member]),
      List.map_cons, List.sum_cons, add_assoc]

end ElementType

/-- The elements of integer arrays are integers; so is what stands for those outside. -/
theorem Tensor.IsArray.isIntegral_get {t : Tensor} (array : t.IsArray)
    (integer : t.etype.isInteger = true) (index : List Nat) :
    IsIntegral (t.elements.get index) := by
  rw [NDArray.get, Array.getD_eq_getD_getElem?]
  cases found : t.elements.data[NDArray.offset t.elements.shape index]? with
  | none => exact IsIntegral.zero
  | some value =>
    have member : value ∈ t.elements.data := Array.mem_of_getElem? found
    rw [Option.getD_some, ← array.fixed value member]
    exact ElementType.reduce_isIntegral integer value

end OpGraph
