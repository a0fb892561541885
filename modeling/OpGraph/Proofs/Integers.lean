import OpGraph.Proofs.Outcome

/-!
# Integers among numbers

Arithmetic on values that are integers stays exact; only a division by zero fails.
-/
namespace OpGraph

namespace Number

@[simp] theorem ofValue_int (n : Int) : ofValue (.int n) = .ok (.int n) :=
  rfl

@[simp] theorem add_int (a b : Int) : (int a).add (.int b) = .ok (.int (a + b)) :=
  rfl

@[simp] theorem sub_int (a b : Int) : (int a).sub (.int b) = .ok (.int (a - b)) :=
  rfl

@[simp] theorem mul_int (a b : Int) : (int a).mul (.int b) = .ok (.int (a * b)) :=
  rfl

theorem floorDiv_int (a b : Int) (nonzero : b ≠ 0) :
    (int a).floorDiv (.int b) = .ok (.int (a.fdiv b)) := by
  simp [floorDiv, lift, nonzero]

theorem floorMod_int (a b : Int) (nonzero : b ≠ 0) :
    (int a).floorMod (.int b) = .ok (.int (a.fmod b)) := by
  simp [floorMod, lift, nonzero]

@[simp] theorem isPositive_int (n : Int) : (int n).isPositive = true ↔ 0 < n := by
  simp [isPositive, less]

@[simp] theorem isNonNegative_int (n : Int) : (int n).isNonNegative = true ↔ 0 ≤ n := by
  simp [isNonNegative, lessEq]

@[simp] theorem lessEq_int (a b : Int) : (int a).lessEq (.int b) = true ↔ a ≤ b := by
  simp [lessEq]

end Number

@[simp] theorem Value.equalsInt_int (a b : Int) : (Value.int a).equalsInt b = true ↔ a = b := by
  simp [Value.equalsInt, Number.equals]

@[simp] theorem Value.equalsInt_natCast (a b : Nat) :
    (Value.int a).equalsInt b = decide (a = b) := by
  rw [Bool.eq_iff_iff, equalsInt_int, decide_eq_true_iff]
  exact Int.ofNat_inj

@[simp] theorem Value.equalsInt_zero (a : Nat) :
    (Value.int a).equalsInt 0 = decide (a = 0) :=
  equalsInt_natCast a 0

@[simp] theorem Value.equalsInt_one (a : Nat) :
    (Value.int a).equalsInt 1 = decide (a = 1) :=
  equalsInt_natCast a 1

@[simp] theorem Dimension.ofNumber_natCast (n : Nat) :
    Dimension.ofNumber (.int n) = .ok (.static n) :=
  rfl

end OpGraph
