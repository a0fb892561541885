import OpGraph.Operator.Dot
import OpGraph.Proofs.Outcome
import OpGraph.Proofs.Tensor

/-!
# Matrix products

An accepted product of arrays of known shapes is that of two matrices with one inner extent, and
evaluates as soon as the result can be held.
-/
namespace OpGraph.Dot

theorem checkRank_eq_ok {position : Nat} {shape : Shape} :
    checkRank position shape = .ok () ↔
      shape.isShort = true ∧ shape.rank.compatible (.static 2) = true := by
  simp [checkRank, Violation.isShort, Violation.phrases, Phrase.isShort]

private theorem two_of_checkRank {position : Nat} {lengths : List Nat}
    (ranked : checkRank position (.ofLengths lengths) = .ok ()) :
    ∃ rows columns, lengths = [rows, columns] := by
  have compatible := (checkRank_eq_ok.mp ranked).2
  simp only [Shape.ofLengths, Shape.rank, List.length_map, Dimension.compatible,
    beq_iff_eq] at compatible
  exact List.length_eq_two.mp compatible

/-- What was accepted was written before. -/
theorem isShort_of_infer {a b : TensorType} {types : List TensorType}
    (accepted : infer [a, b] = .ok types) : a.shape.isShort = true ∧ b.shape.isShort = true := by
  simp only [infer, Outcome.bind_eq_ok, Outcome.exists_unit, checkRank_eq_ok] at accepted
  exact ⟨accepted.1.1, accepted.2.1.1⟩

/-- What acceptance says about known shapes. -/
theorem infer_ofLengths (shape shape' : List Nat) (etype etype' : ElementType)
    (types : List TensorType)
    (accepted : infer [⟨.ofLengths shape, etype⟩, ⟨.ofLengths shape', etype'⟩] = .ok types) :
    ∃ (rows inner columns : Nat) (merged : ElementType), shape = [rows, inner] ∧
      shape' = [inner, columns] ∧ etype.merge etype' = some merged ∧
      types = [⟨.ofLengths [rows, columns], merged⟩] := by
  simp only [infer, Outcome.bind_eq_ok, Outcome.exists_unit, Outcome.require_eq_ok,
    Outcome.requireElements_eq_ok, Outcome.pure_eq_ok] at accepted
  obtain ⟨ranked, ranked', merged, elements, ⟨-, reduction⟩, rfl⟩ := accepted
  obtain ⟨rows, inner, rfl⟩ := two_of_checkRank ranked
  obtain ⟨inner', columns, rfl⟩ := two_of_checkRank ranked'
  obtain rfl := (Dimension.merge_static inner inner').mp reduction
  exact ⟨rows, inner, columns, merged, rfl, rfl, elements, rfl⟩

theorem infer_matrices (rows inner columns : Nat) {etype etype' merged : ElementType}
    (short : (Shape.ofLengths [rows, inner]).isShort = true)
    (short' : (Shape.ofLengths [inner, columns]).isShort = true)
    (merges : etype.merge etype' = some merged) :
    infer [⟨.ofLengths [rows, inner], etype⟩, ⟨.ofLengths [inner, columns], etype'⟩] =
      .ok [⟨.ofLengths [rows, columns], merged⟩] := by
  have agree : ((Dimension.static inner).merge (.static inner)).isSome = true :=
    (Dimension.merge_static inner inner).mpr rfl
  have written : (Violation.reduction (.ofLengths [rows, inner])
      (.ofLengths [inner, columns])).isShort = true := by
    simp [Violation.isShort, Violation.phrases, Phrase.isShort, short, short']
  simp only [infer, Outcome.bind_eq_ok, Outcome.exists_unit, Outcome.require_eq_ok,
    Outcome.requireElements_eq_ok, Outcome.pure_eq_ok, checkRank_eq_ok]
  exact ⟨⟨short, rfl⟩, ⟨short', rfl⟩, merged, merges, ⟨written, agree⟩, rfl⟩

/-- The products of the rows of one matrix with the columns of the other. -/
def product (rows inner columns : Nat) (a b : Tensor) : Tensor :=
  .ofElements a.etype <| .ofFn [rows, columns] fun
    | [row, column] => a.etype.reduce <| Tensor.total inner fun k =>
        a.elements.get [row, k] * b.elements.get [k, column]
    | _ => 0

/-- One element of the product before its type reduces it. -/
def contraction (inner : Nat) (a b : Tensor) : List Nat → Rat
  | [row, column] => Tensor.total inner fun k =>
      a.elements.get [row, k] * b.elements.get [k, column]
  | _ => 0

theorem product_eq (rows inner columns : Nat) (a b : Tensor) :
    product rows inner columns a b = .ofElements a.etype (.ofFn [rows, columns] fun index =>
      a.etype.reduce (contraction inner a b index)) := by
  rw [product]
  congr 1
  apply NDArray.ofFn_congr
  intro index inside
  obtain ⟨row, column, rfl⟩ := List.length_eq_two.mp (NDArray.inBounds_length _ _ inside)
  rfl

/-- An accepted product evaluates as soon as its result can be held. -/
theorem evaluate_matrices [Host] (rows inner columns : Nat) (a b : Tensor)
    (shape : a.shape = [rows, inner]) (shape' : b.shape = [inner, columns])
    (etype : a.etype = b.etype) :
    evaluate [a, b] = (do
      Tensor.requireSize a.etype [rows, columns]
      return [product rows inner columns a b]) := by
  have promoted : a.etype.promote b.etype = a.etype := by
    rw [← etype]
    exact ElementType.promote_self a.etype
  have multiplied : a.matmul b = (do
      Tensor.requireSize a.etype [rows, columns]
      return product rows inner columns a b) := by
    -- A coordinate of the result has its row first and its column last.
    have elements : (product rows inner columns a b).elements =
        NDArray.ofFn [rows, columns] fun index =>
          a.etype.reduce <| Tensor.total inner fun k =>
            a.elements.get [index.getD 0 0, k] *
              b.elements.get [k, index.getD (index.length - 1) 0] := by
      apply NDArray.ofFn_congr
      intro index inside
      obtain ⟨row, column, rfl⟩ := List.length_eq_two.mp (NDArray.inBounds_length _ _ inside)
      rfl
    have same : product rows inner columns a b =
        Tensor.ofResult a.etype (product rows inner columns a b).elements := rfl
    rw [same, elements]
    have left : ([rows, inner].length == 1) = false := rfl
    have right : ([inner, columns].length == 1) = false := rfl
    have agreed : (inner != inner) = false := bne_self_eq_false inner
    simp only [Tensor.matmul, shape, shape', promoted, left, right, Bool.false_eq_true, if_false]
    simp only [List.reverse_cons, List.reverse_nil, List.nil_append, List.cons_append, agreed,
      Bool.false_eq_true, if_false, Tensor.commonShape, Outcome.ok_bind]
    rfl
  rw [evaluate, multiplied, bind_assoc]
  rfl

end OpGraph.Dot
