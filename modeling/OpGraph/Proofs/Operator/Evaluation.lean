import OpGraph.Operator.Basic
import OpGraph.Proofs.Operator.Convolution
import OpGraph.Proofs.Operator.Dot
import OpGraph.Proofs.Operator.ReplaceSlice
import OpGraph.Proofs.Operator.Slice

/-!
# Evaluation on inferred types

An operator with integer attributes computes what it infers: where it accepts the types of its
operands, it evaluates to one array of the inferred type (`evaluate_of_infer`). Two things can
still keep it from doing so, and then they do. The arrays that it makes may be too large
(`evaluate_of_oversized`), and a single number cannot be written to
(`evaluate_of_not_writable`).
-/
namespace OpGraph.Operator

/-- The operations of the library, with integers for attributes. -/
inductive IsIntegral : Operator → Prop
  | convolution (strides dilations below above : List Int) (format : String) :
    IsIntegral (.convolution (.ofInts strides dilations below above format))
  | replaceSlice (lower upper strides : List Int) :
    IsIntegral (.replaceSlice (.ofInts lower upper strides))
  | slice (lower upper strides : List Int) : IsIntegral (.slice (.ofInts lower upper strides))
  | dot : IsIntegral .dot

def isSlice : Operator → Bool
  | slice _ => true
  | _ => false

/-- Whether the operator writes to a copy of its first operand. -/
def writes : Operator → Bool
  | replaceSlice _ => true
  | _ => false

variable [Host]

/-- Operands of accepted types for which the operator has to make an array that cannot be
held. -/
inductive Oversized : Operator → List TensorType → Prop
  | convolution (channelsFirst : Bool) {e : Convolution.Extents} {height width : WindowAxis}
      {etype : ElementType} {failure : Failure} (fits : e.Fits height width)
      (refused : Convolution.allocate e height width etype = .error failure) :
    Oversized (.convolution (Convolution.attributes channelsFirst height width))
      [⟨.ofLengths (e.data channelsFirst), etype⟩, ⟨.ofLengths (e.kernel channelsFirst), etype⟩]
  | dot (rows inner columns : Nat) {etype : ElementType} {failure : Failure}
      (refused : Tensor.requireSize etype [rows, columns] = .error failure) :
    Oversized .dot [⟨.ofLengths [rows, inner], etype⟩, ⟨.ofLengths [inner, columns], etype⟩]

theorem Oversized.writes {operator : Operator} {inputs : List TensorType}
    (oversized : operator.Oversized inputs) : operator.writes = false := by
  cases oversized <;> rfl

/-- The value of an operator agrees with the types that it infers. -/
structure Agrees (operator : Operator) (types : List TensorType) (value : Tensor) : Prop where
  types : types = [value.type]
  known : value.etype ≠ .dynamic
  writable : value.writable = !(operator.isSlice && value.shape.isEmpty)

/-! ### One operator at a time -/

variable {types : List TensorType}

private theorem agrees_convolution (strides dilations below above : List Int) (format : String)
    (data filters : Tensor) (known : data.etype ≠ .dynamic) (known' : filters.etype ≠ .dynamic)
    (accepted : Convolution.infer (.ofInts strides dilations below above format)
      [data.type, filters.type] = .ok types)
    (held : ¬Oversized (.convolution (.ofInts strides dilations below above format))
      [data.type, filters.type]) :
    ∃ value, Convolution.evaluate (.ofInts strides dilations below above format)
        [data, filters] = .ok [value] ∧
      Agrees (.convolution (.ofInts strides dilations below above format)) types value := by
  obtain ⟨channelsFirst, height, width, e, merged, same, shape, shape', fits, merges, rfl⟩ :=
    Convolution.infer_ofLengths strides dilations below above format data.shape filters.shape
      data.etype filters.etype types accepted
  obtain ⟨rfl, sameElements⟩ := ElementType.merge_eq_some _ _ merged known known' merges
  have evaluated := Convolution.evaluate_attributes e height width data filters channelsFirst
    shape shape' sameElements.symm fits
  rw [same] at held ⊢
  cases allocated : Convolution.allocate e height width data.etype with
  | error failure =>
    -- What cannot be allocated is oversized, which is excluded.
    have oversized := Oversized.convolution channelsFirst fits allocated
    rw [Tensor.type, Tensor.type, shape, shape', sameElements] at held
    exact absurd oversized held
  | ok =>
    rw [allocated, Outcome.ok_bind] at evaluated
    exact ⟨_, evaluated, rfl, known, rfl⟩

omit [Host] in
private theorem agrees_replaceSlice (lower upper strides : List Int) (target replacement : Tensor)
    (known : target.etype ≠ .dynamic) (known' : replacement.etype ≠ .dynamic)
    (writable : target.writable = true)
    (accepted : ReplaceSlice.infer (.ofInts lower upper strides)
      [target.type, replacement.type] = .ok types) :
    ∃ value, ReplaceSlice.evaluate (.ofInts lower upper strides) [target, replacement] =
        .ok [value] ∧
      Agrees (.replaceSlice (.ofInts lower upper strides)) types value := by
  obtain ⟨ranges, merged, same, fits, shape', merges, rfl⟩ :=
    ReplaceSlice.infer_ofLengths lower upper strides target.shape replacement.shape target.etype
      replacement.etype types accepted
  obtain ⟨rfl, -⟩ := ElementType.merge_eq_some _ _ merged known known' merges
  rw [same]
  exact ⟨_, ReplaceSlice.evaluate_bounds ranges target replacement writable fits shape', rfl,
    known, rfl⟩

omit [Host] in
private theorem agrees_slice (lower upper strides : List Int) (input : Tensor)
    (known : input.etype ≠ .dynamic)
    (accepted : Slice.infer (.ofInts lower upper strides) [input.type] = .ok types) :
    ∃ value, Slice.evaluate (.ofInts lower upper strides) [input] = .ok [value] ∧
      Agrees (.slice (.ofInts lower upper strides)) types value := by
  obtain ⟨ranges, same, fits, rfl⟩ :=
    Slice.infer_ofLengths lower upper strides input.shape input.etype types accepted
  rw [same]
  refine ⟨_, Slice.evaluate_bounds ranges input fits, ?_, known, rfl⟩
  rw [Tensor.type, Slice.shape_sliced]
  rfl

private theorem agrees_dot (a b : Tensor) (known : a.etype ≠ .dynamic)
    (known' : b.etype ≠ .dynamic) (accepted : Dot.infer [a.type, b.type] = .ok types)
    (held : ¬Oversized .dot [a.type, b.type]) :
    ∃ value, Dot.evaluate [a, b] = .ok [value] ∧ Agrees .dot types value := by
  obtain ⟨rows, inner, columns, merged, shape, shape', merges, rfl⟩ :=
    Dot.infer_ofLengths a.shape b.shape a.etype b.etype types accepted
  obtain ⟨rfl, sameElements⟩ := ElementType.merge_eq_some _ _ merged known known' merges
  have evaluated := Dot.evaluate_matrices rows inner columns a b shape shape' sameElements.symm
  cases sized : Tensor.requireSize a.etype [rows, columns] with
  | error failure =>
    have oversized := Oversized.dot rows inner columns sized
    rw [Tensor.type, Tensor.type, shape, shape', sameElements] at held
    exact absurd oversized held
  | ok =>
    rw [sized, Outcome.ok_bind] at evaluated
    exact ⟨_, evaluated, rfl, known, rfl⟩

/-! ### All operators -/

omit [Host] in
/-- An operator accepts one number of inputs only. -/
theorem IsIntegral.arity {operator : Operator} (integral : operator.IsIntegral)
    {inputs : List TensorType} (accepted : operator.infer inputs = .ok types) :
    inputs.length = if operator.isSlice then 1 else 2 := by
  rcases inputs with _ | ⟨a, _ | ⟨b, _ | ⟨c, rest⟩⟩⟩
  all_goals cases integral <;> first | cases accepted | rfl

variable {operator : Operator} {operands : List Tensor}

/-- An operator evaluates to an array of the type that it infers, when its arrays can be held and
an operand that it writes to is an array. -/
theorem evaluate_of_infer (integral : operator.IsIntegral)
    (known : ∀ operand ∈ operands, operand.etype ≠ .dynamic)
    (accepted : operator.infer (operands.map Tensor.type) = .ok types)
    (writable : operator.writes = true → ∀ target ∈ operands.head?, target.writable = true)
    (held : ¬operator.Oversized (operands.map Tensor.type)) :
    ∃ value, operator.evaluate operands = .ok [value] ∧ operator.Agrees types value := by
  -- Accepted types are as many as the operator takes, which splits the operands.
  have arity := integral.arity accepted
  rw [List.length_map] at arity
  cases integral with
  | convolution strides dilations below above format =>
    obtain ⟨data, filters, rfl⟩ := List.length_eq_two.mp arity
    exact agrees_convolution strides dilations below above format data filters
      (known data (by simp)) (known filters (by simp)) accepted held
  | replaceSlice lower upper strides =>
    obtain ⟨target, replacement, rfl⟩ := List.length_eq_two.mp arity
    exact agrees_replaceSlice lower upper strides target replacement (known target (by simp))
      (known replacement (by simp)) (writable rfl target rfl) accepted
  | slice lower upper strides =>
    obtain ⟨input, rfl⟩ := List.length_eq_one_iff.mp arity
    exact agrees_slice lower upper strides input (known input (by simp)) accepted
  | dot =>
    obtain ⟨a, b, rfl⟩ := List.length_eq_two.mp arity
    exact agrees_dot a b (known a (by simp)) (known b (by simp)) accepted held

theorem evaluate_of_oversized (oversized : operator.Oversized (operands.map Tensor.type)) :
    ∃ failure, operator.evaluate operands = .error failure := by
  generalize mapped : operands.map Tensor.type = inputs at oversized
  cases oversized with
  | @convolution channelsFirst e height width etype failure fits refused =>
    obtain ⟨data, _, rfl, type, rest⟩ := List.map_eq_cons_iff.mp mapped
    obtain ⟨filters, _, rfl, type', rest⟩ := List.map_eq_cons_iff.mp rest
    obtain rfl := List.map_eq_nil_iff.mp rest
    obtain ⟨shape, rfl⟩ := data.type_eq _ _ type
    obtain ⟨shape', sameElements⟩ := filters.type_eq _ _ type'
    have evaluated := Convolution.evaluate_attributes e height width data filters channelsFirst
      shape shape' sameElements.symm fits
    rw [refused, Outcome.error_bind] at evaluated
    exact ⟨failure, evaluated⟩
  | @dot rows inner columns etype failure refused =>
    obtain ⟨a, _, rfl, type, rest⟩ := List.map_eq_cons_iff.mp mapped
    obtain ⟨b, _, rfl, type', rest⟩ := List.map_eq_cons_iff.mp rest
    obtain rfl := List.map_eq_nil_iff.mp rest
    obtain ⟨shape, rfl⟩ := a.type_eq _ _ type
    obtain ⟨shape', sameElements⟩ := b.type_eq _ _ type'
    have evaluated := Dot.evaluate_matrices rows inner columns a b shape shape' sameElements.symm
    rw [refused, Outcome.error_bind] at evaluated
    exact ⟨failure, evaluated⟩

theorem evaluate_of_not_writable (writes : operator.writes = true) (target : Tensor)
    (number : target.writable = false) (rest : List Tensor) :
    ∃ failure, operator.evaluate (target :: rest) = .error failure := by
  cases operator with
  | replaceSlice bounds =>
    rcases rest with _ | ⟨replacement, _ | ⟨_, _⟩⟩
    · exact ⟨_, rfl⟩
    · refine ⟨.array .notWritable, ?_⟩
      simp only [evaluate, ReplaceSlice.evaluate, number, Bool.not_false, if_true]
      rfl
    · exact ⟨_, rfl⟩
  | _ => cases writes

end OpGraph.Operator
