import OpGraph.Proofs.Kernel.Dot
import OpGraph.Proofs.Kernel.Slice
import OpGraph.Proofs.Sums
import OpGraph.Registry

/-!
# Kernels of both dialects agree

Slices and matrix products are written in both dialects. Read back and run, the call and the
statement give the array that evaluation gives, and the shapes in the call are those of the
arrays (`kernels_agree`). Statements read their inputs strictly, so one that runs has read inside
of its inputs only.
-/
namespace OpGraph

open Reading

open StridedRange (sources)

namespace Dialect

/-- What the translators of the library write for a node is read as this call and this
statement. -/
structure IsWrittenAs (node : NodeView) (call : Reading.Call) (statement : Statement) : Prop where
  direct : ∃ fragment, Registry.library.translate node .direct = .ok fragment ∧
    readCall? fragment.code = some call
  indexed : ∃ fragment, Registry.library.translate node .indexed = .ok fragment ∧
    readStatement? fragment.code = some statement

/-- A call that declares the shapes of some arrays and a statement give one array on them. -/
structure Computes (call : Reading.Call) (statement : Statement) (inputs : Inputs)
    (result : Tensor) : Prop where
  inputShapes : call.inputs = inputs.map fun (name, tensor) => (name, tensor.shape.map Int.ofNat)
  outputShape : call.shape = result.shape.map Int.ofNat
  called : call.run? inputs = some result
  ran : statement.run? inputs result.shape = some result

/-! ### Slices -/

section Slices

variable (ranges : List StridedRange) (ranked : ranges ≠ [])

include ranked in
theorem isWrittenAs_slice (name : String) (shape : List Nat) (etype etype' : ElementType)
    (short : (StridedRange.bounds ranges).isShort = true)
    (known : (Shape.ofLengths shape).isShort = true) :
    IsWrittenAs ⟨name, .slice (StridedRange.bounds ranges), 1, .ok [⟨.ofLengths shape, etype⟩],
        .ok [⟨.ofLengths (ranges.map StridedRange.length), etype'⟩]⟩
      (Slice.call shape ranges) (Slice.statement ranges) := by
  constructor
  · refine ⟨_, Slice.translateDirect_bounds name ranges shape etype etype' short known, ?_⟩
    exact Call.readCall?_text (Slice.isPlain_call shape ranges)
  · refine ⟨_, Slice.translateIndexed_bounds name ranges etype' [⟨.ofLengths shape, etype⟩] short,
      ?_⟩
    exact Slice.readStatement?_codeText ranges ranked

include ranked in
theorem computes_slice (a : Tensor) (array : a.IsArray)
    (fits : List.Forall₂ StridedRange.Fits ranges a.shape) :
    Computes (Slice.call a.shape ranges) (Slice.statement ranges) [("input0", a)]
      (Slice.sliced ranges a) where
  inputShapes := rfl
  outputShape := by
    rw [Slice.shape_sliced]
    rfl
  called := Slice.run?_call ranges a fits ranked
  ran := by
    rw [Slice.shape_sliced]
    exact Slice.run?_statement ranges a fits ranked array

end Slices

/-! ### Matrix products -/

section Products

variable (rows inner columns : Nat)

theorem isWrittenAs_product (name : String) (etype etype' merged : ElementType)
    (short : (Shape.ofLengths [rows, inner]).isShort = true)
    (short' : (Shape.ofLengths [inner, columns]).isShort = true) :
    IsWrittenAs ⟨name, .dot, 2, .ok [⟨.ofLengths [rows, inner], etype⟩,
        ⟨.ofLengths [inner, columns], etype'⟩], .ok [⟨.ofLengths [rows, columns], merged⟩]⟩
      (Dot.call rows inner columns) (Dot.statement inner) := by
  constructor
  · refine ⟨_, Dot.translateDirect_matrices rows inner columns name etype etype' merged short
      short', ?_⟩
    exact Call.readCall?_text (Dot.isPlain_call rows inner columns)
  · refine ⟨_, Dot.translateIndexed_matrices rows inner name ⟨.ofLengths [inner, columns], etype'⟩
      etype [⟨.ofLengths [rows, columns], merged⟩] short, ?_⟩
    exact Dot.readStatement?_codeText inner

theorem computes_product (a b : Tensor) (shape : a.shape = [rows, inner])
    (shape' : b.shape = [inner, columns]) (same : a.etype = b.etype) :
    Computes (Dot.call rows inner columns) (Dot.statement inner) [("input0", a), ("input1", b)]
      (Dot.product rows inner columns a b) where
  inputShapes := by
    rw [Dot.inputs_call]
    simp [shape, shape']
  outputShape := rfl
  called := Dot.run?_call rows inner columns a b shape shape' same
  ran := Dot.run?_statement rows inner columns a b shape shape'

end Products

/-- The kernels of an accepted slice with integer bounds and at least one axis, and those of an
accepted matrix product, read back as a call of their primitive and as a statement. On all integer
arrays of the accepted shapes both give the array that the operator gives: the elements at the
lower bounds plus the coordinates times the strides, and the sums of the products along the
declared extent. A product is evaluated only if its result can be held. -/
theorem kernels_agree [Host] :
    (∀ (name : String) (lower upper strides : List Int) (shape : List Nat) (etype : ElementType)
        (types : List TensorType), lower ≠ [] →
      Slice.infer (.ofInts lower upper strides) [⟨.ofLengths shape, etype⟩] = .ok types →
      ∃ (ranges : List StridedRange) (call : Reading.Call) (statement : Statement),
        SliceBounds.ofInts lower upper strides = StridedRange.bounds ranges ∧
        IsWrittenAs ⟨name, .slice (.ofInts lower upper strides), 1,
          .ok [⟨.ofLengths shape, etype⟩], .ok types⟩ call statement ∧
        call.primitive = "topi.strided_slice" ∧
        call.arguments = [.input "input0", .integers "begin" lower, .integers "end" upper,
          .integers "strides" strides] ∧
        statement = Slice.statement ranges ∧
        ∀ a : Tensor, a.IsArray → a.etype.isInteger = true → a.shape = shape →
          ∃ result : Tensor, types = [⟨.ofLengths result.shape, etype⟩] ∧
            Computes call statement [("input0", a)] result ∧
            Slice.evaluate (.ofInts lower upper strides) [a] = .ok [result] ∧
            ∀ index, NDArray.InBounds result.shape index →
              NDArray.InBounds a.shape (sources ranges index) ∧
              result.elements.get index = a.elements.get (sources ranges index)) ∧
    (∀ (name : String) (shape shape' : List Nat) (etype etype' : ElementType)
        (types : List TensorType),
      Dot.infer [⟨.ofLengths shape, etype⟩, ⟨.ofLengths shape', etype'⟩] = .ok types →
      ∃ (rows inner columns : Nat) (call : Reading.Call) (statement : Statement),
        shape = [rows, inner] ∧ shape' = [inner, columns] ∧
        IsWrittenAs ⟨name, .dot, 2, .ok [⟨.ofLengths shape, etype⟩, ⟨.ofLengths shape', etype'⟩],
          .ok types⟩ call statement ∧
        call.primitive = "topi.nn.matmul" ∧
        call.arguments = [.input "input0", .input "input1"] ∧
        statement = Dot.statement inner ∧
        ∀ a b : Tensor, a.IsArray → b.IsArray → a.etype.isInteger = true → a.etype = b.etype →
          a.shape = shape → b.shape = shape' →
          ∃ result : Tensor, types.map (·.shape) = [.ofLengths result.shape] ∧
            Computes call statement [("input0", a), ("input1", b)] result ∧
            Dot.evaluate [a, b] = (do
              Tensor.requireSize a.etype [rows, columns]
              return [result]) ∧
            ∀ row column, row < rows → column < columns →
              result.elements.get [row, column] =
                a.etype.reduce (Tensor.total inner fun k =>
                  a.elements.get [row, k] * b.elements.get [k, column])) := by
  constructor
  · -- Accepted bounds are those of ranges that fit into the shape.
    intro name lower upper strides shape etype types ranked accepted
    obtain ⟨short, known⟩ := Slice.isShort_of_infer accepted
    obtain ⟨ranges, same, fits, rfl⟩ :=
      Slice.infer_ofLengths lower upper strides shape etype types accepted
    rw [same] at short
    obtain ⟨rfl, rfl, rfl⟩ := (SliceBounds.ofInts_injective _ _ _ _ _ _).mp same
    have axes : ranges ≠ [] := by
      rintro rfl
      exact ranked rfl
    refine ⟨ranges, _, _, rfl, isWrittenAs_slice ranges axes name shape etype etype short known,
      rfl, rfl, rfl, ?_⟩
    rintro a array - rfl
    refine ⟨Slice.sliced ranges a, ?_, computes_slice ranges axes a array fits,
      Slice.evaluate_bounds ranges a fits, ?_⟩
    · rw [Slice.shape_sliced]
    · intro index inside
      rw [Slice.shape_sliced] at inside
      refine ⟨StridedRange.inBounds_sources ranges index a.shape fits inside, ?_⟩
      rw [Slice.sliced_eq_ofFn ranges a axes]
      exact NDArray.get_ofFn _ _ index inside
  · -- Accepted operands are matrices with one inner extent.
    intro name shape shape' etype etype' types accepted
    obtain ⟨short, short'⟩ := Dot.isShort_of_infer accepted
    obtain ⟨rows, inner, columns, merged, rfl, rfl, merges, rfl⟩ :=
      Dot.infer_ofLengths shape shape' etype etype' types accepted
    refine ⟨rows, inner, columns, _, _, rfl, rfl,
      isWrittenAs_product rows inner columns name etype etype' merged short short', rfl,
      Dot.arguments_call rows inner columns, rfl, ?_⟩
    intro a b _ _ _ same shape shape'
    refine ⟨Dot.product rows inner columns a b, rfl,
      computes_product rows inner columns a b shape shape' same,
      Dot.evaluate_matrices rows inner columns a b shape shape' same, ?_⟩
    intro row column inRows inColumns
    exact NDArray.get_ofFn _ _ [row, column] ⟨inRows, inColumns, trivial⟩

/-- Every second element from the second up to the fourth of five, and a row times a matrix. -/
theorem kernels_agree_small :
    let a : Tensor := .ofElements .int32 (.ofFn [5] fun index => (index.sum : Nat))
    let row : Tensor := .ofElements .int32 (.ofFn [1, 2] fun index => (1 + index.sum : Nat))
    let matrix : Tensor := .ofElements .int32 (.ofFn [2, 2] fun index => (index.sum : Nat))
    (∃ (call : Reading.Call) (statement : Statement) (result : Tensor),
      IsWrittenAs ⟨"s", .slice (.ofInts [1] [4] [2]), 1, .ok [a.type],
        .ok [⟨.ofLengths [2], .int32⟩]⟩ call statement ∧
      Computes call statement [("input0", a)] result ∧
      Slice.evaluate (.ofInts [1] [4] [2]) [a] = .ok [result]) ∧
    (∃ (call : Reading.Call) (statement : Statement) (result : Tensor),
      IsWrittenAs ⟨"d", .dot, 2, .ok [row.type, matrix.type], .ok [⟨.ofLengths [1, 2], .int32⟩]⟩
        call statement ∧
      Computes call statement [("input0", row), ("input1", matrix)] result ∧
      @Dot.evaluate .wide [row, matrix] = .ok [result]) := by
  intro a row matrix
  constructor
  · obtain ⟨_, call, statement, -, written, -, -, -, runs⟩ :=
      (@kernels_agree .wide).1 "s" [1] [4] [2] [5] .int32 [⟨.ofLengths [2], .int32⟩] (by decide)
        (by rfl)
    obtain ⟨result, -, computes, evaluated, -⟩ := runs a ⟨rfl, by decide⟩ rfl rfl
    exact ⟨call, statement, result, written, computes, evaluated⟩
  · obtain ⟨rows, inner, columns, call, statement, shape, shape', written, -, -, -, runs⟩ :=
      (@kernels_agree .wide).2 "d" [1, 2] [2, 2] .int32 .int32 [⟨.ofLengths [1, 2], .int32⟩] (by rfl)
    obtain ⟨result, -, computes, evaluated, -⟩ :=
      runs row matrix ⟨rfl, by decide⟩ ⟨rfl, by decide⟩ rfl rfl rfl rfl
    simp only [List.cons.injEq, and_true] at shape shape'
    obtain ⟨rfl, rfl⟩ := shape
    obtain ⟨-, rfl⟩ := shape'
    have held : @Tensor.requireSize .wide .int32 [1, 2] = .ok () := rfl
    rw [show row.etype = .int32 from rfl, held] at evaluated
    exact ⟨call, statement, result, written, computes, evaluated⟩

end Dialect

end OpGraph
