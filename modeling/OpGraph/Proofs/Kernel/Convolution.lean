import OpGraph.Proofs.Kernel.Convolution.Direct
import OpGraph.Proofs.Kernel.Convolution.Indexed
import OpGraph.Proofs.Operator.Written

/-!
# Kernels of convolutions are right

Both dialects write an accepted convolution as what the operator computes. The kernels are read
back and run on integer arrays: the call of the primitive, the sum of the indexed statement and
the patches that evaluation adds up all give the sums over the channels and the positions of
the filters, reduced once (`translations_compute_sums`).
-/
namespace OpGraph

open Reading

namespace Convolution

/-- The kernels of an accepted convolution with integer attributes on operands of known shapes read
back as a call and as a statement that run on all integer arrays of these shapes, and both give the
array that the operator gives. The operator gives it if the paddings are machine words and the host
holds the padded data and the output. -/
theorem translations_compute_sums [Host] (name : String) (strides dilations below above : List Int)
    (format : String) (shape shape' : List Nat) (etype etype' : ElementType)
    (types : List TensorType)
    (accepted : infer (.ofInts strides dilations below above format)
      [⟨.ofLengths shape, etype⟩, ⟨.ofLengths shape', etype'⟩] = .ok types) :
    let node : NodeView := ⟨name, .convolution (.ofInts strides dilations below above format), 2,
      .ok [⟨.ofLengths shape, etype⟩, ⟨.ofLengths shape', etype'⟩], .ok types⟩
    ∃ (direct indexed : Fragment) (call : Call) (statement : Statement) (channelsFirst : Bool)
      (e : Extents) (height width : WindowAxis),
      translateDirect node = .ok direct ∧ readCall? direct.code = some call ∧
      translateIndexed node = .ok indexed ∧ readStatement? indexed.code = some statement ∧
      ConvolutionAttributes.ofInts strides dilations below above format =
        attributes channelsFirst height width ∧
      shape = e.data channelsFirst ∧ shape' = e.kernel channelsFirst ∧ e.Fits height width ∧
      ∀ a b : Tensor, a.IsArray → b.IsArray → a.shape = shape → b.shape = shape' →
        a.etype.isInteger = true → a.etype = b.etype →
        let inputs : Inputs := [("input0", a), ("input1", b)]
        let result := sums channelsFirst e height width a b
        (∃ merged, etype.merge etype' = some merged ∧
            types = [⟨.ofLengths result.shape, merged⟩]) ∧
          call.run? inputs = some result ∧
          statement.run? inputs result.shape = some result ∧
          evaluate (.ofInts strides dilations below above format) [a, b] = (do
            allocate e height width a.etype
            return [result]) ∧
          (allocate e height width a.etype = .ok () ↔ IsHeld e height width a.etype) := by
  intro node
  -- Whatever the kernels say was written when the convolution was accepted.
  obtain ⟨short, known, known'⟩ := isShort_of_infer accepted
  have output := areShort_of_infer accepted
  obtain ⟨channelsFirst, height, width, e, merged, same, rfl, rfl, fits, merges, rfl⟩ :=
    infer_ofLengths strides dilations below above format shape shape' etype etype' types accepted
  rw [same] at short
  rw [List.all_cons, List.all_nil, Bool.and_true] at output
  have direct := translateDirect_attributes name channelsFirst e height width etype etype' merged
    short known known' output
  have indexed := translateIndexed_attributes name channelsFirst e height width etype etype' merged
    short known output
  simp only [node, same]
  refine ⟨_, _, _, _, channelsFirst, e, height, width, direct,
    Call.readCall?_text (isPlain_call channelsFirst e height width), indexed,
    readStatement?_codeText channelsFirst e height width, rfl, rfl, rfl, fits, ?_⟩
  intro a b array array' shape shape' integer sameElements
  refine ⟨⟨merged, merges, rfl⟩, run?_call channelsFirst e height width a b shape shape' fits,
    run?_statement channelsFirst e height width a b shape shape' fits, ?_,
    allocate_eq_ok e height width⟩
  -- Reducing every partial sum is reducing the whole sum, for integers only.
  have integer' : b.etype.isInteger = true := by rw [← sameElements, integer]
  rw [evaluate_attributes e height width a b channelsFirst shape shape' sameElements fits,
    convolved_eq_sums channelsFirst e height width a b array array' integer integer']

/-- Windows of two by two elements on a plane of three by three, with one row of padding above
and every second row skipped. -/
theorem translations_compute_sums_paddedRows :
    let data : Tensor := .ofElements .int32 (.ofFn [1, 1, 3, 3] fun index => (index.sum : Nat))
    let filters : Tensor := .ofElements .int32 (.ofFn [1, 1, 2, 2] fun index => (index.sum : Nat))
    let attrs := ConvolutionAttributes.ofInts [2, 1] [1, 1] [1, 0] [0, 0] "NCHW"
    let inputs : Inputs := [("input0", data), ("input1", filters)]
    ∃ (direct indexed : Fragment) (call : Call) (statement : Statement) (result : Tensor),
      translateDirect ⟨"c", .convolution attrs, 2, .ok [data.type, filters.type],
        .ok [⟨.ofLengths [1, 1, 2, 2], .int32⟩]⟩ = .ok direct ∧
      readCall? direct.code = some call ∧
      translateIndexed ⟨"c", .convolution attrs, 2, .ok [data.type, filters.type],
        .ok [⟨.ofLengths [1, 1, 2, 2], .int32⟩]⟩ = .ok indexed ∧
      readStatement? indexed.code = some statement ∧
      call.run? inputs = some result ∧ statement.run? inputs result.shape = some result ∧
      @evaluate .wide attrs [data, filters] = .ok [result] := by
  intro data filters attrs inputs
  obtain ⟨direct, indexed, call, statement, channelsFirst, e, height, width, translated, read,
    translated', read', same, shape, shape', -, runs⟩ :=
    @translations_compute_sums .wide "c" [2, 1] [1, 1] [1, 0] [0, 0] "NCHW" [1, 1, 3, 3]
      [1, 1, 2, 2] .int32 .int32 [⟨.ofLengths [1, 1, 2, 2], .int32⟩] (by rfl)
  obtain ⟨-, called, ran, evaluated, allocated⟩ :=
    runs data filters ⟨rfl, by decide⟩ ⟨rfl, by decide⟩ rfl rfl rfl rfl
  -- The extents and the axes are those given, and arrays as small as these can be held.
  have held : @IsHeld e height width .wide data.etype := by
    let _host : Host := .wide
    have known : attributes true ⟨2, 1, 1, 0, by decide, by decide⟩
        ⟨1, 1, 0, 0, by decide, by decide⟩ = attributes channelsFirst height width := same
    obtain ⟨rfl, rfl, rfl⟩ := attributes_injective known
    obtain ⟨batch, channels, rows, columns, count, kernelHeight, kernelWidth⟩ := e
    cases shape
    cases shape'
    exact ⟨by decide, ⟨by decide, by decide⟩, ⟨by decide, by decide⟩⟩
  rw [allocated.mpr held] at evaluated
  exact ⟨direct, indexed, call, statement, _, translated, read, translated', read', called, ran,
    evaluated⟩

end Convolution

end OpGraph
