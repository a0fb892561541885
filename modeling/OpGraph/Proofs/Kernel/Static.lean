import OpGraph.Proofs.Kernel.Convolution.Direct
import OpGraph.Proofs.Kernel.Convolution.Indexed
import OpGraph.Proofs.Kernel.Dot
import OpGraph.Proofs.Kernel.ReplaceSlice
import OpGraph.Proofs.Kernel.Slice
import OpGraph.Proofs.Operator.Evaluation
import OpGraph.Proofs.Operator.Overlong
import OpGraph.Registry

/-!
# Kernels on constant types

An operator with integer attributes that accepts constant types infers a constant type, and what
it then is like is known exactly (`Operator.OnConstants`). On such a node every translator that
the library has for the operator writes a kernel, whatever the attributes are, and fills all of
its placeholders (`OnConstants.translates`). A replacement has no direct kernel.
-/
namespace OpGraph

open StridedRange (Fits bounds)

namespace Operator

/-- An operator with the constant types that it accepts and the type that it infers of them. -/
inductive OnConstants : Operator → List TensorType → TensorType → Prop
  | convolution (channelsFirst : Bool) {e : Convolution.Extents} {height width : WindowAxis}
      (fits : e.Fits height width) {etype : ElementType} (known : etype ≠ .dynamic) :
    OnConstants (.convolution (Convolution.attributes channelsFirst height width))
      [⟨.ofLengths (e.data channelsFirst), etype⟩, ⟨.ofLengths (e.kernel channelsFirst), etype⟩]
      ⟨.ofLengths (e.output channelsFirst height width), etype⟩
  | replaceSlice {ranges : List StridedRange} {shape : List Nat}
      (fits : List.Forall₂ Fits ranges shape) {etype : ElementType} (known : etype ≠ .dynamic) :
    OnConstants (.replaceSlice (bounds ranges))
      [⟨.ofLengths shape, etype⟩, ⟨.ofLengths (ranges.map StridedRange.length), etype⟩]
      ⟨.ofLengths shape, etype⟩
  | slice {ranges : List StridedRange} {shape : List Nat}
      (fits : List.Forall₂ Fits ranges shape) {etype : ElementType} (known : etype ≠ .dynamic) :
    OnConstants (.slice (bounds ranges)) [⟨.ofLengths shape, etype⟩]
      ⟨.ofLengths (ranges.map StridedRange.length), etype⟩
  | dot (rows inner columns : Nat) {etype : ElementType} (known : etype ≠ .dynamic) :
    OnConstants .dot [⟨.ofLengths [rows, inner], etype⟩, ⟨.ofLengths [inner, columns], etype⟩]
      ⟨.ofLengths [rows, columns], etype⟩

variable {operator : Operator} {inputs types : List TensorType} {type : TensorType}

theorem OnConstants.isConstant (constant : operator.OnConstants inputs type) :
    type.isConstant = true := by
  rw [TensorType.isConstant_iff]
  cases constant <;> exact ⟨_, _, ‹_›, rfl⟩

/-- What is accepted of constant types is of one of these forms. -/
theorem IsIntegral.onConstants (integral : operator.IsIntegral)
    (constant : ∀ input ∈ inputs, input.isConstant = true)
    (accepted : operator.infer inputs = .ok types) :
    ∃ type, types = [type] ∧ operator.OnConstants inputs type := by
  simp only [TensorType.isConstant_iff] at constant
  have arity := integral.arity accepted
  -- All element types that meet are known, so they are one.
  cases integral with
  | convolution strides dilations below above format =>
    obtain ⟨data, filters, rfl⟩ := List.length_eq_two.mp arity
    obtain ⟨shape, etype, known, rfl⟩ := constant data (by simp)
    obtain ⟨shape', etype', known', rfl⟩ := constant filters (by simp)
    obtain ⟨channelsFirst, height, width, e, merged, same, rfl, rfl, fits, merges, rfl⟩ :=
      Convolution.infer_ofLengths strides dilations below above format shape shape' etype etype'
        types accepted
    obtain ⟨rfl, rfl⟩ := ElementType.merge_eq_some _ _ merged known known' merges
    rw [same]
    exact ⟨_, rfl, .convolution channelsFirst fits known⟩
  | replaceSlice lower upper strides =>
    obtain ⟨target, replacement, rfl⟩ := List.length_eq_two.mp arity
    obtain ⟨shape, etype, known, rfl⟩ := constant target (by simp)
    obtain ⟨shape', etype', known', rfl⟩ := constant replacement (by simp)
    obtain ⟨ranges, merged, same, fits, rfl, merges, rfl⟩ :=
      ReplaceSlice.infer_ofLengths lower upper strides shape shape' etype etype' types accepted
    obtain ⟨rfl, rfl⟩ := ElementType.merge_eq_some _ _ merged known known' merges
    rw [same]
    exact ⟨_, rfl, .replaceSlice fits known⟩
  | slice lower upper strides =>
    obtain ⟨input, rfl⟩ := List.length_eq_one_iff.mp arity
    obtain ⟨shape, etype, known, rfl⟩ := constant input (by simp)
    obtain ⟨ranges, same, fits, rfl⟩ :=
      Slice.infer_ofLengths lower upper strides shape etype types accepted
    rw [same]
    exact ⟨_, rfl, .slice fits known⟩
  | dot =>
    obtain ⟨a, b, rfl⟩ := List.length_eq_two.mp arity
    obtain ⟨shape, etype, known, rfl⟩ := constant a (by simp)
    obtain ⟨shape', etype', known', rfl⟩ := constant b (by simp)
    obtain ⟨rows, inner, columns, merged, rfl, rfl, merges, rfl⟩ :=
      Dot.infer_ofLengths shape shape' etype etype' types accepted
    obtain ⟨rfl, rfl⟩ := ElementType.merge_eq_some _ _ merged known known' merges
    exact ⟨_, rfl, .dot rows inner columns known⟩

theorem isParameter_of_kind (kind : operator.kind = ReplaceSlice.kind) :
    operator.isParameter = false := by
  cases operator with
  | parameter type => exact absurd kind (by decide : "Parameter" ≠ ReplaceSlice.kind)
  | _ => rfl

end Operator

namespace Translator

/-- The kind of the operators that a translator is for. -/
def kind : Translator → String
  | convolutionDirect | convolutionIndexed => Convolution.kind
  | replaceSliceIndexed => ReplaceSlice.kind
  | sliceDirect | sliceIndexed => Slice.kind
  | dotDirect | dotIndexed => Dot.kind

def dialect : Translator → Dialect
  | convolutionDirect | sliceDirect | dotDirect => .direct
  | convolutionIndexed | replaceSliceIndexed | sliceIndexed | dotIndexed => .indexed

theorem registered (translator : Translator) :
    Registry.library.translator translator.kind translator.dialect = .ok translator := by
  cases translator <;> rfl

end Translator

namespace Operator

/-- The data layout that a plan is chosen by. -/
def layout : Operator → Value
  | convolution attrs => attrs.dataFormat
  | _ => .text ""

end Operator

namespace Fragment

/-- A kernel of an operator in a dialect. It has a plan in the indexed dialect only, which is the
one for the kind and the layout of the operator. -/
structure IsKernel (fragment : Fragment) (operator : Operator) (dialect : Dialect) : Prop
    extends fragment.IsComplete where
  inDialect : fragment.dialect = dialect
  written : fragment.code ≠ ""
  planned : match dialect with
    | .direct => fragment.plan = none
    | .indexed => ∃ plan, ExecutionPlan.find (.text operator.kind) operator.layout = .ok plan ∧
        fragment.plan = some plan.name

theorem isKernel_direct (operator : Operator) {code : String}
    (unmarked : Template.IsUnmarked code) (written : code ≠ "") :
    (direct code).IsKernel operator .direct :=
  ⟨isComplete_direct unmarked, rfl, written, rfl⟩

theorem isKernel_indexed {operator : Operator} {plan : ExecutionPlan} {code : String}
    (found : ExecutionPlan.find (.text operator.kind) operator.layout = .ok plan)
    (unmarked : Template.IsUnmarked code) (written : code ≠ "") :
    (indexed code plan.name).IsKernel operator .indexed :=
  ⟨isComplete_indexed unmarked plan, rfl, written, plan, found, rfl⟩

end Fragment

namespace NodeView

/-- The library writes a kernel for the node. -/
def IsTranslated (node : NodeView) (dialect : Dialect) : Prop :=
  ∃ fragment, Registry.library.translate node dialect = .ok fragment ∧
    fragment.IsKernel node.operator dialect

theorem IsTranslated.of_run {node : NodeView} (translator : Translator)
    (kind : node.kind = translator.kind) {fragment : Fragment}
    (ran : translator.run node = .ok fragment)
    (isKernel : fragment.IsKernel node.operator translator.dialect) :
    node.IsTranslated translator.dialect := by
  refine ⟨fragment, ?_, isKernel⟩
  rw [Registry.translate, kind, translator.registered, Outcome.ok_bind, ran]

/-- The library translates the node in all dialects that it has translators for. -/
structure Translates (node : NodeView) : Prop where
  indexed : node.IsTranslated .indexed
  direct : node.kind ≠ ReplaceSlice.kind → node.IsTranslated .direct
  refused : node.kind = ReplaceSlice.kind →
    Registry.library.translate node .direct = .error (.noTranslator ReplaceSlice.kind .direct)

/-- No translator that is registered for the kind of the node fails. -/
theorem Translates.run {node : NodeView} (translates : node.Translates) {dialect : Dialect}
    {translator : Translator}
    (registered : Registry.library.translator node.kind dialect = .ok translator) :
    ∃ fragment, translator.run node = .ok fragment ∧ fragment.IsKernel node.operator dialect := by
  have translated : node.IsTranslated dialect := by
    cases dialect with
    | indexed => exact translates.indexed
    | direct =>
      -- Replacements have none registered, so the node is no replacement.
      refine translates.direct fun kind => ?_
      rw [kind] at registered
      cases registered
  rwa [IsTranslated, Registry.translate, registered, Outcome.ok_bind] at translated

/-- The one failure of a translation is that there is no translator. -/
theorem Translates.fails_direct {node : NodeView} (translates : node.Translates) :
    Outcome.Fails (· = .noTranslator ReplaceSlice.kind .direct)
      (Registry.library.translate node .direct) := by
  by_cases kind : node.kind = ReplaceSlice.kind
  · rw [translates.refused kind]
    exact .error rfl
  · obtain ⟨fragment, written, -⟩ := translates.direct kind
    rw [written]
    exact .ok fragment

end NodeView

open Fragment (isKernel_direct isKernel_indexed)

/-- Every node on constant types is translated, as far as its kind has translators and its numbers
can be written. -/
theorem Operator.OnConstants.translates {operator : Operator} {inputs : List TensorType}
    {type : TensorType} (constant : operator.OnConstants inputs type)
    (short : operator.isShort = true) (areShort : inputs.all TensorType.isShort = true)
    (output : type.isShort = true) (name : String) :
    NodeView.Translates ⟨name, operator, inputs.length, .ok inputs, .ok [type]⟩ := by
  -- Both kernels are known texts, and no text of theirs holds a placeholder.
  cases constant with
  | @convolution channelsFirst e height width fits etype known =>
    simp only [List.all_cons, List.all_nil, Bool.and_true, Bool.and_eq_true] at areShort
    have indexed := Convolution.translateIndexed_attributes name channelsFirst e height width etype
      etype etype short areShort.1 output
    have direct := Convolution.translateDirect_attributes name channelsFirst e height width etype
      etype etype short areShort.1 areShort.2 output
    refine ⟨.of_run .convolutionIndexed rfl indexed ?_,
      fun _ => .of_run .convolutionDirect rfl direct ?_,
      fun kind => absurd kind (by decide : Convolution.kind ≠ ReplaceSlice.kind)⟩
    · refine isKernel_indexed ?_ (Convolution.isUnmarked_codeText channelsFirst height width _ _ _ _)
        (Convolution.codeText_ne_empty _ _ _ _ _ _)
      cases channelsFirst <;> rfl
    · exact isKernel_direct _ (Convolution.isUnmarked_call channelsFirst e height width)
        (Reading.Call.text_ne_empty _)
  | @replaceSlice ranges shape fits etype known =>
    have indexed := ReplaceSlice.translateIndexed_bounds name ranges shape etype
      [⟨.ofLengths shape, etype⟩, ⟨.ofLengths (ranges.map StridedRange.length), etype⟩] short
    refine ⟨.of_run .replaceSliceIndexed rfl indexed ?_, fun other => absurd rfl other, fun _ => ?_⟩
    · exact isKernel_indexed rfl (ReplaceSlice.isUnmarked_codeText shape ranges)
        (ReplaceSlice.codeText_ne_empty _ _ _)
    · rfl
  | @slice ranges shape fits etype known =>
    simp only [List.all_cons, List.all_nil, Bool.and_true] at areShort
    have indexed := Slice.translateIndexed_bounds name ranges etype [⟨.ofLengths shape, etype⟩]
      short
    have direct := Slice.translateDirect_bounds name ranges shape etype etype short areShort
    refine ⟨.of_run .sliceIndexed rfl indexed ?_,
      fun _ => .of_run .sliceDirect rfl direct ?_,
      fun kind => absurd kind (by decide : Slice.kind ≠ ReplaceSlice.kind)⟩
    · exact isKernel_indexed rfl (Slice.isUnmarked_codeText ranges) (Slice.codeText_ne_empty _ _)
    · exact isKernel_direct _ (Slice.isUnmarked_call shape ranges) (Reading.Call.text_ne_empty _)
  | @dot rows inner columns etype known =>
    simp only [List.all_cons, List.all_nil, Bool.and_true, Bool.and_eq_true] at areShort
    have indexed := Dot.translateIndexed_matrices rows inner name
      ⟨.ofLengths [inner, columns], etype⟩ etype [⟨.ofLengths [rows, columns], etype⟩] areShort.1
    have direct := Dot.translateDirect_matrices rows inner columns name etype etype etype
      areShort.1 areShort.2
    refine ⟨.of_run .dotIndexed rfl indexed ?_,
      fun _ => .of_run .dotDirect rfl direct ?_,
      fun kind => absurd kind (by decide : Dot.kind ≠ ReplaceSlice.kind)⟩
    · exact isKernel_indexed rfl (Dot.isUnmarked_codeText inner) (Dot.codeText_ne_empty inner)
    · exact isKernel_direct _ (Dot.isUnmarked_call rows inner columns)
        (Reading.Call.text_ne_empty _)

end OpGraph
