import OpGraph.Kernel.Translation.Slice
import OpGraph.Proofs.Kernel.Call
import OpGraph.Proofs.Operator.Slice
import OpGraph.Proofs.Reading.Affine

/-!
# Kernels of slices

Both kernels of an accepted slice take the elements that evaluation takes. The call hands the
bounds and strides on as they are; the statement reads the input at the lower bound plus the
coordinate times the stride, which never leaves the input (`inBounds_sources`).
-/
namespace OpGraph

open Reading

namespace Slice

open StridedRange (Fits bounds sources)

/-! ### The call -/

def call (shape : List Nat) (ranges : List StridedRange) : Reading.Call :=
  Call.written [shape] (ranges.map StridedRange.length) .stridedSlice
    [("begin", ranges.map fun r => (r.lower : Int)), ("end", ranges.map fun r => (r.upper : Int)),
      ("strides", ranges.map fun r => (r.stride : Int))]

theorem isPlain_call (shape : List Nat) (ranges : List StridedRange) :
    (call shape ranges).IsPlain := by
  apply Call.isPlain_written
  · simp only [List.forall_mem_cons]
    refine ⟨?_, ?_, ?_, by simp⟩ <;> decide
  · simp

theorem isUnmarked_call (shape : List Nat) (ranges : List StridedRange) :
    Template.IsUnmarked (call shape ranges).text := by
  apply Call.isUnmarked_written
  simp only [List.forall_mem_cons]
  refine ⟨?_, ?_, ?_, by simp⟩ <;> decide

private theorem render_argumentsTemplate (lower upper strides : List Int) :
    Substitutions.render ⟨[("begin", integerList lower), ("end", integerList upper),
      ("strides", integerList strides)]⟩ argumentsTemplate =
        .ok (Call.keyText [("begin", lower), ("end", upper), ("strides", strides)]) := by
  have template : argumentsTemplate = Template.written
      [.text ("begin" ++ "="), .hole "begin", .text (", " ++ "end" ++ "="), .hole "end",
        .text (", " ++ "strides" ++ "="), .hole "strides"] := by
    decide
  rw [Substitutions.render, template, Template.render_written _ _ (by decide)]
  · simp [-String.reduceAppend, Template.filled, Template.Segment.filled, Substitutions.get?,
      List.lookup_cons, Call.keyText, Text.commaList, String.intercalate_cons_cons,
      String.append_assoc]
  · simp [Template.Segment.known, Substitutions.get?, List.lookup_cons]

theorem translateDirect_bounds (name : String) (ranges : List StridedRange) (shape : List Nat)
    (etype etype' : ElementType) (short : (bounds ranges).isShort = true)
    (known : (Shape.ofLengths shape).isShort = true) :
    translateDirect ⟨name, .slice (bounds ranges), 1, .ok [⟨.ofLengths shape, etype⟩],
        .ok [⟨.ofLengths (ranges.map StridedRange.length), etype'⟩]⟩ =
      .ok (.direct (call shape ranges).text) := by
  have lists : (bounds ranges).lower = (ranges.map fun r => (r.lower : Int)).map .int ∧
      (bounds ranges).upper = (ranges.map fun r => (r.upper : Int)).map .int ∧
      (bounds ranges).strides = (ranges.map fun r => (r.stride : Int)).map .int :=
    ⟨rfl, rfl, rfl⟩
  have found : Primitive.find (.text kind) (.text "") = .ok .stridedSlice := by
    rfl
  have code := Call.code_eq_text name (.slice (bounds ranges)) [⟨.ofLengths shape, etype⟩] [shape]
    (ranges.map StridedRange.length) etype' .stridedSlice
    [("begin", ranges.map fun r => (r.lower : Int)), ("end", ranges.map fun r => (r.upper : Int)),
      ("strides", ranges.map fun r => (r.stride : Int))] rfl (by simp) (by simp [known])
    (StridedRange.isShort_lengths short)
  simp only [SliceBounds.isShort, lists, Value.isShort_ints, Bool.and_eq_true] at short
  simp only [translateDirect, requireSlice, Outcome.ok_bind, lists, found, Substitutions.empty,
    Substitutions.setInts_eq _ "begin" _ (by decide) short.1.1,
    Substitutions.setInts_eq _ "end" _ (by decide) short.1.2,
    Substitutions.setInts_eq _ "strides" _ (by decide) short.2, Substitutions.insert, String.reduceEq,
    if_false, render_argumentsTemplate]
  rw [List.length_singleton] at code
  rw [code]
  rfl

private theorem progressions?_bounds (ranges : List StridedRange) (extents : List Nat)
    (fits : List.Forall₂ Fits ranges extents) :
    progressions? extents (ranges.map fun r => (r.lower : Int))
        (ranges.map fun r => (r.upper : Int)) (ranges.map fun r => (r.stride : Int)) =
      some (ranges.map StridedRange.progression) := by
  induction fits with
  | nil => rfl
  | @cons r extent ranges extents fit _ ih =>
    have moving : ¬(r.stride : Int) = 0 := by
      have := r.moving
      omega
    simp only [List.map_cons, progressions?, if_neg moving, ih, Option.bind_eq_bind,
      Option.bind_some, Option.pure_def, r.ofBounds_fits extent fit]

section Running

variable (ranges : List StridedRange) (a : Tensor) (fits : List.Forall₂ Fits ranges a.shape)
  (ranked : ranges ≠ [])

include ranked in
/-- A slice with axes is an array of the elements at the sources. -/
theorem sliced_eq_ofFn : sliced ranges a =
    .ofElements a.etype (.ofFn (ranges.map StridedRange.length) fun index =>
      a.elements.get (sources ranges index)) :=
  (sliced_eq_ofElements ranges a ranked).trans
    (congrArg (Tensor.ofElements a.etype) (elements_sliced ranges a))

include fits ranked in
theorem stridedSlice?_bounds :
    stridedSlice? a (ranges.map fun r => (r.lower : Int)) (ranges.map fun r => (r.upper : Int))
      (ranges.map fun r => (r.stride : Int)) = some (sliced ranges a) := by
  have counts := StridedRange.map_count_progression ranges
  have elements := NDArray.tabulate?_eq_some (ranges.map StridedRange.length)
    (fun index => elementAt? a (List.zipWith
      (fun (p : Progression) (k : Nat) => p.start + (k : Int) * p.step)
      (ranges.map StridedRange.progression) index))
    (fun index => a.elements.get (sources ranges index)) ?_
  · simp only [stridedSlice?, progressions?_bounds ranges a.shape fits, counts, elements,
      Option.bind_eq_bind, Option.bind_some, Option.pure_def, sliced_eq_ofFn ranges a ranked]
  · intro index inside
    have place := StridedRange.inBounds_sources ranges index a.shape fits inside
    have coordinates :
        List.zipWith (fun (p : Progression) (k : Nat) => p.start + (k : Int) * p.step)
          (ranges.map StridedRange.progression) index = (sources ranges index).map Int.ofNat := by
      rw [List.zipWith_map_left, sources, List.map_zipWith]
      simp [StridedRange.progression]
    -- The coordinates read are places of the input, so the read has a value.
    rw [coordinates]
    exact elementAt?_natCast a _ place

include fits ranked in
theorem run?_call : (call a.shape ranges).run? [("input0", a)] = some (sliced ranges a) := by
  rw [← Call.operands_single]
  exact Call.run?_written [a] (sliced ranges a) rfl (stridedSlice?_bounds ranges a fits ranked)
    (shape_sliced ranges a)

end Running

/-! ### The statement -/

/-- The coordinate of the input at a coordinate of one axis of the output. -/
def source (name : String) (r : StridedRange) : Index :=
  Affine.expression r.lower [(name, (r.stride : Int))]

def statement (ranges : List StridedRange) : Statement where
  output := "output0"
  axes := Affine.axes "D" ranges.length
  accumulates := false
  factors := [⟨"input0", List.zipWith source (Affine.axes "D" ranges.length) ranges⟩]
  guard := none
  domains := []

section Texts

/-- The input positions of the axes when all numbers can be written. -/
def positionTexts : List String → List Value → List Value → List String
  | axis :: axes, lower :: lowers, stride :: strides =>
    Affine.indexText lower [(axis, stride)] :: positionTexts axes lowers strides
  | _, _, _ => []

private theorem positions_of_short (axes : List String) {lowers strides : List Value}
    (short : lowers.all Value.isShort = true) (short' : strides.all Value.isShort = true) :
    positions axes lowers strides = .ok (positionTexts axes lowers strides) := by
  fun_induction positionTexts axes lowers strides with
  | case1 axis axes lower lowers stride strides ih =>
    simp only [List.all_cons, Bool.and_eq_true] at short short'
    have written : Affine.isShort lower [(axis, stride)] = true := by
      simp [Affine.isShort, short.1, short'.1]
    simp only [positions, Affine.index_eq, writeWhen_of_short _ written, ih short.2 short'.2,
      Outcome.ok_bind]
    rfl
  | case2 axes lowers strides ended =>
    rw [positions]
    exact ended

private theorem denotes_positions (names : List String) (ranges : List StridedRange)
    (factors : ∀ name ∈ names, IsFactor (tokens name) (.axis name))
    (ranks : names.length = ranges.length) :
    List.Forall₂ Denotes
      (positionTexts names (bounds ranges).lower (bounds ranges).strides)
      (List.zipWith source names ranges) := by
  induction names generalizing ranges with
  | nil =>
    rw [List.length_eq_zero_iff.mp ranks.symm]
    exact .nil
  | cons name names ih =>
    obtain _ | ⟨r, ranges⟩ := ranges
    · simp at ranks
    have factor := factors name (by simp)
    refine .cons ?_ (ih ranges (fun other member => factors other (by simp [member]))
      (by simpa using ranks))
    exact Affine.denotes_index r.lower [(name, (r.stride : Int))] (by simpa using factor)

private def codeText (output input : String) : String :=
  " output0" ++ output ++ " = input0" ++ input ++ "; "

theorem codeText_ne_empty (output input : String) : codeText output input ≠ "" := by
  simp [codeText]

private theorem render_indexedTemplate (output input : String) :
    Substitutions.render ⟨[("output_layout", output), ("input_layout", input)]⟩ indexedTemplate =
      .ok (codeText output input) := by
  have template : indexedTemplate = Template.written
      [.text " output0", .hole "output_layout", .text " = input0", .hole "input_layout",
        .text "; "] := by
    decide
  rw [Substitutions.render, template, Template.render_written _ _ (by decide)]
  · simp [Template.filled, Template.Segment.filled, Substitutions.get?, List.lookup_cons, codeText,
      String.append_assoc]
  · simp [Template.Segment.known, Substitutions.get?, List.lookup_cons]

private theorem tokens_codeText (axes texts : List String) :
    tokens (codeText (Affine.layout axes) (Affine.layout texts)) =
      tokens ("output0" ++ Affine.layout axes) ++ .mark '=' ::
        (tokens ("input0" ++ Affine.layout texts) ++ [.mark ';']) := by
  have whole : codeText (Affine.layout axes) (Affine.layout texts) =
      " " ++ (("output0" ++ Affine.layout axes) ++ " = " ++
        (("input0" ++ Affine.layout texts) ++ "; ")) := by
    simp only [codeText, String.append_assoc]
    rfl
  rw [whole, tokens_append _ _ (Or.inl (by decide)),
    tokens_around " = " (by decide) (by decide) (by decide),
    tokens_append _ "; " (Or.inr (by decide)), show tokens " " = [] by decide,
    show tokens " = " = [.mark '='] by decide, show tokens "; " = [.mark ';'] by decide]
  simp

theorem readStatement?_codeText (ranges : List StridedRange) (ranked : ranges ≠ []) :
    let axes := Affine.axes "D" ranges.length
    readStatement? (codeText (Affine.layout axes)
      (Affine.layout (positionTexts axes (bounds ranges).lower (bounds ranges).strides))) =
        some (statement ranges) := by
  intro axes
  have sources := denotes_positions axes ranges
    (fun name member => isFactor_outputAxis name _ member) (by simp [axes])
  -- An access with no index is not read, so there must be an axis.
  have someAxis : axes ≠ [] := by
    intro none
    apply ranked
    rw [← List.length_eq_zero_iff, ← length_axes "D" ranges.length]
    exact List.length_eq_zero_iff.mpr none
  have somePosition : positionTexts axes (bounds ranges).lower (bounds ranges).strides ≠ [] := by
    intro none
    have lengths := sources.length_eq
    rw [none, List.length_zipWith, length_axes, Nat.min_self] at lengths
    exact ranked (List.length_eq_zero_iff.mp lengths.symm)
  have output := readAccess?_written "output0" (by decide) axes _ (denotes_axes _) someAxis
  have input := readAccess?_written "input0" (by decide) _ _ sources somePosition
  exact readStatement?_eq_some (tokens_codeText axes _) (output _) (by simp) rfl
    (readFactors?_single (input [.mark ';']) (by simp)) rfl rfl rfl

theorem translateIndexed_bounds (name : String) (ranges : List StridedRange)
    (etype : ElementType) (inputs : List TensorType) (short : (bounds ranges).isShort = true) :
    let axes := Affine.axes "D" ranges.length
    translateIndexed ⟨name, .slice (bounds ranges), inputs.length, .ok inputs,
        .ok [⟨.ofLengths (ranges.map StridedRange.length), etype⟩]⟩ =
      .ok (.indexed (codeText (Affine.layout axes)
        (Affine.layout (positionTexts axes (bounds ranges).lower (bounds ranges).strides)))
        ExecutionPlan.slice.name) := by
  intro axes
  have plan : ExecutionPlan.find (.text kind) (.text "") = .ok .slice := by
    rfl
  simp only [SliceBounds.isShort, Bool.and_eq_true] at short
  simp only [translateIndexed, requireSlice, Outcome.ok_bind, NodeView.outputShape, typeAt,
    List.getElem?_cons_zero, pure_bind, Shape.toLengths_ofLengths, List.length_map,
    positions_of_short _ short.1.1 short.2, Substitutions.empty,
    Substitutions.setText_eq _ "output_layout" _ (by decide),
    Substitutions.setText_eq _ "input_layout" _ (by decide), Substitutions.insert,
    String.reduceEq, if_false, render_indexedTemplate, plan]
  rfl

private theorem isUnmarked_positions (names : List String) (ranges : List StridedRange)
    (unmarked : ∀ name ∈ names, Template.IsUnmarked name) :
    ∀ text ∈ positionTexts names (bounds ranges).lower (bounds ranges).strides,
      Template.IsUnmarked text := by
  induction names generalizing ranges with
  | nil => exact nofun
  | cons name names ih =>
    obtain _ | ⟨r, ranges⟩ := ranges
    · exact nofun
    refine List.forall_mem_cons.mpr ⟨?_, ih ranges fun other member => unmarked other ?_⟩
    · apply Template.isUnmarked_index
      simp [unmarked name]
    · exact List.mem_cons_of_mem _ member

theorem isUnmarked_codeText (ranges : List StridedRange) :
    let axes := Affine.axes "D" ranges.length
    Template.IsUnmarked (codeText (Affine.layout axes)
      (Affine.layout (positionTexts axes (bounds ranges).lower (bounds ranges).strides))) := by
  intro axes
  have names := Template.isUnmarked_axes "D" (by decide) ranges.length
  have output := Template.isUnmarked_layout names
  have input := Template.isUnmarked_layout (isUnmarked_positions axes ranges names)
  unfold codeText
  simp only [Template.isUnmarked_append, output, input, and_true, axes]
  decide

end Texts

/-! ### Running the statement -/

private theorem reduced_statement (ranges : List StridedRange) :
    (statement ranges).reduced = [] := by
  apply Statement.reduced_eq_nil
  -- Each position names the one axis of the output that it is about.
  intro access factor index among name read
  obtain rfl := List.mem_singleton.mp factor
  obtain ⟨place, inList, at'⟩ := List.mem_iff_getElem.mp among
  rw [List.getElem_zipWith] at at'
  rw [← at', source, Affine.names_expression, List.map_singleton, List.mem_singleton] at read
  rw [read]
  exact List.getElem_mem _

private theorem mapM_value?_source (axes : Axes) (names : List String) (index : List Nat)
    (ranges : List StridedRange) (holds : Holds axes names index)
    (ranks : ranges.length = index.length) :
    (List.zipWith source names ranges).mapM (Index.value? axes) =
      some ((sources ranges index).map Int.ofNat) := by
  rw [Outcome.mapM_eq_some_iff]
  induction holds generalizing ranges with
  | nil =>
    rw [List.length_eq_zero_iff.mp ranks]
    exact .nil
  | @cons name k names index held _ ih =>
    obtain _ | ⟨r, ranges⟩ := ranges
    · simp at ranks
    refine .cons ?_ (ih ranges (by simpa using ranks))
    have value := Affine.value?_expression axes r.lower [(name, (r.stride : Int))] (fun _ => k)
      (by simpa using held)
    rw [source, value]
    simp

section Running

variable (ranges : List StridedRange) (a : Tensor) (fits : List.Forall₂ Fits ranges a.shape)
  (ranked : ranges ≠ [])

private theorem term?_statement (axes : Axes) (index : List Nat)
    (holds : Holds axes (Affine.axes "D" ranges.length) index)
    (ranks : ranges.length = index.length)
    (place : NDArray.InBounds a.shape (sources ranges index)) :
    (statement ranges).term? [("input0", a)] axes =
      some (a.elements.get (sources ranges index)) := by
  have element := Access.value?_inBounds [("input0", a)] axes
    ⟨"input0", List.zipWith source (Affine.axes "D" ranges.length) ranges⟩ a _
    (by simp) (mapM_value?_source axes _ index ranges holds ranks) place
  simp [Statement.term?, Statement.product?, statement, element]

include fits ranked in
theorem run?_statement (array : a.IsArray) :
    (statement ranges).run? [("input0", a)] (ranges.map StridedRange.length) =
      some (sliced ranges a) := by
  -- Nothing is summed: every axis that is read is an axis of the output.
  have extents : (statement ranges).reducedExtents? [("input0", a)]
      (ranges.map StridedRange.length) = some [] := by
    rw [Statement.reducedExtents?, reduced_statement]
    rfl
  have runs := Statement.run?_eq_some (statement ranges) "input0" a []
    (ranges.map StridedRange.length) [] (fun index => a.elements.get (sources ranges index))
    rfl (by simp [statement]) rfl extents (fun _ => rfl) ?_
  · rw [runs, sliced_eq_ofFn ranges a ranked]
    congr 2
    apply NDArray.ofFn_congr
    intro index inside
    exact array.reduce_get _ (StridedRange.inBounds_sources ranges index a.shape fits inside)
  · intro index inside
    have length : index.length = ranges.length := by
      rw [NDArray.inBounds_length _ index inside, List.length_map]
    have place := StridedRange.inBounds_sources ranges index a.shape fits inside
    have holds := outputAxes_holds (statement ranges) index (nodup_axes "D" _)
      (by simp [statement, length])
    exact term?_statement ranges a _ index holds length.symm place

end Running

end Slice

end OpGraph
