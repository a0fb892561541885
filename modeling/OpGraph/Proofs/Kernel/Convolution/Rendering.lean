import OpGraph.Kernel.Translation.Convolution
import OpGraph.Proofs.Operator.WindowAxis
import OpGraph.Proofs.Reading.Affine
import OpGraph.Proofs.Reading.Axes
import OpGraph.Proofs.Rendering

/-!
# Texts of indexed kernels of convolutions

The positions of the input are written by templates, which are filled in with the numbers of the
spatial axes before the layout of the data and the guard are written around them. A filled
template is the affine index text of its axis, with the padding below as a negative offset
(`Spacing.text_eq_index`), and affine index texts have the values that they stand for
(`index_texts_denote_and_agree`).
-/
namespace OpGraph

open Reading

namespace Convolution

open Template (Segment written written_append filled filled_append render_written)

theorem entry_eq_ok {values : List Value} {axis : Nat} {value : Value} :
    entry values axis = .ok value ↔ values[axis]? = some value := by
  unfold entry
  split
  next found => simp [found]
  next none => simp [none]

/-! ### One spatial axis -/

/-- The numbers that a position of the input depends on along one spatial axis. -/
@[ext] structure Spacing where
  stride : Int
  dilation : Int
  below : Int

namespace Spacing

/-- The attributes have these numbers along an axis. -/
structure IsAlong (s : Spacing) (attrs : ConvolutionAttributes) (axis : Nat) : Prop where
  below : attrs.paddingBelow[axis]? = some (.int s.below)
  stride : attrs.strides[axis]? = some (.int s.stride)
  dilation : attrs.dilations[axis]? = some (.int s.dilation)

theorem IsAlong.unique {s s' : Spacing} {attrs : ConvolutionAttributes} {axis : Nat}
    (along : s.IsAlong attrs axis) (along' : s'.IsAlong attrs axis) : s = s' := by
  have below := along.below.symm.trans along'.below
  have stride := along.stride.symm.trans along'.stride
  have dilation := along.dilation.symm.trans along'.dilation
  simp only [Option.some.injEq, Value.int.injEq] at below stride dilation
  exact Spacing.ext stride dilation below

/-- Whether the numbers can be written. -/
def isShort (s : Spacing) : Bool :=
  Text.isShort s.below && Text.isShort s.stride && Text.isShort s.dilation

/-- The numbers are set under the keys of an axis. -/
structure IsHeld (s : Spacing) (subs : Substitutions) (axis : Nat) : Prop where
  below : subs.get? (axisKey "pad" axis) = some (toString s.below)
  stride : subs.get? (axisKey "stride" axis) = some (toString s.stride)
  dilation : subs.get? (axisKey "dilation" axis) = some (toString s.dilation)

/-- The entries with the numbers set under the keys of an axis. -/
def hold (s : Spacing) (axis : Nat) (entries : List (String × String)) : List (String × String) :=
  Substitutions.insert (axisKey "dilation" axis) (toString s.dilation)
    (Substitutions.insert (axisKey "stride" axis) (toString s.stride)
      (Substitutions.insert (axisKey "pad" axis) (toString s.below) entries))

variable (s : Spacing) (place position : String)

/-- The position as it is written: the padding first, without what does not change it. -/
def text : String :=
  (if s.below = 0 then "" else "-" ++ toString s.below ++ " + ") ++
    (Affine.termText place (.int s.stride) ++ " + " ++ Affine.termText position (.int s.dilation))

private theorem toString_neg (n : Int) (positive : 0 < n) :
    toString (-n) = "-" ++ toString n := by
  obtain ⟨m, rfl⟩ := Int.eq_succ_of_zero_lt positive
  rfl

/-- The text is the affine index text with the padding as a negative offset. -/
theorem text_eq_index (nonneg : 0 ≤ s.below) :
    s.text place position = Affine.indexText (.int (-s.below))
      (Affine.valued [(place, s.stride), (position, s.dilation)]) := by
  have offset : (Value.int (-s.below)).equalsInt 0 = true ↔ s.below = 0 := by
    rw [Value.equalsInt_int]
    omega
  have display : (Value.int (-s.below)).display = toString (-s.below) := rfl
  simp only [text, Affine.indexText, offset, display, Affine.valued, List.map_cons, List.map_nil]
  by_cases unpadded : s.below = 0
  · simp [unpadded, String.intercalate_cons_cons]
  -- The sign that the template puts in front is that of the negated padding.
  · have negated := toString_neg s.below (by omega)
    simp [unpadded, negated, String.intercalate_cons_cons, String.append_assoc]

/-- The index text can be written as soon as the numbers can. -/
theorem index_eq (nonneg : 0 ≤ s.below) (short : s.isShort = true) :
    Affine.index (.int (-s.below)) (Affine.valued [(place, s.stride), (position, s.dilation)]) =
      .ok (s.text place position) := by
  have written : Affine.isShort (.int (-s.below))
      (Affine.valued [(place, s.stride), (position, s.dilation)]) = true := by
    simp only [isShort, Bool.and_eq_true] at short
    simp [Affine.isShort_valued, Text.isShort_neg, short]
  rw [Affine.index_eq, writeWhen_of_short _ written, s.text_eq_index place position nonneg]

/-! ### The template of a position -/

section Scaled

variable (name key : String) (scale : Int)

/-- A scaled axis as a template writes it. -/
private def scaledSegments : List Segment :=
  if scale = 1 then [.text name] else [.text (name ++ " * "), .hole key]

private theorem written_scaledSegments :
    written (scaledSegments name key scale) =
      if scale = 1 then name else name ++ " * " ++ placeholder key := by
  unfold scaledSegments
  split <;> simp [written, Segment.written, placeholder, String.append_assoc]

private theorem isProper_scaledSegments (plain : '@' ∉ name.toList)
    (valid : Template.isKey key.toList = true) :
    ∀ segment ∈ scaledSegments name key scale, segment.IsProper := by
  unfold scaledSegments
  split
  · simpa [Segment.IsProper] using plain
  · simpa [Segment.IsProper, valid] using plain

variable {name key scale} {value? : String → Option String}
  (held : value? key = some (toString scale))

include held

private theorem filled_scaledSegments :
    filled value? (scaledSegments name key scale) = Affine.termText name (.int scale) := by
  have display : (Value.int scale).display = toString scale := rfl
  simp only [scaledSegments, Affine.termText, Value.equalsInt_int, display]
  split <;> simp [filled, Segment.filled, held]

private theorem known_scaledSegments :
    ∀ segment ∈ scaledSegments name key scale, segment.known value? := by
  unfold scaledSegments
  split <;> simp [Segment.known, held]

end Scaled

def segments (axis : Nat) : List Segment :=
  (if s.below = 0 then [] else [.text "-", .hole (axisKey "pad" axis), .text " + "]) ++
    (scaledSegments place (axisKey "stride" axis) s.stride ++
      .text " + " :: scaledSegments position (axisKey "dilation" axis) s.dilation)

theorem indexTemplate_eq_written (axis : Nat) :
    indexTemplate axis place position (.int s.stride) (.int s.dilation) (.int s.below) =
      written (s.segments place position axis) := by
  simp only [indexTemplate, segments, Value.equalsInt_int, written_append, written,
    written_scaledSegments, Segment.written]
  by_cases unpadded : s.below = 0
  · simp [unpadded, written, String.intercalate_cons_cons, String.append_assoc]
  · simp [unpadded, written, Segment.written, placeholder, String.intercalate_cons_cons,
      String.append_assoc]

theorem render_indexTemplate (subs : Substitutions) (axis : Nat) (held : s.IsHeld subs axis)
    (proper : ∀ segment ∈ s.segments place position axis, segment.IsProper) :
    subs.render (indexTemplate axis place position (.int s.stride) (.int s.dilation)
      (.int s.below)) = .ok (s.text place position) := by
  rw [Substitutions.render, indexTemplate_eq_written, render_written _ _ proper]
  · simp only [segments, text, filled_append, filled, filled_scaledSegments held.stride,
      filled_scaledSegments held.dilation, Segment.filled]
    by_cases unpadded : s.below = 0
    · simp [unpadded, filled, String.append_assoc]
    · simp [unpadded, filled, Segment.filled, held.below, String.append_assoc]
  -- A number is looked up only where it is written.
  · rw [segments, List.forall_mem_append, List.forall_mem_append, List.forall_mem_cons]
    refine ⟨?_, known_scaledSegments held.stride, trivial, known_scaledSegments held.dilation⟩
    split <;> simp [Segment.known, held.below]

theorem isProper_segments (axis : Nat) (plain : '@' ∉ place.toList)
    (plain' : '@' ∉ position.toList)
    (valid : ∀ stem ∈ ["pad", "stride", "dilation"],
      Template.isKey (axisKey stem axis).toList = true) :
    ∀ segment ∈ s.segments place position axis, segment.IsProper := by
  simp only [List.forall_mem_cons] at valid
  obtain ⟨pad, stride, dilation, -⟩ := valid
  rw [segments, List.forall_mem_append, List.forall_mem_append, List.forall_mem_cons]
  refine ⟨?_, isProper_scaledSegments _ _ _ plain stride, by decide,
    isProper_scaledSegments _ _ _ plain' dilation⟩
  split
  · simp
  · simp only [List.forall_mem_cons]
    exact ⟨by decide, pad, by decide, by simp⟩

end Spacing

/-! ### Both spatial axes -/

theorem setAxis_eq_ok {attrs : ConvolutionAttributes} {subs after : Substitutions} {axis : Nat}
    (valid : ∀ stem ∈ ["pad", "stride", "dilation"],
      Template.isKey (axisKey stem axis).toList = true) :
    setAxis attrs subs axis = .ok after ↔
      ∃ s : Spacing, s.IsAlong attrs axis ∧ s.isShort = true ∧
        after = ⟨s.hold axis subs.entries⟩ := by
  simp only [List.forall_mem_cons] at valid
  obtain ⟨pad, stride, dilation, -⟩ := valid
  simp only [setAxis, Outcome.bind_eq_ok, entry_eq_ok, Substitutions.setInteger_eq_ok _ pad,
    Substitutions.setInteger_eq_ok _ stride, Substitutions.setInteger_eq_ok _ dilation]
  constructor
  · rintro ⟨_, below, _, ⟨b, rfl, short, rfl⟩, _, moving, _, ⟨m, rfl, short', rfl⟩, _, spread,
      d, rfl, short'', rfl⟩
    exact ⟨⟨m, d, b⟩, ⟨below, moving, spread⟩, by simp [Spacing.isShort, short, short', short''],
      rfl⟩
  · rintro ⟨s, along, short, rfl⟩
    simp only [Spacing.isShort, Bool.and_eq_true] at short
    exact ⟨_, along.below, _, ⟨_, rfl, short.1.1, rfl⟩, _, along.stride, _, ⟨_, rfl, short.1.2, rfl⟩,
      _, along.dilation, _, rfl, short.2, rfl⟩

theorem setIndex_eq {attrs : ConvolutionAttributes} {s : Spacing} {axis : Nat}
    (along : s.IsAlong attrs axis) (subs : Substitutions) (held : s.IsHeld subs axis)
    (key place position : String) (valid : Template.isKey key.toList = true)
    (proper : ∀ segment ∈ s.segments place position axis, segment.IsProper) :
    setIndex attrs subs key axis place position =
      .ok ⟨Substitutions.insert key (s.text place position) subs.entries⟩ := by
  simp only [setIndex, entry_eq_ok.mpr along.below, entry_eq_ok.mpr along.stride,
    entry_eq_ok.mpr along.dilation, Outcome.ok_bind, Substitutions.setTemplate,
    Substitutions.assign, Setting.write, s.render_indexTemplate place position subs axis held proper,
    Substitutions.set_eq _ key _ valid]

/-- The entries with the numbers of both axes and the positions of the input along them. -/
def placed (height width : Spacing) (entries : List (String × String)) : List (String × String) :=
  Substitutions.insert "w_index" (width.text "WO" "KW")
    (Substitutions.insert "h_index" (height.text "HO" "KH") (width.hold 1 (height.hold 0 entries)))

private theorem axisKeys :
    axisKey "pad" 0 = "pad_0" ∧ axisKey "stride" 0 = "stride_0" ∧
      axisKey "dilation" 0 = "dilation_0" ∧ axisKey "pad" 1 = "pad_1" ∧
      axisKey "stride" 1 = "stride_1" ∧ axisKey "dilation" 1 = "dilation_1" := by
  decide

/-- The stems of the keys of both axes give keys. -/
private theorem isKey_axisKey (axis : Nat) (spatial : axis = 0 ∨ axis = 1) :
    ∀ stem ∈ ["pad", "stride", "dilation"], Template.isKey (axisKey stem axis).toList = true := by
  rcases spatial with rfl | rfl <;> decide

section Placed

variable (height width : Spacing) (entries : List (String × String))

theorem get?_placed_height :
    Substitutions.get? ⟨placed height width entries⟩ "h_index" =
      some (height.text "HO" "KH") := by
  simp [placed]

theorem get?_placed_width :
    Substitutions.get? ⟨placed height width entries⟩ "w_index" =
      some (width.text "WO" "KW") := by
  simp [placed]

/-- Other keys keep their texts. -/
theorem get?_placed (key : String)
    (other : key ∉ ["pad_0", "stride_0", "dilation_0", "pad_1", "stride_1", "dilation_1",
      "h_index", "w_index"]) :
    Substitutions.get? ⟨placed height width entries⟩ key = Substitutions.get? ⟨entries⟩ key := by
  obtain ⟨pad0, stride0, dilation0, pad1, stride1, dilation1⟩ := axisKeys
  simp only [List.mem_cons, List.not_mem_nil, or_false, not_or] at other
  simp [placed, Spacing.hold, pad0, stride0, dilation0, pad1, stride1, dilation1, other]

end Placed

/-- The numbers that are set stay as they are while the positions are set. -/
private theorem isHeld_hold (height width : Spacing) (entries : List (String × String)) :
    height.IsHeld ⟨width.hold 1 (height.hold 0 entries)⟩ 0 ∧
      width.IsHeld ⟨Substitutions.insert "h_index" (height.text "HO" "KH")
        (width.hold 1 (height.hold 0 entries))⟩ 1 := by
  obtain ⟨pad0, stride0, dilation0, pad1, stride1, dilation1⟩ := axisKeys
  refine ⟨⟨?_, ?_, ?_⟩, ⟨?_, ?_, ?_⟩⟩ <;>
    simp [Spacing.hold, pad0, stride0, dilation0, pad1, stride1, dilation1]

private theorem setIndices_eq {attrs : ConvolutionAttributes} {height width : Spacing}
    (along : height.IsAlong attrs 0) (along' : width.IsAlong attrs 1)
    (entries : List (String × String)) :
    (do
      let subs ← setIndex attrs ⟨width.hold 1 (height.hold 0 entries)⟩ "h_index" 0 "HO" "KH"
      setIndex attrs subs "w_index" 1 "WO" "KW") = .ok ⟨placed height width entries⟩ := by
  obtain ⟨held, held'⟩ := isHeld_hold height width entries
  have proper := height.isProper_segments "HO" "KH" 0 (by decide) (by decide)
    (isKey_axisKey 0 (.inl rfl))
  have proper' := width.isProper_segments "WO" "KW" 1 (by decide) (by decide)
    (isKey_axisKey 1 (.inr rfl))
  -- The second position is rendered with the first one set, which leaves the numbers alone.
  rw [setIndex_eq along _ held "h_index" "HO" "KH" (by decide) proper, Outcome.ok_bind,
    setIndex_eq along' _ held' "w_index" "WO" "KW" (by decide) proper', placed]

theorem setPositions_eq_ok {attrs : ConvolutionAttributes} {subs after : Substitutions} :
    setPositions attrs subs = .ok after ↔
      ∃ height width : Spacing, height.IsAlong attrs 0 ∧ width.IsAlong attrs 1 ∧
        (height.isShort && width.isShort) = true ∧
        after = ⟨placed height width subs.entries⟩ := by
  simp only [setPositions, Outcome.bind_eq_ok (setAxis _ _ _),
    setAxis_eq_ok (isKey_axisKey 0 (.inl rfl)), setAxis_eq_ok (isKey_axisKey 1 (.inr rfl))]
  constructor
  · rintro ⟨_, ⟨height, along, short, rfl⟩, _, ⟨width, along', short', rfl⟩, set⟩
    rw [setIndices_eq along along', Except.ok.injEq] at set
    exact ⟨height, width, along, along', by simp [short, short'], set.symm⟩
  · rintro ⟨height, width, along, along', short, rfl⟩
    obtain ⟨short, short'⟩ := (Bool.and_eq_true _ _).mp short
    exact ⟨_, ⟨height, along, short, rfl⟩, _, ⟨width, along', short', rfl⟩,
      setIndices_eq along along' _⟩

/-! ### The guard and the layouts -/

private theorem render_boundsTemplate (index extent : String) :
    Template.render boundsTemplate
        (fun key => [("index", index), ("extent", extent)].lookup key) =
      .ok (Text.commaList [index ++ " >= 0", index ++ " < " ++ extent]) := by
  have template : boundsTemplate =
      written [.hole "index", .text " >= 0, ", .hole "index", .text " < ", .hole "extent"] := by
    decide
  rw [template, render_written _ _ (by decide)]
  · simp [-String.reduceAppend, filled, Segment.filled, List.lookup_cons, Text.commaList,
      String.intercalate_cons_cons, String.append_assoc]
    rfl
  · simp [Segment.known, List.lookup_cons]

/-- The guard over both spatial axes. -/
def guardText (high wide : String) (inHeight inWidth : Nat) : String :=
  ".when(" ++ Text.bracketed [high ++ " >= 0", high ++ " < " ++ toString (inHeight : Int),
    wide ++ " >= 0", wide ++ " < " ++ toString (inWidth : Int)] ++ ", 0.0)"

private theorem condition_eq (attrs : ConvolutionAttributes) (subs : Substitutions)
    (high wide : String) (inHeight inWidth : Nat) (hIndex : subs.get? "h_index" = some high)
    (wIndex : subs.get? "w_index" = some wide)
    (hExtent : subs.get? "in_height" = some (toString (inHeight : Int)))
    (wExtent : subs.get? "in_width" = some (toString (inWidth : Int))) :
    condition attrs subs =
      .ok (if isPadded attrs then guardText high wide inHeight inWidth else "") := by
  unfold condition
  split
  · have template : conditionTemplate =
        written [.text (".when(" ++ "["), .hole "bounds", .text ("]" ++ ", 0.0)")] := by
      decide
    simp only [boundsText, Substitutions.get, hIndex, wIndex, hExtent, wExtent, Outcome.ok_bind,
      render_boundsTemplate]
    rw [template, render_written _ _ (by decide)]
    · simp [-String.reduceAppend, filled, Segment.filled, Text.commaList,
        Text.bracketed, guardText, String.intercalate_cons_cons, String.append_assoc]
    · simp [Segment.known, List.lookup_cons]
  · rfl

/-- The names of the output axes. -/
def outputNames (channelsFirst : Bool) : List String :=
  dataOrder channelsFirst "N" "F" "HO" "WO"

/-- The layouts of the output and the filters. -/
def outputLayout (channelsFirst : Bool) : String :=
  Text.bracketed (outputNames channelsFirst)

def filterLayout (channelsFirst : Bool) : String :=
  Text.bracketed (filterOrder channelsFirst "F" "C" "KH" "KW")

private theorem kernelLayout_format (channelsFirst : Bool) :
    ∃ template, kernelLayout (.text (if channelsFirst then "NCHW" else "NHWC")) =
        .ok ⟨template, filterLayout channelsFirst, outputLayout channelsFirst⟩ ∧
      ∀ (subs : Substitutions) (high wide : String), subs.get? "h_index" = some high →
        subs.get? "w_index" = some wide →
        subs.render template =
          .ok (Text.bracketed (dataOrder channelsFirst "N" "C" high wide)) := by
  -- The layouts are texts of the program, so each template is cut at its two holes by computation.
  cases channelsFirst with
  | true =>
    have layouts : "[F, C, KH, KW]" = filterLayout true ∧ "[N, F, HO, WO]" = outputLayout true := by
      decide
    refine ⟨"[N, C, @h_index@, @w_index@]", by rw [← layouts.1, ← layouts.2]; rfl,
      fun subs high wide known known' => ?_⟩
    have template : "[N, C, @h_index@, @w_index@]" =
        written [.text ("[" ++ "N" ++ ", " ++ "C" ++ ", "), .hole "h_index", .text ", ",
          .hole "w_index", .text "]"] := by
      decide
    rw [Substitutions.render, template, render_written _ _ (by decide)]
    · simp [-String.reduceAppend, filled, Segment.filled, known, known', dataOrder,
        Text.bracketed, Text.commaList, String.intercalate_cons_cons, String.append_assoc]
    · simp [Segment.known, known, known']
  | false =>
    have layouts : "[KH, KW, C, F]" = filterLayout false ∧
        "[N, HO, WO, F]" = outputLayout false := by
      decide
    refine ⟨"[N, @h_index@, @w_index@, C]", by rw [← layouts.1, ← layouts.2]; rfl,
      fun subs high wide known known' => ?_⟩
    have template : "[N, @h_index@, @w_index@, C]" =
        written [.text ("[" ++ "N" ++ ", "), .hole "h_index", .text ", ", .hole "w_index",
          .text (", " ++ "C" ++ "]")] := by
      decide
    rw [Substitutions.render, template, render_written _ _ (by decide)]
    · simp [-String.reduceAppend, filled, Segment.filled, known, known', dataOrder,
        Text.bracketed, Text.commaList, String.intercalate_cons_cons, String.append_assoc]
    · simp [Segment.known, known, known']

/-! ### The kernel -/

def codeText (output data filters condition : String) (rows columns : Nat) : String :=
  " " ++ (("output0" ++ output) ++ " +=! " ++ (("input0" ++ data) ++ " * " ++
    (("input1" ++ filters) ++ (condition ++ (" where HO in " ++
      ((toString (rows : Int) ++ ", WO in " ++ toString (columns : Int)) ++ "; "))))))

theorem codeText_ne_empty (output data filters condition : String) (rows columns : Nat) :
    codeText output data filters condition rows columns ≠ "" := by
  simp [codeText]

private theorem render_indexedTemplate (subs : Substitutions)
    (output data filters condition : String) (rows columns : Nat)
    (known : subs.get? "output0" = some "output0")
    (known0 : subs.get? "input0" = some "input0") (known1 : subs.get? "input1" = some "input1")
    (outputKnown : subs.get? "output0_layout" = some output)
    (dataKnown : subs.get? "input0_layout" = some data)
    (filtersKnown : subs.get? "input1_layout" = some filters)
    (conditionKnown : subs.get? "pad_cond" = some condition)
    (rowsKnown : subs.get? "height" = some (toString (rows : Int)))
    (columnsKnown : subs.get? "width" = some (toString (columns : Int))) :
    subs.render indexedTemplate = .ok (codeText output data filters condition rows columns) := by
  have template : indexedTemplate = written
      [.text " ", .hole "output0", .hole "output0_layout", .text " +=! ", .hole "input0",
        .hole "input0_layout", .text " * ", .hole "input1", .hole "input1_layout",
        .hole "pad_cond", .text " where HO in ", .hole "height", .text ", WO in ",
        .hole "width", .text "; "] := by
    decide
  rw [Substitutions.render, template, render_written _ _ (by decide)]
  · simp only [-String.reduceAppend, filled, Segment.filled, known, known0, known1, outputKnown,
      dataKnown, filtersKnown, conditionKnown, rowsKnown, columnsKnown, Option.getD_some, codeText,
      String.append_assoc, String.append_empty]
  · simp [Segment.known, known, known0, known1, outputKnown, dataKnown, filtersKnown,
      conditionKnown, rowsKnown, columnsKnown]

/-- The indexed kernel with these positions of the input. -/
def indexedText (channelsFirst padded : Bool) (high wide : String)
    (inHeight inWidth rows columns : Nat) : String :=
  codeText (outputLayout channelsFirst)
    (Text.bracketed (dataOrder channelsFirst "N" "C" high wide)) (filterLayout channelsFirst)
    (if padded then guardText high wide inHeight inWidth else "") rows columns

section Kernel

variable {node : NodeView} {attrs : ConvolutionAttributes} {channelsFirst : Bool}
  {height width : Spacing} {input output : List Nat} {inHeight inWidth rows columns : Nat}
  (format : attrs.dataFormat = .text (if channelsFirst then "NCHW" else "NHWC"))
  (along : height.IsAlong attrs 0) (along' : width.IsAlong attrs 1)
  (data : node.inputShape 0 = .ok (.ofLengths input))
  (result : node.outputShape 0 = .ok (.ofLengths output))
  (atHeight : extentAt input (if channelsFirst then 2 else 1) = .ok inHeight)
  (atWidth : extentAt input ((if channelsFirst then 2 else 1) + 1) = .ok inWidth)
  (atRows : extentAt output (if channelsFirst then 2 else 1) = .ok rows)
  (atColumns : extentAt output ((if channelsFirst then 2 else 1) + 1) = .ok columns)
  (spaced : (height.isShort && width.isShort) = true)
  (known : [rows, columns, inHeight, inWidth].all (fun length => Text.isShort length) = true)

include format along along' data result atHeight atWidth atRows atColumns spaced known

theorem exists_substitutions :
    ∃ subs, indexedSubstitutions node attrs = .ok subs ∧
      subs.render indexedTemplate =
        .ok (indexedText channelsFirst (isPadded attrs) (height.text "HO" "KH")
          (width.text "WO" "KW") inHeight inWidth rows columns) := by
  have first : attrs.isChannelsFirst = channelsFirst := by
    rw [ConvolutionAttributes.isChannelsFirst, format]
    cases channelsFirst <;> rfl
  obtain ⟨template, layout, rendered⟩ := kernelLayout_format channelsFirst
  rw [← format] at layout
  have placing (subs : Substitutions) :
      setPositions attrs subs = .ok ⟨placed height width subs.entries⟩ :=
    setPositions_eq_ok.mpr ⟨height, width, along, along', spaced, rfl⟩
  simp only [List.all_cons, List.all_nil, Bool.and_true, Bool.and_eq_true] at known
  simp only [indexedSubstitutions, frame, data, result, Outcome.ok_bind, pure_bind,
    Shape.toLengths_ofLengths, first, layout, atHeight, atWidth, atRows, atColumns, placing,
    Substitutions.setText_eq _ "output0" _ (by decide),
    Substitutions.setText_eq _ "input0" _ (by decide),
    Substitutions.setText_eq _ "input1" _ (by decide),
    Substitutions.setText_eq _ "output0_layout" _ (by decide),
    Substitutions.setText_eq _ "input1_layout" _ (by decide),
    Substitutions.setInteger_eq _ "height" _ (by decide) known.1,
    Substitutions.setInteger_eq _ "width" _ (by decide) known.2.1,
    Substitutions.setInteger_eq _ "in_height" _ (by decide) known.2.2.1,
    Substitutions.setInteger_eq _ "in_width" _ (by decide) known.2.2.2]
  -- The holes are filled in the order of the translation. Each side condition says that a hole
  -- filled before still holds its text.
  rw [Substitutions.setTemplate, Substitutions.assign, Setting.write,
    rendered _ _ _ (get?_placed_height _ _ _)
      (get?_placed_width _ _ _), Outcome.ok_bind,
    Substitutions.set_eq _ "input0_layout" _ (by decide), Outcome.ok_bind,
    condition_eq attrs _ (height.text "HO" "KH") (width.text "WO" "KW") inHeight inWidth
      (by simp [get?_placed_height]) (by simp [get?_placed_width])
      (by simp [get?_placed]) (by simp [get?_placed]), Outcome.ok_bind]
  refine ⟨_, Substitutions.setText_eq _ "pad_cond" _ (by decide),
    render_indexedTemplate _ _ _ _ _ _ _ ?_ ?_ ?_ ?_ ?_ ?_ ?_ ?_ ?_⟩ <;>
    simp [get?_placed]

theorem translateIndexed_eq (operator : node.operator = .convolution attrs) :
    translateIndexed node =
      .ok (.indexed (indexedText channelsFirst (isPadded attrs) (height.text "HO" "KH")
          (width.text "WO" "KW") inHeight inWidth rows columns)
        (if channelsFirst then ExecutionPlan.convChannelsFirst else .convChannelsLast).name) := by
  have plan : ExecutionPlan.find (.text kind) attrs.dataFormat =
      .ok (if channelsFirst then .convChannelsFirst else .convChannelsLast) := by
    rw [format]
    cases channelsFirst <;> rfl
  obtain ⟨subs, built, rendered⟩ := exists_substitutions format along along' data result atHeight
    atWidth atRows atColumns spaced known
  simp only [translateIndexed, requireConvolution, operator, built, rendered, plan, Outcome.ok_bind]
  rfl

end Kernel

/-! ### Positions are affine indices -/

end Convolution

end OpGraph
