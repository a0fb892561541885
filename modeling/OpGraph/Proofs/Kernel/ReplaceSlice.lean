import OpGraph.Kernel.Translation.ReplaceSlice
import OpGraph.Proofs.Kernel.Unmarked
import OpGraph.Proofs.Operator.ReplaceSlice
import OpGraph.Proofs.Reading.Axes

/-!
# Kernels of slice replacements are right

The kernel of an accepted replacement reads back as a statement over the strided ranges of its
bounds. A condition is left out only where every coordinate meets it, so at each coordinate the
remaining ones are met exactly when all ranges select it; then the indices of the replacement
have their position as value, and otherwise the first input is read. Main statement: the kernel
computes what the operator does (`translateIndexed_refines`).
-/
namespace OpGraph

open Reading

namespace ReplaceSlice

open StridedRange (Fits Selects positions bounds)

/-! ### The texts

What the kernel says of the axes when all numbers can be written. -/

def offsetText (axis : String) (lower : Value) : String :=
  if lower.equalsInt 0 then axis else "(" ++ axis ++ " - " ++ lower.display ++ ")"

def positionText (axis : String) (lower stride : Value) : String :=
  if stride.equalsInt 1 then
    if lower.equalsInt 0 then axis else axis ++ " - " ++ lower.display
  else offsetText axis lower ++ " // " ++ stride.display

def axisConditions (axis : String) (extent : Nat) (lower upper stride : Value) : List String :=
  (if lower.equalsInt 0 then [] else [axis ++ " >= " ++ lower.display]) ++
    (if upper.equalsInt extent then [] else [axis ++ " < " ++ upper.display]) ++
    (if stride.equalsInt 1 then []
     else [offsetText axis lower ++ " % " ++ stride.display ++ " == 0"])

def axisTexts : List String → List Nat → List Value → List Value → List Value →
    List String × List String
  | axis :: axes, extent :: extents, lower :: lowers, upper :: uppers, stride :: strides =>
    let (positions, conditions) := axisTexts axes extents lowers uppers strides
    (positionText axis lower stride :: positions,
      axisConditions axis extent lower upper stride ++ conditions)
  | _, _, _, _, _ => ([], [])

section Writing

variable {lower upper stride : Value} (axis : String)

private theorem writeOffset_of_short (short : lower.isShort = true) :
    writeOffset axis lower = .ok (offsetText axis lower) := by
  unfold writeOffset offsetText Value.write
  rw [writeWhen_of_short _ short]
  cases lower.equalsInt 0 <;> rfl

private theorem writePosition_of_short (short : lower.isShort = true)
    (short' : stride.isShort = true) :
    writePosition axis lower stride = .ok (positionText axis lower stride) := by
  unfold writePosition positionText Value.write
  rw [writeWhen_of_short _ short, writeWhen_of_short _ short', writeOffset_of_short axis short]
  cases stride.equalsInt 1 <;> cases lower.equalsInt 0 <;> rfl

private theorem writeConditions_of_short (extent : Nat) (short : lower.isShort = true)
    (short' : upper.isShort = true) (short'' : stride.isShort = true) :
    writeConditions axis extent lower upper stride =
      .ok (axisConditions axis extent lower upper stride) := by
  unfold writeConditions axisConditions unlessMet Value.write
  rw [writeWhen_of_short _ short, writeWhen_of_short _ short', writeWhen_of_short _ short'',
    writeOffset_of_short axis short]
  cases lower.equalsInt 0 <;> cases upper.equalsInt extent <;> cases stride.equalsInt 1 <;> rfl

end Writing

private theorem writeAxes_of_short (axes : List String) (extents : List Nat)
    {lowers uppers strides : List Value} (short : lowers.all Value.isShort = true)
    (short' : uppers.all Value.isShort = true) (short'' : strides.all Value.isShort = true) :
    writeAxes axes extents lowers uppers strides =
      .ok (axisTexts axes extents lowers uppers strides) := by
  fun_induction axisTexts axes extents lowers uppers strides with
  | case1 axis axes extent extents lower lowers upper uppers stride strides _ _ texts ih =>
    simp only [List.all_cons, Bool.and_eq_true] at short short' short''
    simp only [writeAxes, writePosition_of_short axis short.1 short''.1,
      writeConditions_of_short axis extent short.1 short'.1 short''.1,
      ih short.2 short'.2 short''.2, texts, Outcome.ok_bind]
    rfl
  | case2 axes extents lowers uppers strides ended =>
    rw [writeAxes]
    exact ended

theorem writeAxes_bounds (axes : List String) (extents : List Nat) {given : SliceBounds}
    (short : given.isShort = true) :
    writeAxes axes extents given.lower given.upper given.strides =
      .ok (axisTexts axes extents given.lower given.upper given.strides) := by
  simp only [SliceBounds.isShort, Bool.and_eq_true] at short
  exact writeAxes_of_short axes extents short.1.1 short.1.2 short.2

/-- The distance of an axis from the lower bound of its range. -/
def offset (name : String) (r : StridedRange) : Index :=
  if r.lower = 0 then .axis name else .sub (.axis name) (.number r.lower)

def position (name : String) (r : StridedRange) : Index :=
  if r.stride = 1 then offset name r else .floorDiv (offset name r) (.number r.stride)

/-- The conditions of one axis that not every coordinate meets. -/
def conditionsAt (name : String) (extent : Nat) (r : StridedRange) : List Condition :=
  (if r.lower = 0 then [] else [⟨.axis name, .atLeast, .number r.lower⟩]) ++
    ((if r.upper = extent then [] else [⟨.axis name, .below, .number r.upper⟩]) ++
      (if r.stride = 1 then []
        else [⟨.mod (offset name r) (.number r.stride), .equal, .number 0⟩]))

def conditions : List String → List Nat → List StridedRange → List Condition
  | name :: names, extent :: extents, r :: ranges =>
    conditionsAt name extent r ++ conditions names extents ranges
  | _, _, _ => []

/-- The kernel of a replacement in ranges of known extents. -/
def statement (names : List String) (extents : List Nat) (ranges : List StridedRange) :
    Statement where
  output := "output0"
  axes := names
  accumulates := false
  factors := [⟨"input1", List.zipWith position names ranges⟩]
  guard :=
    match conditions names extents ranges with
    | [] => none
    | conditions => some ⟨conditions, .element ⟨"input0", names.map .axis⟩⟩
  domains := []

/-! ### Reading the texts -/

section Texts

variable (name : String) (factor : IsFactor (tokens name) (.axis name)) (r : StridedRange)

private theorem tokens_minus (n : Nat) :
    tokens (name ++ " - " ++ toString (n : Int)) =
      tokens name ++ .mark '-' :: [.word (Nat.repr n)] := by
  rw [tokens_around " - " (by decide) (by decide) (by decide), toString_natCast, tokens_repr,
    show tokens " - " = [.mark '-'] by decide]
  simp

include factor in
private theorem isFactor_offset :
    IsFactor (tokens (offsetText name (.int r.lower))) (offset name r) := by
  unfold offsetText offset
  rw [Value.equalsInt_zero]
  -- An offset that is not zero is subtracted, and the difference is put in parentheses.
  by_cases zero : r.lower = 0
  · simpa [zero] using factor
  · have sum : IsSum (tokens (name ++ " - " ++ toString (r.lower : Int)))
        (.sub (.axis name) (.number r.lower)) := by
      rw [tokens_minus]
      exact factor.product.sum.sub (isFactor_number r.lower).product
    have group : tokens ("(" ++ name ++ " - " ++ (Value.int r.lower).display ++ ")") =
        .mark '(' :: tokens (name ++ " - " ++ toString (r.lower : Int)) ++ [.mark ')'] := by
      have inner : "(" ++ name ++ " - " ++ (Value.int r.lower).display ++ ")" =
          "(" ++ (name ++ " - " ++ toString (r.lower : Int)) ++ ")" := by
        simp only [String.append_assoc]
        rfl
      rw [inner, tokens_append _ _ (Or.inr (by decide)), tokens_append _ _ (Or.inl (by decide))]
      rfl
    rw [decide_eq_false zero, if_neg (by decide), if_neg zero, group]
    exact sum.group

include factor in
private theorem denotes_position :
    Denotes (positionText name (.int r.lower) (.int r.stride)) (position name r) := by
  have offset := isFactor_offset name factor r
  unfold positionText position Denotes
  rw [Value.equalsInt_one, Value.equalsInt_zero]
  by_cases one : r.stride = 1
  · rw [if_pos (decide_eq_true one), if_pos one]
    unfold ReplaceSlice.offset
    by_cases zero : r.lower = 0
    · simpa [zero] using factor.product.sum
    · rw [decide_eq_false zero, if_neg (by decide), if_neg zero]
      exact tokens_minus name r.lower ▸ factor.product.sum.sub (isFactor_number r.lower).product
  · rw [decide_eq_false one, if_neg (by decide), if_neg one,
      tokens_around " // " (by decide) (by decide) (by decide),
      show tokens " // " = [.mark '/', .mark '/'] by decide, List.append_assoc]
    exact (offset.product.floorDiv (tokens_repr r.stride ▸ isFactor_number r.stride)).sum

include factor in
private theorem isCondition_conditionsAt (extent : Nat) :
    List.Forall₂ IsCondition
      (axisConditions name extent (.int r.lower) (.int r.upper) (.int r.stride))
      (conditionsAt name extent r) := by
  have offset := isFactor_offset name factor r
  unfold axisConditions conditionsAt
  rw [Value.equalsInt_one, Value.equalsInt_zero, Value.equalsInt_natCast, List.append_assoc]
  -- One list for each bound and one for the stride, empty where it excludes no coordinate.
  refine List.rel_append ?_ (List.rel_append ?_ ?_)
  · by_cases zero : r.lower = 0
    · simp [zero]
    · rw [decide_eq_false zero, if_neg (by decide), if_neg zero]
      refine .cons (isCondition .atLeast " >= " name _ ?_ ?_ ?_ ?_ _ _ factor.product.sum
        (denotes_number r.lower)) .nil <;> decide
  · by_cases full : r.upper = extent
    · simp [full]
    · rw [decide_eq_false full, if_neg (by decide), if_neg full]
      refine .cons (isCondition .below " < " name _ ?_ ?_ ?_ ?_ _ _ factor.product.sum
        (denotes_number r.upper)) .nil <;> decide
  · by_cases one : r.stride = 1
    · simp [one]
    · have remainder :
          Denotes (offsetText name (.int r.lower) ++ " % " ++ (Value.int r.stride).display)
            (.mod (ReplaceSlice.offset name r) (.number r.stride)) := by
        rw [Denotes, tokens_around " % " (by decide) (by decide) (by decide),
          show tokens " % " = [.mark '%'] by decide, List.append_assoc]
        exact (offset.product.mod (tokens_repr r.stride ▸ isFactor_number r.stride)).sum
      have sign :
          offsetText name (.int r.lower) ++ " % " ++ (Value.int r.stride).display ++ " == 0" =
            offsetText name (.int r.lower) ++ " % " ++ (Value.int r.stride).display ++ " == " ++
              toString ((0 : Nat) : Int) := by
        simp only [String.append_assoc]
        rfl
      rw [decide_eq_false one, if_neg (by decide), if_neg one, sign]
      refine .cons (isCondition .equal " == " _ _ ?_ ?_ ?_ ?_ _ _ remainder (denotes_number 0))
        .nil <;> decide

end Texts

/-- The texts of all axes are read as the positions and the conditions of the ranges. -/
private theorem axisTexts_read (names : List String) (extents : List Nat)
    (ranges : List StridedRange) (factors : ∀ name ∈ names, IsFactor (tokens name) (.axis name))
    (ranks : names.length = extents.length) (ranks' : names.length = ranges.length) :
    let texts := axisTexts names extents (bounds ranges).lower (bounds ranges).upper
      (bounds ranges).strides
    List.Forall₂ Denotes texts.1 (List.zipWith position names ranges) ∧
      List.Forall₂ IsCondition texts.2 (conditions names extents ranges) := by
  induction names generalizing extents ranges with
  | nil =>
    rw [List.length_eq_zero_iff.mp ranks.symm, List.length_eq_zero_iff.mp ranks'.symm]
    exact ⟨.nil, .nil⟩
  | cons name names ih =>
    obtain _ | ⟨extent, extents⟩ := extents
    · simp at ranks
    obtain _ | ⟨r, ranges⟩ := ranges
    · simp at ranks'
    have factor := factors name (by simp)
    obtain ⟨positions, conditions⟩ := ih extents ranges
      (fun other member => factors other (by simp [member])) (by simpa using ranks)
      (by simpa using ranks')
    exact ⟨.cons (denotes_position name factor r) positions,
      List.rel_append (isCondition_conditionsAt name factor r extent) conditions⟩

/-! ### Values at a coordinate -/

section Values

variable {axes : Axes}

private theorem value?_offset (name : String) (i : Nat) (r : StridedRange)
    (value : axes name = some (i : Int)) :
    (offset name r).value? axes = some ((i : Int) - r.lower) := by
  unfold offset
  split
  next zero => simp [Index.value?, value, zero]
  · simp [Index.value?, value]

private theorem value?_position (name : String) (i : Nat) (r : StridedRange)
    (value : axes name = some (i : Int)) (selected : r.Selects i) :
    (position name r).value? axes = some (r.position i : Int) := by
  have moving := r.moving
  -- A selected coordinate is not below the range, so the division is one of natural numbers.
  have distance : (i : Int) - r.lower = (i - r.lower : Nat) := by
    have := selected.1
    omega
  have from' := value?_offset name i r value
  unfold position StridedRange.position
  split
  next one => rw [from', distance, one, Nat.div_one]
  next =>
    have quotient : Int.fdiv (i - r.lower : Nat) r.stride = ((i - r.lower) / r.stride : Nat) := by
      rw [Int.fdiv_eq_ediv_of_nonneg _ (by omega)]
      norm_cast
    have nonzero : r.stride ≠ 0 := by omega
    simp [Index.value?, from', distance, quotient, nonzero]

/-- On a coordinate of the axis the conditions that are left out are met. -/
private theorem meet_conditionsAt (name : String) (extent i : Nat) (r : StridedRange)
    (value : axes name = some (i : Int)) (inside : i < extent) :
    Meet axes (conditionsAt name extent r) (r.Selects i) := by
  have moving := r.moving
  have above : Meet axes
      (if r.lower = 0 then [] else [⟨.axis name, .atLeast, .number r.lower⟩]) (r.lower ≤ i) := by
    split
    next zero => exact (Meet.nil axes).iff (by simp [zero])
    · refine (Meet.single (decide (r.lower ≤ i)) ?_).iff decide_eq_true_iff
      simp [Condition.holds?, Index.value?, value, Comparison.holds]
  have below : Meet axes
      (if r.upper = extent then [] else [⟨.axis name, .below, .number r.upper⟩]) (i < r.upper) := by
    split
    next full => exact (Meet.nil axes).iff (by simp [full, inside])
    · refine (Meet.single (decide (i < r.upper)) ?_).iff decide_eq_true_iff
      simp [Condition.holds?, Index.value?, value, Comparison.holds]
  have aligned : Meet axes
      (if r.stride = 1 then [] else [⟨.mod (offset name r) (.number r.stride), .equal, .number 0⟩])
      (((i : Int) - r.lower) % r.stride = 0) := by
    split
    next one => exact (Meet.nil axes).iff (by simp [one])
    · have nonzero : r.stride ≠ 0 := by omega
      have remainder : Int.fmod ((i : Int) - r.lower) r.stride =
          ((i : Int) - r.lower) % r.stride := Int.fmod_eq_emod_of_nonneg _ (by omega)
      refine (Meet.single (decide (((i : Int) - r.lower) % r.stride = 0)) ?_).iff
        decide_eq_true_iff
      simp [Condition.holds?, Index.value?, value?_offset name i r value, Comparison.holds, nonzero,
        remainder]
  refine (above.append (below.append aligned)).iff ?_
  -- The text takes the remainder of an integer; above the lower bound it is that of a natural number.
  unfold StridedRange.Selects
  refine and_congr_right fun lower => and_congr_right fun _ => ?_
  have distance : (i : Int) - r.lower = (i - r.lower : Nat) := by omega
  rw [distance]
  norm_cast

private theorem meet_conditions (names : List String) (extents index : List Nat)
    (ranges : List StridedRange) (holds : Holds axes names index)
    (inside : NDArray.InBounds extents index) (ranks : ranges.length = index.length) :
    Meet axes (conditions names extents ranges) (List.Forall₂ Selects ranges index) := by
  induction holds generalizing extents ranges with
  | nil =>
    rw [List.length_eq_zero_iff.mp ranks]
    exact (Meet.nil axes).iff (by simp)
  | @cons name i names index value _ ih =>
    obtain _ | ⟨extent, extents⟩ := extents
    · exact inside.elim
    obtain _ | ⟨r, ranges⟩ := ranges
    · simp at ranks
    have here := meet_conditionsAt name extent i r value inside.1
    have there := ih extents ranges inside.2 (by simpa using ranks)
    exact (here.append there).iff List.forall₂_cons.symm

private theorem mapM_value?_position (names : List String) (index : List Nat)
    (ranges : List StridedRange) (holds : Holds axes names index)
    (selected : List.Forall₂ Selects ranges index) :
    (List.zipWith position names ranges).mapM (Index.value? axes) =
      some ((positions ranges index).map Int.ofNat) := by
  rw [Outcome.mapM_eq_some_iff]
  induction selected generalizing names with
  | nil => cases holds; exact .nil
  | @cons r i ranges index here _ ih =>
    obtain _ | @⟨name, _, names, _, value, holds⟩ := holds
    exact .cons (value?_position name i r value here) (ih names holds)

end Values

/-! ### The text of the kernel -/

private def conditionText (conditions : List String) (layout : String) : String :=
  if conditions.isEmpty then ""
  else ".when(" ++ Text.bracketed conditions ++ ", input0" ++ layout ++ ")"

private theorem condition_eq (conditions : List String) (layout : String) :
    condition conditions layout = .ok (conditionText conditions layout) := by
  have template : conditionTemplate = Template.written
      [.text ".when([", .hole "conds", .text "], input0", .hole "output_layout", .text ")"] := by
    decide
  unfold condition conditionText
  split
  · rfl
  · rw [Substitutions.setText_eq _ _ _ (by decide), Outcome.ok_bind,
      Substitutions.setText_eq _ _ _ (by decide), Outcome.ok_bind, Substitutions.render, template,
      Template.render_written _ _ (by decide)]
    · simp [Template.filled, Template.Segment.filled, Substitutions.get?, Substitutions.insert,
        Substitutions.empty, List.lookup_cons, Text.bracketed, String.append_assoc]
      rfl
    · simp [Template.Segment.known, Substitutions.get?, Substitutions.insert, Substitutions.empty,
        List.lookup_cons]

private def codeText (layout replacement condition : String) : String :=
  " output0" ++ layout ++ " = " ++ replacement ++ condition ++ "; "

theorem codeText_ne_empty (layout replacement condition : String) :
    codeText layout replacement condition ≠ "" := by
  simp [codeText]

private theorem render_indexedTemplate (layout replacement condition : String) :
    Substitutions.render ⟨[("output_layout", layout), ("replacement", replacement),
      ("slice_cond", condition)]⟩ indexedTemplate = .ok (codeText layout replacement condition) := by
  have template : indexedTemplate = Template.written
      [.text " output0", .hole "output_layout", .text " = ", .hole "replacement",
        .hole "slice_cond", .text "; "] := by
    decide
  rw [Substitutions.render, template, Template.render_written _ _ (by decide)]
  · simp [Template.filled, Template.Segment.filled, Substitutions.get?, List.lookup_cons, codeText,
      String.append_assoc]
  · simp [Template.Segment.known, Substitutions.get?, List.lookup_cons]

theorem translateIndexed_bounds (name : String) (ranges : List StridedRange) (extents : List Nat)
    (etype : ElementType) (inputs : List TensorType) (short : (bounds ranges).isShort = true) :
    let axes := Affine.axes "D" extents.length
    let texts := axisTexts axes extents (bounds ranges).lower (bounds ranges).upper
      (bounds ranges).strides
    translateIndexed ⟨name, .replaceSlice (bounds ranges), inputs.length, .ok inputs,
        .ok [⟨.ofLengths extents, etype⟩]⟩ =
      .ok (.indexed (codeText (Affine.layout axes) ("input1" ++ Affine.layout texts.1)
        (conditionText texts.2 (Affine.layout axes))) ExecutionPlan.replaceSlice.name) := by
  intro axes texts
  have plan : ExecutionPlan.find (.text kind) (.text "") = .ok .replaceSlice := by
    rfl
  simp only [translateIndexed, requireReplaceSlice, Outcome.ok_bind, NodeView.outputShape, typeAt,
    List.getElem?_cons_zero, pure_bind, Shape.toLengths_ofLengths, Substitutions.empty,
    writeAxes_bounds _ extents short,
    Substitutions.setText_eq _ "output_layout" _ (by decide),
    Substitutions.setText_eq _ "replacement" _ (by decide),
    Substitutions.setText_eq _ "slice_cond" _ (by decide), condition_eq, Substitutions.insert,
    String.reduceEq, if_false, render_indexedTemplate, plan]
  rfl

/-! ### Placeholders -/

section Placeholders

open Template (IsUnmarked isUnmarked_append)

variable {name : String} (unmarked : IsUnmarked name) (r : StridedRange)

private theorem isUnmarked_display (n : Nat) : IsUnmarked (Value.int n).display :=
  Template.isUnmarked_toString n

include unmarked

private theorem isUnmarked_offsetText : IsUnmarked (offsetText name (.int r.lower)) := by
  unfold offsetText
  split
  · exact unmarked
  · simp only [isUnmarked_append, unmarked, isUnmarked_display]
    decide

private theorem isUnmarked_positionText :
    IsUnmarked (positionText name (.int r.lower) (.int r.stride)) := by
  have offset := isUnmarked_offsetText unmarked r
  unfold positionText
  split
  · split
    · exact unmarked
    · simp only [isUnmarked_append, unmarked, isUnmarked_display]
      decide
  · simp only [isUnmarked_append, offset, isUnmarked_display]
    decide

private theorem isUnmarked_axisConditions (extent : Nat) :
    ∀ text ∈ axisConditions name extent (.int r.lower) (.int r.upper) (.int r.stride),
      IsUnmarked text := by
  have offset := isUnmarked_offsetText unmarked r
  have lower : IsUnmarked (name ++ " >= " ++ (Value.int r.lower).display) := by
    simp only [isUnmarked_append, unmarked, isUnmarked_display]
    decide
  have upper : IsUnmarked (name ++ " < " ++ (Value.int r.upper).display) := by
    simp only [isUnmarked_append, unmarked, isUnmarked_display]
    decide
  have aligned : IsUnmarked (offsetText name (.int r.lower) ++ " % " ++
      (Value.int r.stride).display ++ " == 0") := by
    simp only [isUnmarked_append, offset, isUnmarked_display]
    decide
  unfold axisConditions
  simp only [List.forall_mem_append]
  refine ⟨⟨?_, ?_⟩, ?_⟩ <;> split <;> simp [*]

omit unmarked in
private theorem isUnmarked_axisTexts (names : List String) (extents : List Nat)
    (ranges : List StridedRange) (unmarked : ∀ name ∈ names, IsUnmarked name) :
    let texts := axisTexts names extents (bounds ranges).lower (bounds ranges).upper
      (bounds ranges).strides
    (∀ text ∈ texts.1, IsUnmarked text) ∧ ∀ text ∈ texts.2, IsUnmarked text := by
  induction names generalizing extents ranges with
  | nil => exact ⟨nofun, nofun⟩
  | cons name names ih =>
    obtain _ | ⟨extent, extents⟩ := extents
    · exact ⟨nofun, nofun⟩
    obtain _ | ⟨r, ranges⟩ := ranges
    · exact ⟨nofun, nofun⟩
    rw [List.forall_mem_cons] at unmarked
    obtain ⟨positions, conditions⟩ := ih extents ranges unmarked.2
    exact ⟨List.forall_mem_cons.mpr ⟨isUnmarked_positionText unmarked.1 r, positions⟩,
      List.forall_mem_append.mpr ⟨isUnmarked_axisConditions unmarked.1 r extent, conditions⟩⟩

omit unmarked in
theorem isUnmarked_codeText (extents : List Nat) (ranges : List StridedRange) :
    let axes := Affine.axes "D" extents.length
    let texts := axisTexts axes extents (bounds ranges).lower (bounds ranges).upper
      (bounds ranges).strides
    IsUnmarked (codeText (Affine.layout axes) ("input1" ++ Affine.layout texts.1)
      (conditionText texts.2 (Affine.layout axes))) := by
  intro axes texts
  have names := Template.isUnmarked_axes "D" (by decide) extents.length
  have layout : IsUnmarked (Affine.layout axes) := Template.isUnmarked_layout names
  obtain ⟨positions, conditions⟩ := isUnmarked_axisTexts axes extents ranges names
  have replacement : IsUnmarked (Affine.layout texts.1) := Template.isUnmarked_layout positions
  have condition : IsUnmarked (conditionText texts.2 (Affine.layout axes)) := by
    have list : IsUnmarked (Text.bracketed texts.2) := Template.isUnmarked_bracketed conditions
    unfold conditionText
    split
    · decide
    · simp only [isUnmarked_append, list, layout]
      decide
  unfold codeText
  simp only [isUnmarked_append, layout, replacement, condition]
  decide

end Placeholders

/-! ### Reading the kernel -/

private theorem tokens_conditionText (conditions : List String) (nonempty : conditions ≠ [])
    (names : List String) :
    tokens (conditionText conditions (Affine.layout names)) =
      .mark '.' :: .word "when" :: .mark '(' :: (tokens (Text.bracketed conditions) ++ .mark ',' ::
        (tokens ("input0" ++ Affine.layout names) ++ [.mark ')'])) := by
  have whole : conditionText conditions (Affine.layout names) =
      ".when(" ++ (Text.bracketed conditions ++ ", " ++
        (("input0" ++ Affine.layout names) ++ ")")) := by
    have filled : conditions.isEmpty = false := by simpa using nonempty
    rw [conditionText, filled, if_neg (by decide)]
    simp only [String.append_assoc]
    rfl
  rw [whole, tokens_append _ _ (Or.inl (by decide)),
    tokens_around ", " (by decide) (by decide) (by decide),
    tokens_append _ ")" (Or.inr (by decide)), show tokens ".when(" =
      [.mark '.', .word "when", .mark '('] by decide, show tokens ", " = [.mark ','] by decide,
    show tokens ")" = [.mark ')'] by decide]
  simp

private theorem endsApart_conditionText (conditions : List String) (layout : String) :
    EndsApart (conditionText conditions layout) := by
  unfold conditionText
  split
  · decide
  · exact endsApart_append _ _ (by decide) (by decide)

private theorem tokens_codeText (axes positions conditions : List String) :
    tokens (codeText (Affine.layout axes) ("input1" ++ Affine.layout positions)
        (conditionText conditions (Affine.layout axes))) =
      tokens ("output0" ++ Affine.layout axes) ++ .mark '=' ::
        (tokens ("input1" ++ Affine.layout positions) ++
          (tokens (conditionText conditions (Affine.layout axes)) ++ [.mark ';'])) := by
  have whole : codeText (Affine.layout axes) ("input1" ++ Affine.layout positions)
        (conditionText conditions (Affine.layout axes)) =
      " " ++ (("output0" ++ Affine.layout axes) ++ " = " ++
        (("input1" ++ Affine.layout positions) ++
          (conditionText conditions (Affine.layout axes) ++ "; "))) := by
    simp only [codeText, String.append_assoc]
    rfl
  have replacement : EndsApart ("input1" ++ Affine.layout positions) := by
    rw [Affine.layout, Text.bracketed, ← String.append_assoc]
    exact endsApart_append _ _ (by decide) (by decide)
  rw [whole, tokens_append _ _ (Or.inl (by decide)),
    tokens_around " = " (by decide) (by decide) (by decide),
    tokens_append _ _ (Or.inl replacement),
    tokens_append _ "; " (Or.inl (endsApart_conditionText _ _)),
    show tokens " " = [] by decide, show tokens " = " = [.mark '='] by decide,
    show tokens "; " = [.mark ';'] by decide]
  simp

/-- The tokens behind the replacement. -/
private def afterReplacement (names texts : List String) : List Token :=
  tokens (conditionText texts (Affine.layout names)) ++ [.mark ';']

private theorem afterReplacement_ne_times (names texts : List String) (rest : List Token) :
    afterReplacement names texts ≠ .mark '*' :: rest := by
  unfold afterReplacement
  by_cases unconditional : texts = []
  · subst unconditional
    simp [conditionText, show tokens "" = [] by decide]
  · simp [tokens_conditionText texts unconditional]

/-- Nothing is read as no guard, and the conditions as the guard of the statement. -/
private theorem readGuard?_afterReplacement (extents : List Nat) (ranges : List StridedRange)
    (texts : List String) (ranked : extents ≠ [])
    (read : List.Forall₂ IsCondition texts
      (conditions (Affine.axes "D" extents.length) extents ranges)) :
    readGuard? (afterReplacement (Affine.axes "D" extents.length) texts) =
      some ((statement (Affine.axes "D" extents.length) extents ranges).guard, [.mark ';']) := by
  have someAxis : Affine.axes "D" extents.length ≠ [] := by
    intro none
    have length := length_axes "D" extents.length
    rw [none] at length
    exact ranked (List.length_eq_zero_iff.mp length.symm)
  by_cases unconditional : texts = []
  · subst unconditional
    rw [statement, List.forall₂_nil_left_iff.mp read]
    rfl
  · have conditional : conditions (Affine.axes "D" extents.length) extents ranges ≠ [] := by
      intro none
      rw [none] at read
      exact unconditional (List.forall₂_nil_right_iff.mp read)
    obtain ⟨first, others, listed⟩ := List.exists_cons_of_ne_nil conditional
    have kept := readOperand?_written "input0" (by decide) _ _ (denotes_axes extents.length)
      someAxis
    have guard := readGuard?_written texts _ read unconditional _
      (tokens ("input0" ++ Text.bracketed (Affine.axes "D" extents.length))) [.mark ';'] (kept _)
    rw [afterReplacement, tokens_conditionText texts unconditional, statement]
    rw [listed] at guard ⊢
    simpa [Affine.layout] using guard

theorem readStatement?_codeText (ranges : List StridedRange) (extents : List Nat)
    (ranks : ranges.length = extents.length) (ranked : extents ≠ []) :
    let axes := Affine.axes "D" extents.length
    let texts := axisTexts axes extents (bounds ranges).lower (bounds ranges).upper
      (bounds ranges).strides
    readStatement? (codeText (Affine.layout axes) ("input1" ++ Affine.layout texts.1)
        (conditionText texts.2 (Affine.layout axes))) = some (statement axes extents ranges) := by
  intro axes texts
  obtain ⟨positions, conditions⟩ := axisTexts_read axes extents ranges
    (fun name member => isFactor_outputAxis name _ member) (by simp [axes])
    (by simp [axes, ranks])
  have lengths : (List.zipWith position axes ranges).length = extents.length := by
    rw [List.length_zipWith, ranks, length_axes, Nat.min_self]
  have someAxis : axes ≠ [] := by
    intro none
    rw [none] at lengths
    exact ranked (List.length_eq_zero_iff.mp lengths.symm)
  have somePosition : texts.1 ≠ [] := by
    intro none
    rw [← positions.length_eq, none] at lengths
    exact ranked (List.length_eq_zero_iff.mp lengths.symm)
  have output := readAccess?_written "output0" (by decide) axes _ (denotes_axes _) someAxis
  have replacement := readAccess?_written "input1" (by decide) texts.1 _ positions somePosition
  have named : (axes.map Index.axis).mapM Index.axis? = some axes := by simp
  exact readStatement?_eq_some (tokens_codeText axes texts.1 texts.2) (output _) named rfl
    (readFactors?_single (replacement _) (afterReplacement_ne_times axes texts.2))
    (readGuard?_afterReplacement extents ranges texts.2 ranked conditions) rfl rfl

/-! ### Running the kernel -/

private theorem names_position (name other : String) (r : StridedRange)
    (member : other ∈ (position name r).names) : other = name := by
  unfold position offset at member
  split at member <;> split at member <;> simpa [Index.names] using member

private theorem reduced_statement (names : List String) (extents : List Nat)
    (ranges : List StridedRange) : (statement names extents ranges).reduced = [] := by
  apply Statement.reduced_eq_nil
  intro access factor index among name read
  obtain rfl := List.mem_singleton.mp factor
  obtain ⟨place, inList, at'⟩ := List.mem_iff_getElem.mp among
  rw [List.getElem_zipWith] at at'
  rw [← at'] at read
  rw [names_position _ _ _ read]
  simp [statement]

section Running

variable (names : List String) (ranges : List StridedRange) (a b : Tensor)

private theorem term?_statement (axes : Axes) (index : List Nat) (holds : Holds axes names index)
    (inside : NDArray.InBounds a.shape index) (ranks : ranges.length = index.length)
    (shape : b.shape = ranges.map StridedRange.length) :
    (statement names a.shape ranges).term? [("input0", a), ("input1", b)] axes =
      some (if List.Forall₂ Selects ranges index then b.elements.get (positions ranges index)
        else a.elements.get index) := by
  have meet := meet_conditions names a.shape index ranges holds inside ranks
  have product (selected : List.Forall₂ Selects ranges index) :
      (statement names a.shape ranges).product? [("input0", a), ("input1", b)] axes =
        some (b.elements.get (positions ranges index)) := by
    have place : NDArray.InBounds b.shape (positions ranges index) := by
      rw [shape]
      exact StridedRange.inBounds_positions ranges index selected
    have element := Access.value?_inBounds [("input0", a), ("input1", b)] axes
      ⟨"input1", List.zipWith position names ranges⟩ b _ (by simp [List.lookup_cons])
      (mapM_value?_position names index ranges holds selected) place
    simp [Statement.product?, statement, element]
  -- With every condition left out there is no guard, and all ranges select the coordinate.
  cases listed : conditions names a.shape ranges with
  | nil =>
    have selected : List.Forall₂ Selects ranges index := by
      obtain ⟨met, values, exact⟩ := meet
      rw [listed, List.mapM_nil] at values
      exact exact.mp (by simp [← Option.some.inj values])
    have unguarded : (statement names a.shape ranges).guard = none := by
      simp [statement, listed]
    simp only [Statement.term?, unguarded, product selected, if_pos selected]
  | cons first others =>
    have guarded : (statement names a.shape ranges).guard =
        some ⟨conditions names a.shape ranges, .element ⟨"input0", names.map .axis⟩⟩ := by
      simp [statement, listed]
    rw [Statement.term?_of_meet _ _ _ _ _ guarded meet]
    have kept := value?_axes [("input0", a), ("input1", b)] axes "input0" names a index
      (by simp) holds inside
    split
    next selected => exact product selected
    · exact kept

theorem run?_statement (array : a.IsArray) (nodup : names.Nodup)
    (ranks : names.length = a.shape.length) (fits : List.Forall₂ Fits ranges a.shape)
    (shape : b.shape = ranges.map StridedRange.length) :
    (statement names a.shape ranges).run? [("input0", a), ("input1", b)] a.shape =
      some (replaced ranges a b) := by
  -- Nothing is summed: every axis that is read is an axis of the output.
  have extents : (statement names a.shape ranges).reducedExtents?
      [("input0", a), ("input1", b)] a.shape = some [] := by
    rw [Statement.reducedExtents?, reduced_statement]
    simp
  have runs := Statement.run?_eq_some (statement names a.shape ranges) "input0" a [("input1", b)]
    a.shape [] (fun index => if List.Forall₂ Selects ranges index
      then b.elements.get (positions ranges index) else a.elements.get index)
    rfl ranks rfl extents (fun _ => rfl) ?_
  · rw [runs, replaced]
    congr 2
    apply NDArray.ofFn_congr
    intro index inside
    split
    · rfl
    · exact array.reduce_get index inside
  · intro index inside
    have length := NDArray.inBounds_length a.shape index inside
    have holds := outputAxes_holds (statement names a.shape ranges) index nodup
      (by rw [length]; exact ranks)
    have sameRank : ranges.length = index.length := by rw [fits.length_eq, length]
    exact term?_statement names ranges a b _ index holds inside sameRank shape

end Running

/-- The kernel of an accepted replacement with integer bounds on operands of known shapes reads back
as a statement that runs on all arrays of these shapes with one element type, and what it computes is
what the operator does: the element of the second array at the position in the slice where the
bounds select a coordinate, and the element of the first array elsewhere. -/
theorem translateIndexed_refines (name : String) (lower upper strides : List Int)
    (shape shape' : List Nat) (etype etype' : ElementType) (types : List TensorType)
    (ranked : lower ≠ [])
    (accepted : infer (.ofInts lower upper strides)
      [⟨.ofLengths shape, etype⟩, ⟨.ofLengths shape', etype'⟩] = .ok types) :
    ∃ (fragment : Fragment) (statement : Statement) (ranges : List StridedRange)
      (merged : ElementType),
      translateIndexed ⟨name, .replaceSlice (.ofInts lower upper strides), 2,
        .ok [⟨.ofLengths shape, etype⟩, ⟨.ofLengths shape', etype'⟩], .ok types⟩ = .ok fragment ∧
      readStatement? fragment.code = some statement ∧
      SliceBounds.ofInts lower upper strides = bounds ranges ∧
      etype.merge etype' = some merged ∧ types = [⟨.ofLengths shape, merged⟩] ∧
      ∀ a b : Tensor, a.IsArray → b.IsArray → a.shape = shape → b.shape = shape' →
        a.etype = b.etype →
        ∃ result : Tensor, result.type = a.type ∧
          statement.run? [("input0", a), ("input1", b)] a.shape = some result ∧
          evaluate (.ofInts lower upper strides) [a, b] = .ok [result] ∧
          ∀ index, NDArray.InBounds a.shape index →
            result.elements.get index =
              if List.Forall₂ Selects ranges index then b.elements.get (positions ranges index)
              else a.elements.get index := by
  obtain ⟨ranges, merged, same, fits, sliced, merges, rfl⟩ :=
    infer_ofLengths lower upper strides shape shape' etype etype' types accepted
  have short := (isShort_of_infer accepted).1
  have ranks : ranges.length = shape.length := fits.length_eq
  -- Without axes there are no bounds, and some were given.
  have someExtent : shape ≠ [] := by
    rintro rfl
    have none : ranges = [] := List.length_eq_zero_iff.mp ranks
    rw [none] at same
    simp only [SliceBounds.ofInts, bounds, SliceBounds.mk.injEq, List.map_nil,
      List.map_eq_nil_iff] at same
    exact ranked same.1
  rw [same] at short ⊢
  refine ⟨_, _, ranges, merged, translateIndexed_bounds name ranges shape _ [_, _] short,
    readStatement?_codeText ranges shape ranks someExtent, rfl, merges, rfl, ?_⟩
  rintro a b array array' rfl rfl sameElements
  refine ⟨replaced ranges a b, rfl, ?_, evaluate_bounds ranges a b array.writable fits sliced, ?_⟩
  · exact run?_statement _ ranges a b array (nodup_axes "D" _) (length_axes "D" _) fits sliced
  · intro index inside
    rw [replaced]
    refine (NDArray.get_ofFn a.shape _ index inside).trans ?_
    split
    next selected =>
      have place : NDArray.InBounds b.shape (positions ranges index) := by
        rw [sliced]
        exact StridedRange.inBounds_positions ranges index selected
      -- What an array holds is stored already, so the conversion on writing keeps it.
      rw [sameElements]
      exact array'.reduce_get _ place
    · rfl

/-- Every second element from the second up to the fourth of five is replaced. -/
theorem translateIndexed_refines_everySecond :
    let a : Tensor := .ofElements .int32 (.ofFn [5] fun index => (index.sum : Nat))
    let b : Tensor := .ofElements .int32 (.ofFn [2] fun index => (10 + index.sum : Nat))
    ∃ (fragment : Fragment) (statement : Statement) (result : Tensor),
      translateIndexed ⟨"r", .replaceSlice (.ofInts [1] [4] [2]), 2, .ok [a.type, b.type],
        .ok [a.type]⟩ = .ok fragment ∧
      readStatement? fragment.code = some statement ∧
      statement.run? [("input0", a), ("input1", b)] [5] = some result ∧
      evaluate (.ofInts [1] [4] [2]) [a, b] = .ok [result] := by
  intro a b
  obtain ⟨fragment, statement, _, _, translated, read, -, -, -, runs⟩ :=
    translateIndexed_refines "r" [1] [4] [2] [5] [2] .int32 .int32 [a.type] (by decide) (by rfl)
  obtain ⟨result, -, ran, evaluated, -⟩ :=
    runs a b ⟨rfl, by decide⟩ ⟨rfl, by decide⟩ rfl rfl rfl
  exact ⟨fragment, statement, result, translated, read, ran, evaluated⟩

end ReplaceSlice

end OpGraph
