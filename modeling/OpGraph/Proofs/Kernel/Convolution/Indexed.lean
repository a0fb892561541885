import OpGraph.Proofs.Kernel.Convolution.Rendering
import OpGraph.Proofs.Kernel.Unmarked
import OpGraph.Proofs.Operator.Convolution

/-!
# Indexed kernels of convolutions are right

The kernel of an accepted convolution in the indexed dialect reads back as a statement that sums
over the channels and the positions of the filters. A position of the input is written as a sum
of the place, the filter position and the padding, in which zero paddings and unit factors are
left out; one guard over both axes stands for the padding. It is left out where no axis is
padded, and there every position lies in the input, since the window fits.
-/
namespace OpGraph

open Reading

namespace Convolution

/-! ### Positions of the input -/

def scaled (name : String) (factor : Nat) : Index :=
  if factor = 1 then .axis name else .mul (.axis name) (.number factor)

/-- The input position along one axis. -/
def inputIndex (place position : String) (w : WindowAxis) : Index :=
  if w.below = 0 then .add (scaled place w.stride) (scaled position w.dilation)
  else .add (.add (.neg (.number w.below)) (scaled place w.stride)) (scaled position w.dilation)

def scaledText (name : String) (factor : Nat) : String :=
  if factor = 1 then name else name ++ " * " ++ toString (factor : Int)

def inputText (place position : String) (w : WindowAxis) : String :=
  if w.below = 0 then scaledText place w.stride ++ " + " ++ scaledText position w.dilation
  else "-" ++ toString (w.below : Int) ++ " + " ++ scaledText place w.stride ++ " + " ++
    scaledText position w.dilation

private theorem isProduct_scaled (name : String) (factor : Nat)
    (isFactor : IsFactor (tokens name) (.axis name)) :
    IsProduct (tokens (scaledText name factor)) (scaled name factor) := by
  unfold scaledText scaled
  split
  · exact isFactor.product
  · rw [tokens_around " * " (by decide) (by decide) (by decide), toString_natCast, tokens_repr,
      show tokens " * " = [.mark '*'] by decide, List.append_assoc]
    exact isFactor.product.mul (isFactor_number factor)

theorem denotes_inputText (place position : String) (w : WindowAxis)
    (isPlace : IsFactor (tokens place) (.axis place))
    (isPosition : IsFactor (tokens position) (.axis position)) :
    Denotes (inputText place position w) (inputIndex place position w) := by
  have first := isProduct_scaled place w.stride isPlace
  have second := isProduct_scaled position w.dilation isPosition
  have plus : tokens " + " = [.mark '+'] := by decide
  unfold inputText inputIndex Denotes
  split
  · rw [tokens_around " + " (by decide) (by decide) (by decide), plus, List.append_assoc]
    exact first.sum.add second
  -- With padding the text begins with the negative padding.
  · rw [tokens_around " + " (by decide) (by decide) (by decide),
      tokens_around " + " (by decide) (by decide) (by decide), plus,
      tokens_append "-" _ (Or.inl (by decide)), toString_natCast, tokens_repr,
      show tokens "-" = [.mark '-'] by decide]
    simp only [List.append_assoc]
    exact ((isFactor_number w.below).neg.product.sum.add first).add second

theorem names_inputIndex (place position : String) (w : WindowAxis) :
    (inputIndex place position w).names = [place, position] := by
  unfold inputIndex scaled
  split <;> split <;> split <;> rfl

theorem value?_inputIndex (axes : Axes) (place position : String) (w : WindowAxis) (y row : Nat)
    (atPlace : axes place = some (y : Int)) (atPosition : axes position = some (row : Int)) :
    (inputIndex place position w).value? axes = some ((w.meets y row : Int) - w.below) := by
  have first : (scaled place w.stride).value? axes = some ((y * w.stride : Nat) : Int) := by
    unfold scaled
    split
    next one => simp [Index.value?, atPlace, one]
    · simp [Index.value?, atPlace]
  have second : (scaled position w.dilation).value? axes =
      some ((row * w.dilation : Nat) : Int) := by
    unfold scaled
    split
    next one => simp [Index.value?, atPosition, one]
    · simp [Index.value?, atPosition]
  unfold inputIndex WindowAxis.meets
  split
  next zero => simp [Index.value?, first, second, zero]
  · simp only [Index.value?, first, second, Option.bind_eq_bind, Option.bind_some,
      Option.pure_def, Option.some.injEq]
    push_cast
    omega

/-! ### The guard -/

/-- The conditions under which a position along one axis lies in the input. -/
def boundsAt (place position : String) (w : WindowAxis) (extent : Nat) : List Condition :=
  [⟨inputIndex place position w, .atLeast, .number 0⟩,
    ⟨inputIndex place position w, .below, .number extent⟩]

def boundTexts (place position : String) (w : WindowAxis) (extent : Nat) : List String :=
  [inputText place position w ++ " >= 0",
    inputText place position w ++ " < " ++ toString (extent : Int)]

theorem isCondition_boundTexts (place position : String) (w : WindowAxis) (extent : Nat)
    (denotes : Denotes (inputText place position w) (inputIndex place position w)) :
    List.Forall₂ IsCondition (boundTexts place position w extent)
      (boundsAt place position w extent) := by
  have zero : inputText place position w ++ " >= 0" =
      inputText place position w ++ " >= " ++ toString ((0 : Nat) : Int) := by
    rw [String.append_assoc]
    rfl
  unfold boundTexts boundsAt
  rw [zero]
  refine .cons (isCondition .atLeast " >= " _ _ ?_ ?_ ?_ ?_ _ _ denotes (denotes_number 0))
    (.cons (isCondition .below " < " _ _ ?_ ?_ ?_ ?_ _ _ denotes (denotes_number extent)) .nil) <;>
    decide

theorem meet_boundsAt (axes : Axes) (place position : String) (w : WindowAxis)
    (extent y row : Nat) (atPlace : axes place = some (y : Int))
    (atPosition : axes position = some (row : Int)) :
    Meet axes (boundsAt place position w extent)
      (w.below ≤ w.meets y row ∧ w.meets y row < w.below + extent) := by
  have value := value?_inputIndex axes place position w y row atPlace atPosition
  have above : Meet axes [⟨inputIndex place position w, .atLeast, .number 0⟩]
      (w.below ≤ w.meets y row) := by
    refine (Meet.single (decide (0 ≤ (w.meets y row : Int) - w.below)) ?_).iff ?_
    · simp [Condition.holds?, Index.value?, value, Comparison.holds]
    · rw [decide_eq_true_iff]
      omega
  have below : Meet axes [⟨inputIndex place position w, .below, .number extent⟩]
      (w.meets y row < w.below + extent) := by
    refine (Meet.single (decide ((w.meets y row : Int) - w.below < extent)) ?_).iff ?_
    · simp [Condition.holds?, Index.value?, value, Comparison.holds]
    · rw [decide_eq_true_iff]
      omega
  exact above.append below

/-! ### The statement -/

/-- Some side of some axis is padded. -/
def IsPadded (height width : WindowAxis) : Prop :=
  height.below ≠ 0 ∨ width.below ≠ 0 ∨ height.above ≠ 0 ∨ width.above ≠ 0

instance (height width : WindowAxis) : Decidable (IsPadded height width) :=
  inferInstanceAs (Decidable (_ ∨ _ ∨ _ ∨ _))

section Statement

variable (channelsFirst : Bool) (e : Extents) (height width : WindowAxis)

def dataAccess : Access :=
  ⟨"input0", dataOrder channelsFirst (.axis "N") (.axis "C") (inputIndex "HO" "KH" height)
    (inputIndex "WO" "KW" width)⟩

def filterAccess : Access :=
  ⟨"input1", (filterOrder channelsFirst "F" "C" "KH" "KW").map .axis⟩

def statement : Statement where
  output := "output0"
  axes := outputNames channelsFirst
  accumulates := true
  factors := [dataAccess channelsFirst height width, filterAccess channelsFirst]
  guard :=
    if IsPadded height width then
      some ⟨boundsAt "HO" "KH" height e.height ++ boundsAt "WO" "KW" width e.width, .constant 0⟩
    else none
  domains := [("HO", height.places e.height e.kernelHeight),
    ("WO", width.places e.width e.kernelWidth)]

/-- The values of all axes at one term of the sum. -/
structure At (axes : Axes) (n f y x c row column : Nat) : Prop where
  batch : axes "N" = some (n : Int)
  filter : axes "F" = some (f : Int)
  place : axes "HO" = some (y : Int)
  place' : axes "WO" = some (x : Int)
  channel : axes "C" = some (c : Int)
  position : axes "KH" = some (row : Int)
  position' : axes "KW" = some (column : Int)

variable (data filters : Tensor) (shape : data.shape = e.data channelsFirst)
  (shape' : filters.shape = e.kernel channelsFirst)

section Term

variable {axes : Axes} {n f y x c row column : Nat} (point : At axes n f y x c row column)
  (inBatch : n < e.batch) (inFilters : f < e.filters) (inChannels : c < e.channels)
  (inHeight : row < e.kernelHeight) (inWidth : column < e.kernelWidth)

private theorem value?_source (w : WindowAxis) (place position : String) (extent p q i : Nat)
    (atPlace : axes place = some (p : Int)) (atPosition : axes position = some (q : Int))
    (found : w.source? extent (w.meets p q) = some i) :
    (inputIndex place position w).value? axes = some (Int.ofNat i) := by
  rw [value?_inputIndex axes place position w p q atPlace atPosition, Option.some.injEq]
  unfold WindowAxis.source? at found
  split at found
  next inside =>
    cases found
    simp only [Int.ofNat_eq_natCast]
    omega
  · cases found

include shape shape' point inBatch inFilters inChannels inHeight inWidth

/-- Where both positions lie in the input, the factors are read there. -/
private theorem product?_statement (i j : Nat)
    (high : height.source? e.height (height.meets y row) = some i)
    (wide : width.source? e.width (width.meets x column) = some j) :
    (statement channelsFirst e height width).product? [("input0", data), ("input1", filters)]
        axes =
      some (data.elements.get (dataOrder channelsFirst n c i j) *
        filters.elements.get (filterOrder channelsFirst f c row column)) := by
  have atHeight := value?_source height "HO" "KH" e.height y row i point.place point.position high
  have atWidth := value?_source width "WO" "KW" e.width x column j point.place' point.position' wide
  have below := source?_lt height _ _ _ high
  have below' := source?_lt width _ _ _ wide
  -- Each factor is in bounds where its axes are, in the order that the format lists them.
  have first : (dataAccess channelsFirst height width).value?
      [("input0", data), ("input1", filters)] axes =
        some (data.elements.get (dataOrder channelsFirst n c i j)) := by
    refine Access.value?_inBounds _ axes _ data _ (by simp [dataAccess]) ?_ ?_
    · rw [Outcome.mapM_eq_some_iff]
      cases channelsFirst with
      | true => exact .cons point.batch (.cons point.channel (.cons atHeight (.cons atWidth .nil)))
      | false => exact .cons point.batch (.cons atHeight (.cons atWidth (.cons point.channel .nil)))
    · rw [shape]
      cases channelsFirst with
      | true => exact ⟨inBatch, inChannels, below, below', trivial⟩
      | false => exact ⟨inBatch, below, below', inChannels, trivial⟩
  have second : (filterAccess channelsFirst).value?
      [("input0", data), ("input1", filters)] axes =
        some (filters.elements.get (filterOrder channelsFirst f c row column)) := by
    refine value?_axes _ axes "input1" _ filters _ (by simp [List.lookup_cons]) ?_ ?_
    · cases channelsFirst with
      | true =>
        exact .cons point.filter (.cons point.channel (.cons point.position
          (.cons point.position' .nil)))
      | false =>
        exact .cons point.position (.cons point.position' (.cons point.channel
          (.cons point.filter .nil)))
    · rw [shape']
      cases channelsFirst with
      | true => exact ⟨inFilters, inChannels, inHeight, inWidth, trivial⟩
      | false => exact ⟨inHeight, inWidth, inChannels, inFilters, trivial⟩
  simp [Statement.product?, statement, first, second]

/-- A term of the sum is the product of the filter element and the padded data element. -/
theorem term?_statement (fits : e.Fits height width)
    (inRows : y < height.places e.height e.kernelHeight)
    (inColumns : x < width.places e.width e.kernelWidth) :
    (statement channelsFirst e height width).term? [("input0", data), ("input1", filters)] axes =
      some (paddedAt channelsFirst e height width data n c (height.meets y row)
          (width.meets x column) *
        filters.elements.get (filterOrder channelsFirst f c row column)) := by
  have product := product?_statement channelsFirst e height width data filters shape shape' point
    inBatch inFilters inChannels inHeight inWidth
  unfold paddedAt
  by_cases padded : IsPadded height width
  · have guarded : (statement channelsFirst e height width).guard =
        some ⟨boundsAt "HO" "KH" height e.height ++ boundsAt "WO" "KW" width e.width,
          .constant 0⟩ := if_pos padded
    have high := meet_boundsAt axes "HO" "KH" height e.height y row point.place point.position
    have wide := meet_boundsAt axes "WO" "KW" width e.width x column point.place' point.position'
    rw [Statement.term?_of_meet _ _ _ _ _ guarded (high.append wide)]
    by_cases inside : height.below ≤ height.meets y row ∧
        height.meets y row < height.below + e.height
    · by_cases inside' : width.below ≤ width.meets x column ∧
          width.meets x column < width.below + e.width
      · rw [if_pos ⟨inside, inside'⟩, WindowAxis.source?, if_pos inside, WindowAxis.source?,
          if_pos inside']
        exact product _ _ (if_pos inside) (if_pos inside')
      · rw [if_neg fun met => inside' met.2, WindowAxis.source?, if_pos inside,
          WindowAxis.source?, if_neg inside']
        simp [Operand.value?]
    · rw [if_neg fun met => inside met.1, WindowAxis.source?, if_neg inside]
      simp [Operand.value?]
  · -- Without padding the window lies in the input at every place.
    simp only [IsPadded, not_or, not_not] at padded
    obtain ⟨noTop, noLeft, noBottom, noRight⟩ := padded
    have high : height.source? e.height (height.meets y row) = some (height.meets y row) := by
      have below := height.meets_lt_padded _ _ y row fits.height inRows inHeight
      simp only [WindowAxis.padded, noTop, noBottom, Nat.zero_add, Nat.add_zero] at below
      simp [WindowAxis.source?, noTop, below]
    have wide : width.source? e.width (width.meets x column) = some (width.meets x column) := by
      have below := width.meets_lt_padded _ _ x column fits.width inColumns inWidth
      simp only [WindowAxis.padded, noLeft, noRight, Nat.zero_add, Nat.add_zero] at below
      simp [WindowAxis.source?, noLeft, below]
    have unguarded : (statement channelsFirst e height width).guard = none :=
      if_neg (by simp [IsPadded, noTop, noLeft, noBottom, noRight])
    simp only [Statement.term?, unguarded, high, wide]
    exact product _ _ high wide

end Term

/-- The axes that are summed over: the channels and the positions of the filters. -/
def summed : List (String × Nat) :=
  if channelsFirst then
    [("C", e.channels), ("KH", e.kernelHeight), ("KW", e.kernelWidth)]
  else [("KH", e.kernelHeight), ("KW", e.kernelWidth), ("C", e.channels)]

private theorem reduced_statement :
    (statement channelsFirst e height width).reduced = (summed channelsFirst e).map Prod.fst := by
  cases channelsFirst <;>
    simp only [Statement.reduced, statement, dataAccess, filterAccess, dataOrder, filterOrder,
      outputNames, summed, if_true, if_false, Bool.false_eq_true, List.map_cons, List.map_nil,
      List.flatMap_cons, List.flatMap_nil, names_inputIndex, Index.names, List.append_nil,
      List.cons_append, List.nil_append] <;>
    decide

/-- A position of the input is a sum, so it declares no extent. -/
private theorem inputIndex_eq_add (place position : String) (w : WindowAxis) :
    ∃ left right, inputIndex place position w = .add left right := by
  unfold inputIndex
  split <;> exact ⟨_, _, rfl⟩

include shape in
private theorem extents_dataAccess :
    (dataAccess channelsFirst height width).extents [("input0", data), ("input1", filters)] =
      [("N", e.batch), ("C", e.channels)] := by
  obtain ⟨_, _, high⟩ := inputIndex_eq_add "HO" "KH" height
  obtain ⟨_, _, wide⟩ := inputIndex_eq_add "WO" "KW" width
  have found : ([("input0", data), ("input1", filters)] : Inputs).lookup "input0" = some data := by
    simp
  simp only [Access.extents, dataAccess, found, shape, high, wide]
  cases channelsFirst <;> rfl

include shape' in
private theorem extents_filterAccess :
    (filterAccess channelsFirst).extents [("input0", data), ("input1", filters)] =
      (filterOrder channelsFirst "F" "C" "KH" "KW").zip (e.kernel channelsFirst) := by
  have found : ([("input0", data), ("input1", filters)] : Inputs).lookup "input1" =
      some filters := by
    simp [List.lookup_cons]
  simp only [Access.extents, filterAccess, found, shape']
  cases channelsFirst <;> rfl

include shape shape' in
private theorem reducedExtents?_statement :
    (statement channelsFirst e height width).reducedExtents?
        [("input0", data), ("input1", filters)] (e.output channelsFirst height width) =
      some (summed channelsFirst e) := by
  have accesses : (statement channelsFirst e height width).accesses =
      [dataAccess channelsFirst height width, filterAccess channelsFirst] := by
    by_cases padded : IsPadded height width <;>
      simp [Statement.accesses, statement, padded, Operand.accesses]
  rw [Statement.reducedExtents?, reduced_statement, Statement.extents, accesses]
  simp only [List.flatMap_cons, List.flatMap_nil,
    extents_dataAccess channelsFirst e height width data filters shape,
    extents_filterAccess channelsFirst e data filters shape']
  cases channelsFirst <;>
    simp [statement, outputNames, Extents.output, Extents.kernel, dataOrder, filterOrder, summed,
      List.lookup_cons]

include shape shape' in
private theorem sumOver?_statement (fits : e.Fits height width) (index : List Nat)
    (inside : NDArray.InBounds (e.output channelsFirst height width) index) :
    sumOver? (summed channelsFirst e)
        ((statement channelsFirst e height width).outputAxes index)
        ((statement channelsFirst e height width).term? [("input0", data), ("input1", filters)]) =
      some (atPlace channelsFirst (sumAt channelsFirst e height width data filters) index) := by
  cases channelsFirst with
  | true =>
    obtain ⟨n, f, y, x, rfl, inBatch, inFilters, inRows, inColumns⟩ :=
      NDArray.inBounds_four _ _ _ _ _ inside
    refine (sum?_three _ _ _ _ (fun c row column =>
      paddedAt true e height width data n c (height.meets y row) (width.meets x column) *
        filters.elements.get (filterOrder true f c row column)) ?_).trans ?_
    · intro c inChannels row inHeight column inWidth
      refine term?_statement true e height width data filters shape shape' ?_ inBatch inFilters
        inChannels inHeight inWidth fits inRows inColumns
      constructor <;>
        simp [Axes.assign, Statement.outputAxes, statement, outputNames, dataOrder, List.lookup_cons]
    -- Channels are the outermost sum here and the innermost one in `sumAt`.
    · exact congrArg some (Tensor.total_rotate _ _ _ _)
  | false =>
    obtain ⟨n, y, x, f, rfl, inBatch, inRows, inColumns, inFilters⟩ :=
      NDArray.inBounds_four _ _ _ _ _ inside
    refine sum?_three _ _ _ _ (fun row column c =>
      paddedAt false e height width data n c (height.meets y row) (width.meets x column) *
        filters.elements.get (filterOrder false f c row column)) ?_
    intro row inHeight column inWidth c inChannels
    refine term?_statement false e height width data filters shape shape' ?_ inBatch inFilters
      inChannels inHeight inWidth fits inRows inColumns
    constructor <;>
      simp [Axes.assign, Statement.outputAxes, statement, outputNames, dataOrder, List.lookup_cons]

include shape shape' in
/-- The statement runs to the sums over the channels and the positions of the filters. -/
theorem run?_statement (fits : e.Fits height width) :
    (statement channelsFirst e height width).run? [("input0", data), ("input1", filters)]
        (e.output channelsFirst height width) =
      some (sums channelsFirst e height width data filters) := by
  have rank : (statement channelsFirst e height width).axes.length =
      (e.output channelsFirst height width).length := by
    cases channelsFirst <;> rfl
  have domains : (statement channelsFirst e height width).domainsAgree
      (e.output channelsFirst height width) = true := by
    cases channelsFirst <;>
      simp [Statement.domainsAgree, statement, outputNames, Extents.output, dataOrder, List.lookup_cons]
  have runs := Statement.run?_eq_some _ "input0" data [("input1", filters)] _ _ _ rfl rank domains
    (reducedExtents?_statement channelsFirst e height width data filters shape shape')
    (by simp [statement])
    (sumOver?_statement channelsFirst e height width data filters shape shape' fits)
  rw [runs, sums]
  refine congrArg (fun elements => some (Tensor.ofElements data.etype elements)) ?_
  apply NDArray.ofFn_congr
  intro index inside
  obtain ⟨i, j, k, l, rfl⟩ : ∃ i j k l, index = [i, j, k, l] := by
    cases channelsFirst <;>
      exact List.length_eq_four.mp (NDArray.inBounds_length _ _ inside)
  cases channelsFirst <;> rfl

end Statement

/-! ### The text of the kernel -/

section Rendering

/-- The numbers of a window that its position depends on. -/
def spacing (w : WindowAxis) : Spacing :=
  ⟨w.stride, w.dilation, w.below⟩

private theorem term_natCast (name : String) (factor : Nat) :
    Affine.termText name (.int factor) = scaledText name factor := by
  simp only [Affine.termText, scaledText, Value.equalsInt_one, decide_eq_true_iff]
  rfl

private theorem text_spacing (place position : String) (w : WindowAxis) :
    (spacing w).text place position = inputText place position w := by
  simp only [Spacing.text, spacing, term_natCast, inputText, Int.natCast_eq_zero]
  split
  · exact String.empty_append
  · simp only [String.append_assoc]

private theorem isPadded_attributes (channelsFirst : Bool) (height width : WindowAxis) :
    isPadded (attributes channelsFirst height width) = decide (IsPadded height width) := by
  rw [Bool.eq_iff_iff, decide_eq_true_iff]
  simp [isPadded, attributes, ConvolutionAttributes.ofInts, Value.isTruthy, IsPadded]

def conditionText (height width : WindowAxis) (inHeight inWidth : Nat) : String :=
  if IsPadded height width then
    ".when(" ++ Text.bracketed (boundTexts "HO" "KH" height inHeight ++
      boundTexts "WO" "KW" width inWidth) ++ ", 0.0)"
  else ""

/-- The layout of the data. -/
def dataTexts (channelsFirst : Bool) (height width : WindowAxis) : List String :=
  dataOrder channelsFirst "N" "C" (inputText "HO" "KH" height) (inputText "WO" "KW" width)

private theorem indexedText_attributes (channelsFirst : Bool) (height width : WindowAxis)
    (inHeight inWidth rows columns : Nat) :
    indexedText channelsFirst (isPadded (attributes channelsFirst height width))
        ((spacing height).text "HO" "KH") ((spacing width).text "WO" "KW") inHeight inWidth rows
        columns =
      codeText (outputLayout channelsFirst)
        (Text.bracketed (dataTexts channelsFirst height width)) (filterLayout channelsFirst)
        (conditionText height width inHeight inWidth) rows columns := by
  rw [indexedText, text_spacing, text_spacing, isPadded_attributes]
  by_cases padded : IsPadded height width
  · simp only [conditionText, padded, decide_true, if_true]
    rfl
  · simp only [conditionText, padded, decide_false, Bool.false_eq_true, if_false]
    rfl

theorem translateIndexed_attributes (name : String) (channelsFirst : Bool) (e : Extents)
    (height width : WindowAxis) (etype etype' merged : ElementType)
    (short : (attributes channelsFirst height width).isShort = true)
    (known : (Shape.ofLengths (e.data channelsFirst)).isShort = true)
    (output : (Shape.ofLengths (e.output channelsFirst height width)).isShort = true) :
    translateIndexed ⟨name, .convolution (attributes channelsFirst height width), 2,
        .ok [⟨.ofLengths (e.data channelsFirst), etype⟩,
          ⟨.ofLengths (e.kernel channelsFirst), etype'⟩],
        .ok [⟨.ofLengths (e.output channelsFirst height width), merged⟩]⟩ =
      .ok (.indexed (codeText (outputLayout channelsFirst)
        (Text.bracketed (dataTexts channelsFirst height width)) (filterLayout channelsFirst)
        (conditionText height width e.height e.width) (height.places e.height e.kernelHeight)
        (width.places e.width e.kernelWidth))
        (if channelsFirst then ExecutionPlan.convChannelsFirst else .convChannelsLast).name) := by
  have extents : extentAt (e.data channelsFirst) (if channelsFirst then 2 else 1) = .ok e.height ∧
      extentAt (e.data channelsFirst) ((if channelsFirst then 2 else 1) + 1) = .ok e.width ∧
      extentAt (e.output channelsFirst height width) (if channelsFirst then 2 else 1) =
        .ok (height.places e.height e.kernelHeight) ∧
      extentAt (e.output channelsFirst height width) ((if channelsFirst then 2 else 1) + 1) =
        .ok (width.places e.width e.kernelWidth) := by
    cases channelsFirst <;> exact ⟨rfl, rfl, rfl, rfl⟩
  obtain ⟨inHeight, inWidth, rows, columns⟩ := extents
  obtain ⟨strides, dilations, below, -⟩ := isShort_attributes short
  simp only [List.all_cons, List.all_nil, Bool.and_true, Bool.and_eq_true] at strides dilations below
  have spaced : ((spacing height).isShort && (spacing width).isShort) = true := by
    simp [Spacing.isShort, spacing, strides, dilations, below]
  -- All four extents are among those of the data and the output.
  have written : [height.places e.height e.kernelHeight, width.places e.width e.kernelWidth,
      e.height, e.width].all (fun length => Text.isShort length) = true := by
    simp only [Shape.isShort_ofLengths, Extents.data, Extents.output, dataOrder] at known output
    cases channelsFirst <;> simp_all
  rw [← indexedText_attributes]
  exact translateIndexed_eq rfl ⟨rfl, rfl, rfl⟩ ⟨rfl, rfl, rfl⟩ rfl rfl inHeight inWidth rows
    columns spaced written rfl

end Rendering

/-! ### Placeholders -/

section Placeholders

open Template (IsUnmarked isUnmarked_append isUnmarked_toString)

private theorem isUnmarked_scaledText {name : String} (unmarked : IsUnmarked name) (factor : Nat) :
    IsUnmarked (scaledText name factor) := by
  unfold scaledText
  split
  · exact unmarked
  · simp only [isUnmarked_append, unmarked, isUnmarked_toString]
    decide

private theorem isUnmarked_inputText (place position : String) (unmarked : IsUnmarked place)
    (unmarked' : IsUnmarked position) (w : WindowAxis) :
    IsUnmarked (inputText place position w) := by
  have first := isUnmarked_scaledText unmarked w.stride
  have second := isUnmarked_scaledText unmarked' w.dilation
  unfold inputText
  split
  all_goals
    simp only [isUnmarked_append, first, second, isUnmarked_toString]
    decide

private theorem isUnmarked_boundTexts (place position : String) (unmarked : IsUnmarked place)
    (unmarked' : IsUnmarked position) (w : WindowAxis) (extent : Nat) :
    ∀ text ∈ boundTexts place position w extent, IsUnmarked text := by
  have input := isUnmarked_inputText place position unmarked unmarked' w
  simp only [boundTexts, List.forall_mem_cons, isUnmarked_append, input, isUnmarked_toString]
  refine ⟨?_, ?_, by simp⟩ <;> decide

private theorem isUnmarked_conditionText (height width : WindowAxis) (inHeight inWidth : Nat) :
    IsUnmarked (conditionText height width inHeight inWidth) := by
  have high := isUnmarked_boundTexts "HO" "KH" (by decide) (by decide) height inHeight
  have wide := isUnmarked_boundTexts "WO" "KW" (by decide) (by decide) width inWidth
  have bounds := Template.isUnmarked_bracketed (List.forall_mem_append.mpr ⟨high, wide⟩)
  unfold conditionText
  split
  · simp only [isUnmarked_append, bounds]
    decide
  · decide

theorem isUnmarked_codeText (channelsFirst : Bool) (height width : WindowAxis)
    (inHeight inWidth rows columns : Nat) :
    IsUnmarked (codeText (outputLayout channelsFirst)
      (Text.bracketed (dataTexts channelsFirst height width)) (filterLayout channelsFirst)
      (conditionText height width inHeight inWidth) rows columns) := by
  have high := isUnmarked_inputText "HO" "KH" (by decide) (by decide) height
  have wide := isUnmarked_inputText "WO" "KW" (by decide) (by decide) width
  have output : IsUnmarked (outputLayout channelsFirst) := by
    cases channelsFirst <;> decide
  have filters : IsUnmarked (filterLayout channelsFirst) := by
    cases channelsFirst <;> decide
  have data : IsUnmarked (Text.bracketed (dataTexts channelsFirst height width)) := by
    apply Template.isUnmarked_bracketed
    cases channelsFirst
    all_goals
      simp only [dataTexts, dataOrder, if_true, Bool.false_eq_true, if_false,
        List.forall_mem_cons, high, wide]
      decide
  have condition := isUnmarked_conditionText height width inHeight inWidth
  simp only [codeText, isUnmarked_append, output, data, filters, condition, isUnmarked_toString]
  decide

end Placeholders

/-! ### Reading the kernel -/

section Reading

variable (channelsFirst : Bool) (e : Extents) (height width : WindowAxis)

private theorem isFactor_plain (name : String) (named : isName name = true)
    (plain : IsWord name) : IsFactor (tokens name) (.axis name) := by
  rw [tokens_name name named plain]
  exact isFactor_axis name named

private theorem denotes_height :
    Denotes (inputText "HO" "KH" height) (inputIndex "HO" "KH" height) :=
  denotes_inputText _ _ _ (isFactor_plain "HO" (by decide) (by decide))
    (isFactor_plain "KH" (by decide) (by decide))

private theorem denotes_width :
    Denotes (inputText "WO" "KW" width) (inputIndex "WO" "KW" width) :=
  denotes_inputText _ _ _ (isFactor_plain "WO" (by decide) (by decide))
    (isFactor_plain "KW" (by decide) (by decide))

private theorem denotes_dataTexts :
    List.Forall₂ Denotes (dataTexts channelsFirst height width)
      (dataAccess channelsFirst height width).indices := by
  have batch := denotes_name "N" (by decide) (by decide)
  have channel := denotes_name "C" (by decide) (by decide)
  have high := denotes_height height
  have wide := denotes_width width
  cases channelsFirst with
  | true => exact .cons batch (.cons channel (.cons high (.cons wide .nil)))
  | false => exact .cons batch (.cons high (.cons wide (.cons channel .nil)))

private theorem denotes_outputNames :
    List.Forall₂ Denotes (outputNames channelsFirst) ((outputNames channelsFirst).map .axis) := by
  refine Outcome.forall₂_map_of_forall _ _ _ fun name member => denotes_name name ?_ ?_ <;>
    revert name <;> cases channelsFirst <;> decide

private theorem denotes_filterNames :
    List.Forall₂ Denotes (filterOrder channelsFirst "F" "C" "KH" "KW")
      (filterAccess channelsFirst).indices := by
  refine Outcome.forall₂_map_of_forall _ _ _ fun name member => denotes_name name ?_ ?_ <;>
    revert name <;> cases channelsFirst <;> decide

/-- The tokens of the guard, if there is one. -/
private def guardTokens : List Token :=
  if IsPadded height width then
    .mark '.' :: .word "when" :: .mark '(' ::
      (tokens (Text.bracketed (boundTexts "HO" "KH" height e.height ++
        boundTexts "WO" "KW" width e.width)) ++
          [.mark ',', .word "0", .mark '.', .word "0", .mark ')'])
  else []

private theorem tokens_conditionText :
    tokens (conditionText height width e.height e.width) = guardTokens e height width ∧
      EndsApart (conditionText height width e.height e.width) := by
  unfold conditionText guardTokens
  split
  · refine ⟨?_, endsApart_append _ _ (by decide) (by decide)⟩
    rw [tokens_append _ _ (Or.inr (by decide)), tokens_append _ _ (Or.inl (by decide)),
      show tokens ".when(" = [.mark '.', .word "when", .mark '('] by decide,
      show tokens ", 0.0)" = [.mark ',', .word "0", .mark '.', .word "0", .mark ')'] by decide]
    rfl
  · exact ⟨rfl, by decide⟩

/-- The extents of the output axes as tokens. -/
private def domainTokens (rows columns : Nat) : List Token :=
  [.mark ','].intercalate [[.word "HO", .word "in", .word (Nat.repr rows)],
    [.word "WO", .word "in", .word (Nat.repr columns)]]

private theorem tokens_codeText (output data filters : List String) (condition : String)
    (apart : EndsApart condition) (rows columns : Nat) :
    tokens (codeText (Text.bracketed output) (Text.bracketed data) (Text.bracketed filters)
        condition rows columns) =
      tokens ("output0" ++ Text.bracketed output) ++ .mark '+' :: .mark '=' :: .mark '!' ::
        (tokens ("input0" ++ Text.bracketed data) ++ .mark '*' ::
          (tokens ("input1" ++ Text.bracketed filters) ++ (tokens condition ++
            .word "where" :: (domainTokens rows columns ++ [.mark ';'])))) := by
  have closed : EndsApart ("input1" ++ Text.bracketed filters) :=
    endsApart_append _ _ (by simp [Text.bracketed]) (endsApart_bracketed filters)
  rw [codeText, tokens_append " " _ (Or.inl (by decide)),
    tokens_around " +=! " (by decide) (by decide) (by decide),
    tokens_around " * " (by decide) (by decide) (by decide),
    tokens_append _ _ (Or.inl closed), tokens_append condition _ (Or.inl apart),
    tokens_append " where HO in " _ (Or.inl (by decide)), toString_natCast, toString_natCast,
    tokens_append _ "; " (Or.inr (by decide)),
    tokens_around ", WO in " (by decide) (by decide) (by decide), tokens_repr, tokens_repr,
    show tokens " " = [] by decide, show tokens " +=! " = [.mark '+', .mark '=', .mark '!'] by decide,
    show tokens " * " = [.mark '*'] by decide,
    show tokens " where HO in " = [.word "where", .word "HO", .word "in"] by decide,
    show tokens ", WO in " = [.mark ',', .word "WO", .word "in"] by decide,
    show tokens "; " = [.mark ';'] by decide, domainTokens, List.intercalate_cons_cons]
  simp

private theorem cut_domains (rows columns : Nat) :
    cut ';' (.word "where" :: (domainTokens rows columns ++ [.mark ';'])) =
      some (.word "where" :: domainTokens rows columns, []) := by
  refine cut_append ';' (.word "where" :: domainTokens rows columns) [] ?_
  simp [domainTokens, List.intercalate_cons_cons]

private theorem readDomains?_domainTokens (rows columns : Nat) :
    readDomains? (.word "where" :: domainTokens rows columns) =
      some [("HO", rows), ("WO", columns)] := by
  have plain : ∀ item ∈ ([[.word "HO", .word "in", .word (Nat.repr rows)],
      [.word "WO", .word "in", .word (Nat.repr columns)]] : List (List Token)),
      .mark ',' ∉ item := by
    simp
  rw [readDomains?, domainTokens, commaPieces, List.splitOn_intercalate _ plain (by simp)]
  simp [readDomain?, natural?_repr]

private theorem readGuard?_guardTokens (rest : List Token) :
    readGuard? (guardTokens e height width ++ .word "where" :: rest) =
      some ((statement channelsFirst e height width).guard, .word "where" :: rest) := by
  unfold guardTokens statement
  split
  · have items : List.Forall₂ IsCondition
        (boundTexts "HO" "KH" height e.height ++ boundTexts "WO" "KW" width e.width)
        (boundsAt "HO" "KH" height e.height ++ boundsAt "WO" "KW" width e.width) :=
      List.rel_append (isCondition_boundTexts "HO" "KH" height e.height (denotes_height height))
        (isCondition_boundTexts "WO" "KW" width e.width (denotes_width width))
    have zero : readOperand? ([.word "0", .mark '.', .word "0"] ++
        .mark ')' :: .word "where" :: rest) =
        some (.constant 0, .mark ')' :: .word "where" :: rest) := by
      have digit : natural? "0" = some 0 := natural?_repr 0
      have value : decimal? "0" "0" = some 0 := by
        simp [decimal?, digit]
      simp [readOperand?, value]
    have guard := readGuard?_written _ _ items (by simp [boundTexts]) (.constant 0)
      [.word "0", .mark '.', .word "0"] (.word "where" :: rest) zero
    simpa using guard
  · rfl

theorem readStatement?_codeText :
    readStatement? (codeText (outputLayout channelsFirst)
        (Text.bracketed (dataTexts channelsFirst height width)) (filterLayout channelsFirst)
        (conditionText height width e.height e.width) (height.places e.height e.kernelHeight)
        (width.places e.width e.kernelWidth)) =
      some (statement channelsFirst e height width) := by
  obtain ⟨guardText, apart⟩ := tokens_conditionText e height width
  have output := readAccess?_written "output0" (by decide) _ _ (denotes_outputNames channelsFirst)
    (by cases channelsFirst <;> simp [outputNames, dataOrder])
  have data := readAccess?_written "input0" (by decide) _ _
    (denotes_dataTexts channelsFirst height width)
    (by cases channelsFirst <;> simp [dataTexts, dataOrder])
  have filters := readAccess?_written "input1" (by decide) _ _ (denotes_filterNames channelsFirst)
    (by cases channelsFirst <;> simp [filterOrder])
  have named : ((outputNames channelsFirst).map Index.axis).mapM Index.axis? =
      some (outputNames channelsFirst) := by simp
  rw [outputLayout, filterLayout]
  refine readStatement?_eq_some (tokens_codeText _ _ _ _ apart _ _) (output _) named rfl
    (readFactors?_pair (data _) (filters _)) ?_ (cut_domains _ _) (readDomains?_domainTokens _ _)
  rw [guardText]
  exact readGuard?_guardTokens channelsFirst e height width _

end Reading

end Convolution

end OpGraph
