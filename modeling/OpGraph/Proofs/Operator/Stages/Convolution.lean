import OpGraph.Proofs.Operator.Findings
import OpGraph.Proofs.Operator.Written

/-!
# Stages of convolutions

A convolution reports the first of what is wrong with it, unless a number has to be written before
that has too many digits. A window and a padded extent are counted first and written then, so they
can be too long although nothing else is.
-/
namespace OpGraph.Convolution

/-! ### Attributes -/

theorem AxisFinds.stage {attrs : ConvolutionAttributes} {index : Nat} {axis : SpatialAxis}
    {v : Violation} (found : AxisFinds attrs index axis v) : v.stage = .attributes := by
  cases found <;> rfl

theorem AxisFinds.turn {attrs : ConvolutionAttributes} {index : Nat} {axis : SpatialAxis}
    {v : Violation} (found : AxisFinds attrs index axis v) :
    ∃ check, v.turn = [3, 1, index, check] := by
  cases found <;> exact ⟨_, rfl⟩

theorem Finds.stage {attrs : ConvolutionAttributes} {v : Violation} (found : Finds attrs v) :
    v.stage = .attributes := by
  cases found with
  | length | format => rfl
  | axis _ _ found => exact found.stage

/-- The messages about one axis have nothing in them but the attributes. -/
private theorem isShort_axis {attrs : ConvolutionAttributes} (short : attrs.isShort = true)
    (index : Nat) : (Violation.strideNotPositive index attrs.strides).isShort = true ∧
      (Violation.dilationNotPositive index attrs.dilations).isShort = true ∧
      (Violation.negativePadding index attrs.paddingBelow attrs.paddingAbove).isShort = true := by
  simp only [ConvolutionAttributes.isShort, Bool.and_eq_true] at short
  simp [Violation.isShort, Violation.phrases, Phrase.isShort, short]

private theorem reportsFirst_checkAxis {attrs : ConvolutionAttributes}
    (short : attrs.isShort = true) (index : Nat) (stride dilation below above : Int) :
    ReportsFirst kind ∅
      (AxisFinds attrs index ⟨.int stride, .int dilation, .int below, .int above⟩)
      (checkAxis attrs index ⟨.int stride, .int dilation, .int below, .int above⟩) := by
  simp only [checkAxis, Number.ofValue_int, Outcome.ok_bind, arePaddings_int]
  obtain ⟨writtenStride, writtenDilation, writtenPadding⟩ := isShort_axis short index
  have low (n : Int) : (Number.int n).isPositive = false ↔ n ≤ 0 := by
    rw [← Bool.not_eq_true, Number.isPositive_int, Int.not_lt]
  have negative : decide (0 ≤ below ∧ 0 ≤ above) = false ↔ below < 0 ∨ above < 0 := by
    rw [decide_eq_false_iff_not]
    omega
  refine .congr (fun v => stride ≤ 0 ∧ v = .strideNotPositive index attrs.strides ∨
    dilation ≤ 0 ∧ v = .dilationNotPositive index attrs.dilations ∨
    (below < 0 ∨ above < 0) ∧ v = .negativePadding index attrs.paddingBelow attrs.paddingAbove)
    ?_ rfl fun v => ?_
  · refine .require_bind writtenStride (low stride) (fun _ => ?_) ?_
    · refine .require_bind writtenDilation (low dilation)
        (fun _ => .require_short writtenPadding negative) ?_
      rintro _ ⟨-, rfl⟩
      simp
    · rintro _ (⟨-, rfl⟩ | ⟨-, rfl⟩) <;>
        simp
  · constructor
    · rintro (⟨low, rfl⟩ | ⟨low, rfl⟩ | ⟨negative, rfl⟩)
      · exact .stride low
      · exact .dilation low
      · exact .padding negative
    · intro found
      cases found with
      | stride low => exact .inl ⟨low, rfl⟩
      | dilation low => exact .inr (.inl ⟨low, rfl⟩)
      | padding negative => exact .inr (.inr ⟨negative, rfl⟩)

private theorem reportsFirst_requirePair (name : String) (values : List Value) :
    ReportsFirst kind {stage | values.all Value.isShort = false ∧ stage = .attributes}
      (fun v => values.length ≠ 2 ∧ v = .attributeLength name values)
      (requirePair name values) := by
  have written : (Violation.attributeLength name values).isShort = values.all Value.isShort := by
    simp [Violation.isShort, Violation.phrases, Phrase.isShort]
  unfold requirePair Violation.write
  rw [written]
  cases short : values.all Value.isShort with
  | false =>
    rw [writeWhen_of_long _ rfl, Outcome.error_bind]
    refine .digits .attributes ⟨rfl, rfl⟩ ?_
    rintro _ ⟨-, rfl⟩
    simp
  | true =>
    rw [writeWhen_of_short _ rfl, Outcome.ok_bind]
    split
    · exact .passed _ (fun v here => here.1 rfl) fun _ many => Bool.noConfusion many.1
    next other =>
      refine .reported _ ⟨fun two => ?_, rfl⟩ (fun v' here => .inl here.2)
        fun _ many => Bool.noConfusion many.1
      obtain ⟨height, width, rfl⟩ := List.length_eq_two.mp two
      exact other height width rfl

private theorem reportsFirst_checkFormat (format : String) :
    ReportsFirst kind ∅
      (fun v => (∀ known ∈ formats, Value.text format ≠ .text known) ∧
        v = .dataFormat (.text format)) (checkFormat (.text format)) := by
  rw [checkFormat_eq]
  refine .require_short rfl ?_
  rw [List.any_eq_false]
  simp [Value.isText]

private theorem attributeLength_lt {name name' : String} {values values' : List Value}
    (earlier : Violation.pairNames.idxOf name < Violation.pairNames.idxOf name') :
    (Violation.attributeLength name values).turn <
      (Violation.attributeLength name' values').turn := by
  simp [earlier]

/-- What is wrong with attributes of which there is one for each axis. -/
def SidesFind (attrs : ConvolutionAttributes) (v : Violation) : Prop :=
  (∃ axis, axis? attrs 0 = some axis ∧ AxisFinds attrs 0 axis v) ∨
    (∃ axis, axis? attrs 1 = some axis ∧ AxisFinds attrs 1 axis v) ∨
    (∀ known ∈ formats, attrs.dataFormat ≠ .text known) ∧ v = .dataFormat attrs.dataFormat

private theorem SidesFind.after_length {attrs : ConvolutionAttributes} {v : Violation}
    (found : SidesFind attrs v) (name : String) (values : List Value) :
    (Violation.attributeLength name values).turn < v.turn := by
  rcases found with ⟨_, -, found⟩ | ⟨_, -, found⟩ | ⟨-, rfl⟩
  · obtain ⟨check, turn⟩ := found.turn
    rw [turn]
    simp
  · obtain ⟨check, turn⟩ := found.turn
    rw [turn]
    simp
  · simp

private theorem reportsFirst_checkSides {attrs : ConvolutionAttributes} {height width : SpatialAxis}
    {format : String}
    (first : ReportsFirst kind ∅ (AxisFinds attrs 0 height) (checkAxis attrs 0 height))
    (second : ReportsFirst kind ∅ (AxisFinds attrs 1 width) (checkAxis attrs 1 width))
    (known : axis? attrs 0 = some height) (known' : axis? attrs 1 = some width)
    (named : attrs.dataFormat = .text format) :
    ReportsFirst kind ∅ (SidesFind attrs) (do
      checkAxis attrs 0 height
      checkAxis attrs 1 width
      checkFormat attrs.dataFormat
      return (height, width)) := by
  have layout := reportsFirst_checkFormat format
  rw [← named] at layout
  have all := first.bind_plain (fun _ _ => second.bind_plain (fun _ _ =>
    layout.bind_ok fun _ _ => ⟨(height, width), rfl⟩) ?_ nofun) ?_ nofun
  · refine all.congr _ rfl fun v => ?_
    simp [SidesFind, known, known']
  · rintro v _ found ⟨-, rfl⟩
    obtain ⟨check, turn⟩ := found.turn
    rw [turn]
    simp
  · rintro v v' found (found' | ⟨-, rfl⟩)
    · obtain ⟨check, turn⟩ := found.turn
      obtain ⟨check', turn'⟩ := found'.turn
      rw [turn, turn']
      simp
    · obtain ⟨check, turn⟩ := found.turn
      rw [turn]
      simp

theorem finds_iff (attrs : ConvolutionAttributes) (v : Violation) : Finds attrs v ↔
    attrs.strides.length ≠ 2 ∧ v = .attributeLength "window_movement_strides" attrs.strides ∨
    attrs.dilations.length ≠ 2 ∧ v = .attributeLength "window_dilation_strides" attrs.dilations ∨
    attrs.paddingBelow.length ≠ 2 ∧ v = .attributeLength "padding_below" attrs.paddingBelow ∨
    attrs.paddingAbove.length ≠ 2 ∧ v = .attributeLength "padding_above" attrs.paddingAbove ∨
    SidesFind attrs v := by
  constructor
  · intro found
    cases found with
    | length among wrong =>
      simp only [pairs, Violation.pairNames, List.zip_cons_cons, List.zip_nil_left, List.mem_cons,
        Prod.mk.injEq, List.not_mem_nil, or_false] at among
      rcases among with ⟨rfl, rfl⟩ | ⟨rfl, rfl⟩ | ⟨rfl, rfl⟩ | ⟨rfl, rfl⟩
      · exact .inl ⟨wrong, rfl⟩
      · exact .inr (.inl ⟨wrong, rfl⟩)
      · exact .inr (.inr (.inl ⟨wrong, rfl⟩))
      · exact .inr (.inr (.inr (.inl ⟨wrong, rfl⟩)))
    -- There are two spatial axes, so `SidesFind` lists them.
    | @axis index axis _ spatial known found =>
      refine .inr (.inr (.inr (.inr ?_)))
      obtain rfl | rfl : index = 0 ∨ index = 1 := by omega
      · exact .inl ⟨axis, known, found⟩
      · exact .inr (.inl ⟨axis, known, found⟩)
    | format unknown => exact .inr (.inr (.inr (.inr (.inr (.inr ⟨unknown, rfl⟩)))))
  · have among {name : String} {values : List Value} (known : (name, values) ∈ pairs attrs) :=
      @Finds.length attrs name values known
    rintro (⟨wrong, rfl⟩ | ⟨wrong, rfl⟩ | ⟨wrong, rfl⟩ | ⟨wrong, rfl⟩ | ⟨_, known, found⟩ |
      ⟨_, known, found⟩ | ⟨unknown, rfl⟩)
    · exact .length (by simp [pairs, Violation.pairNames]) wrong
    · exact .length (by simp [pairs, Violation.pairNames]) wrong
    · exact .length (by simp [pairs, Violation.pairNames]) wrong
    · exact .length (by simp [pairs, Violation.pairNames]) wrong
    · exact .axis (by decide) known found
    · exact .axis (by decide) known found
    · exact .format unknown

/-- A list is written before its length is looked at, and all of this is one stage. -/
private theorem reportsFirst_requirePair_bind {α : Type} {name : String} {values : List Value}
    {many : Prop} {found : Violation → Prop} {next : Value × Value → Except Failure α}
    (later : ∀ pair, requirePair name values = .ok pair →
      ReportsFirst kind {stage | many ∧ stage = .attributes} found (next pair))
    (after : ∀ v, found v → (Violation.attributeLength name values).turn < v.turn)
    (stage : ∀ v, found v → v.stage = .attributes) :
    ReportsFirst kind {stage | (values.all Value.isShort = false ∨ many) ∧ stage = .attributes}
      (fun v => values.length ≠ 2 ∧ v = .attributeLength name values ∨ found v)
      (requirePair name values >>= next) := by
  refine ((reportsFirst_requirePair name values).bind later ?_ ?_ ?_).congr _ ?_ fun _ => Iff.rfl
  · rintro _ v ⟨-, rfl⟩ found
    exact after v found
  · rintro _ ⟨-, rfl⟩ _ ⟨-, rfl⟩
    simp
  · rintro _ ⟨-, rfl⟩ v found
    rw [stage v found]
  · ext stage
    simp [or_and_right]

theorem SidesFind.stage {attrs : ConvolutionAttributes} {v : Violation}
    (found : SidesFind attrs v) : v.stage = .attributes := by
  rcases found with ⟨_, -, found⟩ | ⟨_, -, found⟩ | ⟨-, rfl⟩
  · exact found.stage
  · exact found.stage
  · rfl

theorem reportsFirst_checkAttributes (strides dilations below above : List Int) (format : String) :
    ReportsFirst kind
      {stage | (ConvolutionAttributes.ofInts strides dilations below above format).isShort = false ∧
        stage = .attributes}
      (Finds (.ofInts strides dilations below above format))
      (checkAttributes (.ofInts strides dilations below above format)) := by
  let attrs := ConvolutionAttributes.ofInts strides dilations below above format
  have lists : {stage | attrs.isShort = false ∧ stage = Stage.attributes} =
      {stage | (attrs.strides.all Value.isShort = false ∨ attrs.dilations.all Value.isShort = false ∨
        attrs.paddingBelow.all Value.isShort = false ∨
        attrs.paddingAbove.all Value.isShort = false ∨ False) ∧ stage = Stage.attributes} := by
    have format : attrs.dataFormat.isShort = true := rfl
    ext stage
    simp only [ConvolutionAttributes.isShort, format, Bool.and_true, Bool.and_eq_false_iff,
      or_assoc, or_false]
  refine .congr _ ?_ lists.symm fun v => (finds_iff _ v).symm
  unfold checkAttributes
  -- A list that passes has two entries, one for each axis.
  refine reportsFirst_requirePair_bind (fun stride pair => ?_) ?_ ?_
  · obtain ⟨short, sh, sw, rfl, high, wide⟩ :=
      (requirePair_ofInts _ strides stride.1 stride.2).mp pair
    refine reportsFirst_requirePair_bind (fun dilation pair => ?_) ?_ ?_
    · obtain ⟨short', dh, dw, rfl, high', wide'⟩ :=
        (requirePair_ofInts _ dilations dilation.1 dilation.2).mp pair
      refine reportsFirst_requirePair_bind (fun pad pair => ?_) ?_ ?_
      · obtain ⟨shortBelow, bh, bw, rfl, top, left⟩ :=
          (requirePair_ofInts _ below pad.1 pad.2).mp pair
        refine reportsFirst_requirePair_bind (fun pad' pair => ?_) ?_ ?_
        · obtain ⟨shortAbove, ah, aw, rfl, bottom, right⟩ :=
            (requirePair_ofInts _ above pad'.1 pad'.2).mp pair
          have all : attrs.isShort = true := by
            simp only [attrs, ConvolutionAttributes.isShort, ConvolutionAttributes.ofInts, short,
              short', shortBelow, shortAbove]
            rfl
          simp only [high, wide, high', wide', top, left, bottom, right]
          refine (reportsFirst_checkSides (reportsFirst_checkAxis all 0 sh dh bh ah)
            (reportsFirst_checkAxis all 1 sw dw bw aw) rfl rfl rfl).congr _ ?_ fun _ => Iff.rfl
          simp
        · exact fun v found => found.after_length _ _
        · exact fun v found => found.stage
      · rintro v (⟨-, rfl⟩ | found)
        · exact attributeLength_lt (by decide)
        · exact found.after_length _ _
      · rintro v (⟨-, rfl⟩ | found)
        · rfl
        · exact found.stage
    · rintro v (⟨-, rfl⟩ | ⟨-, rfl⟩ | found)
      · exact attributeLength_lt (by decide)
      · exact attributeLength_lt (by decide)
      · exact found.after_length _ _
    · rintro v (⟨-, rfl⟩ | ⟨-, rfl⟩ | found)
      · rfl
      · rfl
      · exact found.stage
  · rintro v (⟨-, rfl⟩ | ⟨-, rfl⟩ | ⟨-, rfl⟩ | found)
    · exact attributeLength_lt (by decide)
    · exact attributeLength_lt (by decide)
    · exact attributeLength_lt (by decide)
    · exact found.after_length _ _
  · rintro v (⟨-, rfl⟩ | ⟨-, rfl⟩ | ⟨-, rfl⟩ | found)
    · rfl
    · rfl
    · rfl
    · exact found.stage

/-! ### Operands -/

/-- A known extent against a window that is not empty. Both are written. -/
private theorem reportsFirst_places (index : Nat) (w : WindowAxis) (extent : Nat) {length : Nat}
    {data filters : Shape} (short : data.isShort = true) (short' : filters.isShort = true)
    (nonempty : 0 < length) :
    ReportsFirst kind
      {stage | OverlongAxis w (.static extent) (.static length) ∧ stage = .attributesFit}
      (fun v => (0 < length ∧ w.padded extent < w.window length) ∧
        v = .windowTooLarge index (w.window length) (w.padded extent) data filters)
      (do
        require kind (w.window length ≤ w.padded extent)
          (.windowTooLarge index (w.window length) (w.padded extent) data filters)
        return Dimension.static (w.places extent length)) := by
  have digits : (Violation.windowTooLarge index (w.window length) (w.padded extent) data
      filters).isShort = false ↔
        Dimension.Overlong (w.window length) ∨ Dimension.Overlong (w.padded extent) := by
    rw [← Dimension.isShort_static_eq_false, ← Dimension.isShort_static_eq_false]
    simp only [Violation.isShort, Violation.phrases, List.all_cons, List.all_nil, Phrase.isShort,
      short, short', Bool.true_and, Bool.and_true, Bool.and_eq_false_iff]
  have large : decide (w.window length ≤ w.padded extent) = false ↔
      w.padded extent < w.window length := by
    rw [decide_eq_false_iff_not, Nat.not_le]
  refine ((ReportsFirst.require _ _ large).bind_ok fun _ _ => ⟨_, rfl⟩).congr _ ?_
    fun v => by rw [and_iff_right nonempty]
  ext stage
  refine and_congr_left fun _ => digits.trans ?_
  constructor
  · exact fun many => ⟨extent, length, rfl, rfl, nonempty, many⟩
  · rintro ⟨_, _, ⟨⟩, ⟨⟩, -, many⟩
    exact many

/-- Height or width of operands against a window of the attributes. -/
theorem reportsFirst_spatialDim (index : Nat) (w : WindowAxis) (size kernel : Dimension)
    {data filters : Shape} (short : data.isShort = true) (short' : filters.isShort = true) :
    ReportsFirst kind {stage | OverlongAxis w size kernel ∧ stage = .attributesFit}
      (SideFinds data filters index w size kernel)
      (spatialDim index w.axis size kernel data filters) := by
  have written : (Violation.emptyWindow index filters).isShort = true := by
    simp [Violation.isShort, Violation.phrases, Phrase.isShort, short']
  rw [spatialDim_axis]
  cases kernel with
  | dynamic =>
    -- A window of unknown extent is not checked.
    refine .passed _ (fun v found => ?_) ?_
    · cases found with
      | emptyWindow empty => cases empty
      | windowTooLarge _ known' => cases known'
    · rintro _ ⟨⟨_, _, -, known, -⟩, -⟩
      cases known
  | static length =>
    have empty : decide (0 < length) = false ↔ length = 0 := by
      rw [decide_eq_false_iff_not, Nat.not_lt, Nat.le_zero]
    have missing {size : Dimension} : SideFinds data filters index w size (.static length)
        (.emptyWindow index filters) ↔ length = 0 := by
      refine ⟨fun found => ?_, fun none => .emptyWindow (by rw [none])⟩
      cases found with
      | emptyWindow empty => exact Dimension.static.inj empty
    cases size with
    | dynamic =>
      refine ((ReportsFirst.require_short written empty).bind_ok fun _ _ => ⟨_, rfl⟩).congr _ ?_
        fun v => ?_
      · ext stage
        refine iff_of_false id ?_
        rintro ⟨⟨_, _, known, -⟩, -⟩
        cases known
      · constructor
        · rintro ⟨none, rfl⟩
          exact missing.mpr none
        · intro found
          cases found with
          | emptyWindow empty => exact ⟨Dimension.static.inj empty, rfl⟩
          | windowTooLarge known => cases known
    | static extent =>
      refine ((ReportsFirst.require_short written empty).bind_short
        (fun _ passed => reportsFirst_places index w extent short short' ?_) ?_ ?_).congr _ rfl
        fun v => ?_
      · exact of_decide_eq_true ((Outcome.require_eq_ok _ _ _ _).mp passed).2
      · rintro _ _ ⟨-, rfl⟩ ⟨-, rfl⟩
        simp
      · rintro _ ⟨-, rfl⟩ _ ⟨-, rfl⟩
        simp
      · constructor
        · rintro (⟨none, rfl⟩ | ⟨⟨nonempty, large⟩, rfl⟩)
          · exact missing.mpr none
          · exact .windowTooLarge rfl rfl nonempty large
        · intro found
          cases found with
          | emptyWindow empty => exact .inl ⟨Dimension.static.inj empty, rfl⟩
          | windowTooLarge known known' nonempty large =>
            obtain rfl := Dimension.static.inj known
            obtain rfl := Dimension.static.inj known'
            exact .inr ⟨⟨nonempty, large⟩, rfl⟩

theorem SideFinds.turn {data filters : Shape} {index : Nat} {w : WindowAxis}
    {size kernel : Dimension} {v : Violation}
    (found : SideFinds data filters index w size kernel v) :
    ∃ check, v.turn = [4, 1, index, check] := by
  cases found <;> exact ⟨_, rfl⟩

theorem SideFinds.stage {data filters : Shape} {index : Nat} {w : WindowAxis}
    {size kernel : Dimension} {v : Violation}
    (found : SideFinds data filters index w size kernel v) : v.stage = .attributesFit := by
  cases found <;> rfl

/-- Operands whose attributes are right are compared side by side, and then by their channels. -/
private theorem reportsFirst_operands (height width : WindowAxis) {data filters : Shape}
    (short : data.isShort = true) (short' : filters.isShort = true) (h kh w kw : Dimension)
    {c fc : Dimension} (channelsShort : c.isShort = true) (channelsShort' : fc.isShort = true)
    (type : Dimension → Dimension → TensorType) :
    ReportsFirst kind
      {stage | (OverlongAxis height h kh ∨ OverlongAxis width w kw) ∧ stage = .attributesFit}
      (fun v => SideFinds data filters 0 height h kh v ∨ SideFinds data filters 1 width w kw v ∨
        c.Differ fc ∧ v = .channels c fc data filters)
      (do
        let ho ← spatialDim 0 height.axis h kh data filters
        let wo ← spatialDim 1 width.axis w kw data filters
        require kind (c.merge fc).isSome (.channels c fc data filters)
        return [type ho wo]) := by
  have written : (Violation.channels c fc data filters).isShort = true := by
    simp [Violation.isShort, Violation.phrases, Phrase.isShort, short, short', channelsShort,
      channelsShort']
  have channels (ho wo : Dimension) : ReportsFirst kind ∅
      (fun v => c.Differ fc ∧ v = .channels c fc data filters)
      (do
        require kind (c.merge fc).isSome (.channels c fc data filters)
        return [type ho wo]) :=
    (ReportsFirst.require_short written Dimension.isSome_merge_eq_false).bind_ok
      fun _ _ => ⟨_, rfl⟩
  have second (ho : Dimension) := (reportsFirst_spatialDim 1 width w kw short short').bind_plain
    (fun wo _ => channels ho wo) ?_ ?_
  · refine ((reportsFirst_spatialDim 0 height h kh short short').bind (fun ho _ => second ho)
      ?_ ?_ ?_).congr _ ?_ fun v => Iff.rfl
    · rintro v v' found (found' | ⟨-, rfl⟩)
      · obtain ⟨check, turn⟩ := found.turn
        obtain ⟨check', turn'⟩ := found'.turn
        rw [turn, turn']
        simp
      · exact Violation.turn_lt_of_stages found.stage rfl (by simp)
    · rintro v found _ ⟨-, rfl⟩
      rw [found.stage]
    · rintro _ ⟨-, rfl⟩ v' (found' | ⟨-, rfl⟩)
      · rw [found'.stage]
      · simp
    · ext stage
      simp [or_and_right]
  · rintro v _ found ⟨-, rfl⟩
    exact Violation.turn_lt_of_stages found.stage rfl (by simp)
  · rintro _ ⟨-, rfl⟩ _ ⟨-, rfl⟩
    simp

/-- What is found wrong with operands whose attributes are right. -/
def OperandsFind (attrs : ConvolutionAttributes) (data filters : TensorType) (v : Violation) :
    Prop :=
  (∃ (index : Nat) (w : WindowAxis) (size kernel : Dimension),
    axis? attrs index = some w.axis ∧
    (dataSides attrs.isChannelsFirst data.shape)[index]? = some size ∧
    (filterSides attrs.isChannelsFirst filters.shape)[index]? = some kernel ∧
    SideFinds data.shape filters.shape index w size kernel v) ∨
  (dataDims attrs.isChannelsFirst data.shape).2.1.Differ
      (filterDims attrs.isChannelsFirst filters.shape).2.1 ∧
    v = .channels (dataDims attrs.isChannelsFirst data.shape).2.1
      (filterDims attrs.isChannelsFirst filters.shape).2.1 data.shape filters.shape

theorem OperandsFind.stage {attrs : ConvolutionAttributes} {data filters : TensorType}
    {v : Violation} (found : OperandsFind attrs data filters v) :
    Stage.attributesFit.index ≤ v.stage.index := by
  rcases found with ⟨_, _, _, _, -, -, -, found⟩ | ⟨-, rfl⟩
  · cases found <;> simp
  · simp

theorem operandsFind_attributes (channelsFirst : Bool) (height width : WindowAxis)
    (data filters : TensorType) (v : Violation) :
    OperandsFind (attributes channelsFirst height width) data filters v ↔
      SideFinds data.shape filters.shape 0 height (dataDims channelsFirst data.shape).2.2.1
        (filterDims channelsFirst filters.shape).2.2.1 v ∨
      SideFinds data.shape filters.shape 1 width (dataDims channelsFirst data.shape).2.2.2
        (filterDims channelsFirst filters.shape).2.2.2 v ∨
      (dataDims channelsFirst data.shape).2.1.Differ (filterDims channelsFirst filters.shape).2.1 ∧
        v = .channels (dataDims channelsFirst data.shape).2.1
          (filterDims channelsFirst filters.shape).2.1 data.shape filters.shape := by
  rw [OperandsFind, isChannelsFirst_attributes, ← or_assoc]
  refine or_congr_left ⟨?_, ?_⟩
  · rintro ⟨_ | _ | index, w, size, kernel, axis, side, side', found⟩
    · obtain rfl := WindowAxis.axis_injective (Option.some.inj axis)
      cases side
      cases side'
      exact .inl found
    · obtain rfl := WindowAxis.axis_injective (Option.some.inj axis)
      cases side
      cases side'
      exact .inr found
    · simp [dataSides] at side
  · rintro (found | found)
    · exact ⟨0, height, _, _, rfl, rfl, rfl, found⟩
    · exact ⟨1, width, _, _, rfl, rfl, rfl, found⟩

theorem overlongWindow_attributes (channelsFirst : Bool) (height width : WindowAxis)
    (data filters : TensorType) :
    Operator.OverlongWindow (.convolution (attributes channelsFirst height width))
      [data, filters] ↔ Overlong channelsFirst height width data.shape filters.shape := by
  refine ⟨fun long => ?_, .convolution channelsFirst height width data filters⟩
  -- The indices are no variables, so the case is taken of any operator.
  generalize same : Operator.convolution (attributes channelsFirst height width) = operator at long
  cases long with
  | convolution channelsFirst' height' width' _ _ many =>
    obtain ⟨rfl, rfl, rfl⟩ := attributes_injective (Operator.convolution.inj same)
    exact many

/-- Everything that can be too long in a convolution of two operands. -/
theorem overlong_eq (attrs : ConvolutionAttributes) (data filters : TensorType) :
    {stage | Operator.Overlong (.convolution attrs) [data, filters] stage} =
      {stage | data.isShort = false ∧ stage = .inputRanks} ∪
        ({stage | filters.isShort = false ∧ stage = .inputRanks} ∪
          ({stage | attrs.isShort = false ∧ stage = .attributes} ∪
            {stage | Operator.OverlongWindow (.convolution attrs) [data, filters] ∧
              stage = .attributesFit})) := by
  ext stage
  constructor
  · intro long
    cases long with
    | operands many =>
      rcases many with many | many
      · exact .inl ⟨many, rfl⟩
      · exact .inr (.inl ⟨many, rfl⟩)
    | convolution many => exact .inr (.inr (.inl ⟨many, rfl⟩))
    | window many => exact .inr (.inr (.inr ⟨many, rfl⟩))
  · rintro (⟨many, rfl⟩ | ⟨many, rfl⟩ | ⟨many, rfl⟩ | ⟨many, rfl⟩)
    · exact .operands (.inl many)
    · exact .operands (.inr many)
    · exact .convolution many
    · exact .window many

/-- Everything that can be found wrong with a convolution of two operands. -/
theorem violates_iff (attrs : ConvolutionAttributes) (data filters : TensorType) (v : Violation) :
    Operator.Violates (.convolution attrs) [data, filters] v ↔
      data.shape.rank.Differ (.static 4) ∧ v = .dataRank data.shape ∨
      filters.shape.rank.Differ (.static 4) ∧ v = .filtersRank filters.shape ∨
      (data.etype.Differ filters.etype ∧ v = .convolutionElements data.etype filters.etype) ∨
      Finds attrs v ∨ OperandsFind attrs data filters v := by
  constructor
  · intro found
    cases found with
    | count takes wrong =>
      cases takes
      exact absurd rfl wrong
    | dataRank wrong => exact .inl ⟨wrong, rfl⟩
    | filtersRank wrong => exact .inr (.inl ⟨wrong, rfl⟩)
    | convolutionElements apart => exact .inr (.inr (.inl ⟨apart, rfl⟩))
    | convolution found => exact .inr (.inr (.inr (.inl found)))
    | side axis side side' found =>
      exact .inr (.inr (.inr (.inr (.inl ⟨_, _, _, _, axis, side, side', found⟩))))
    | channels apart => exact .inr (.inr (.inr (.inr (.inr ⟨apart, rfl⟩))))
  · rintro (⟨wrong, rfl⟩ | ⟨wrong, rfl⟩ | ⟨apart, rfl⟩ | found |
      ⟨_, _, _, _, axis, side, side', found⟩ | ⟨apart, rfl⟩)
    · exact .dataRank wrong
    · exact .filtersRank wrong
    · exact .convolutionElements apart
    · exact .convolution found
    · exact .side axis side side' found
    · exact .channels apart

private theorem reportsFirst_requireRank {shape : Shape} {violation : Violation}
    (written : violation.isShort = shape.isShort) (stage : violation.stage = .inputRanks) :
    ReportsFirst kind {stage | shape.isShort = false ∧ stage = .inputRanks}
      (fun v => shape.rank.Differ (.static 4) ∧ v = violation) (requireRank shape violation) := by
  have ranked := ReportsFirst.require kind violation
    (Dimension.compatible_eq_false (a := shape.rank) (b := .static 4))
  rwa [written, stage] at ranked

theorem reportsFirst_infer {attrs : ConvolutionAttributes}
    {strides dilations below above : List Int} {format : String}
    (same : attrs = .ofInts strides dilations below above format)
    (data filters : TensorType) :
    ReportsFirst kind {stage | Operator.Overlong (.convolution attrs) [data, filters] stage}
      (Operator.Violates (.convolution attrs) [data, filters])
      (infer attrs [data, filters]) := by
  have checks : ReportsFirst kind {stage | attrs.isShort = false ∧ stage = .attributes}
      (Finds attrs) (checkAttributes attrs) :=
    same ▸ reportsFirst_checkAttributes strides dilations below above format
  have dataWritten : (Violation.dataRank data.shape).isShort = data.shape.isShort := by
    simp [Violation.isShort, Violation.phrases, Phrase.isShort]
  have filtersWritten : (Violation.filtersRank filters.shape).isShort = filters.shape.isShort := by
    simp [Violation.isShort, Violation.phrases, Phrase.isShort]
  refine .congr _ ?_ (overlong_eq attrs data filters).symm
    fun v => (violates_iff attrs data filters v).symm
  rw [infer]
  -- One bind for each check, in the order of the code.
  refine (reportsFirst_requireRank dataWritten rfl).bind (fun _ ranked => ?_) ?_ ?_ ?_
  · refine (reportsFirst_requireRank filtersWritten rfl).bind_stage .inputRanks
      (fun _ ranked' => ?_) ?_ ?_ ?_ ?_
    · refine (ReportsFirst.requireElements _ _ _).bind_short (fun etype _ => ?_) ?_ ?_
      · refine checks.bind_stage .attributes (fun axes checked => ?_) (fun v found => found.stage)
          ?_ (fun v found => Nat.lt_of_lt_of_le (by simp) found.stage) ?_
        · rw [same] at checked
          obtain ⟨-, channelsFirst, height, width, same', rfl⟩ :=
            (checkAttributes_ofInts strides dilations below above format axes).mp checked
          obtain rfl := same.trans same'
          rw [isChannelsFirst_attributes]
          have short : data.shape.isShort = true := by
            rw [requireRank, Outcome.require_eq_ok, dataWritten] at ranked
            exact ranked.1
          have short' : filters.shape.isShort = true := by
            rw [requireRank, Outcome.require_eq_ok, filtersWritten] at ranked'
            exact ranked'.1
          have channels := (isShort_dataDims channelsFirst short).2.1
          have channels' := (isShort_filterDims channelsFirst short').2.1
          have operands := reportsFirst_operands height width short short'
          refine (operands _ _ _ _ channels channels' _).congr _ ?_ fun v => ?_
          · rw [propext (overlongWindow_attributes channelsFirst height width data filters)]
            rfl
          · exact (operandsFind_attributes channelsFirst height width data filters v).symm
        · rintro _ ⟨-, rfl⟩
          rfl
        · rintro _ ⟨-, rfl⟩
          simp
      · rintro _ v' ⟨-, rfl⟩ (found | found)
        · exact Violation.turn_lt_of_stages rfl found.stage (by simp)
        · exact Violation.turn_lt_of_stage
            (Nat.lt_of_lt_of_le (by simp) found.stage)
      · rintro _ ⟨-, rfl⟩ _ (⟨-, rfl⟩ | ⟨-, rfl⟩) <;>
          simp
    · rintro _ ⟨-, rfl⟩
      rfl
    · rintro _ ⟨-, rfl⟩
      rfl
    · rintro v' (⟨-, rfl⟩ | found | found)
      · simp
      · rw [found.stage]
        simp
      · exact Nat.lt_of_lt_of_le (by simp) found.stage
    · rintro _ (⟨-, rfl⟩ | ⟨-, rfl⟩) <;>
        simp
  · rintro _ v' ⟨-, rfl⟩ (⟨-, rfl⟩ | ⟨-, rfl⟩ | found | found)
    · simp
    · exact Violation.turn_lt_of_stage (by simp)
    · exact Violation.turn_lt_of_stages rfl found.stage (by simp)
    · exact Violation.turn_lt_of_stage
        (Nat.lt_of_lt_of_le (by simp) found.stage)
  · rintro _ ⟨-, rfl⟩ _ (⟨-, rfl⟩ | ⟨-, rfl⟩ | ⟨-, rfl⟩) <;>
      simp
  · rintro _ ⟨-, rfl⟩ v' (⟨-, rfl⟩ | ⟨-, rfl⟩ | found | found)
    · simp
    · simp
    · rw [found.stage]
      simp
    · exact Nat.le_trans (by simp) found.stage

end OpGraph.Convolution
