import OpGraph.Description.Loading
import OpGraph.Proofs.Operator.Evaluation
import OpGraph.Proofs.Operator.Overlong
import OpGraph.Proofs.Types.ShapeText
import OpGraph.Proofs.Writing

/-!
# Attributes of descriptions

A description writes the attributes of its nodes as texts. What can be read from them are
sequences of integers, and a text for the data format, so every operator that a description
names has integer attributes or is refused. What was read of digits can be written again, the
types of inputs included (`isDescribed_of_operatorOf`, `isDescribed_of_inputType`).
-/
namespace OpGraph

/-- An operator as descriptions give them to nodes. -/
structure Operator.IsDescribed (operator : Operator) : Prop where
  integral : operator.isParameter = false → operator.IsIntegral
  short : operator.isShort = true

namespace Description

theorem isShort_of_parseInteger {text : String} {n : Int} (read : parseInteger text = .ok n) :
    Text.isShort n = true := by
  unfold parseInteger at read
  split at read
  next found =>
    cases read
    exact (Text.isShort_iff n).mpr (Text.readInteger?_eq_some.mp found).natAbs_lt
  · cases read

theorem areShort_of_parseIntegers {text : String} {ints : List Int}
    (read : parseIntegers text = .ok ints) : ints.all Text.isShort = true := by
  rw [List.all_eq_true]
  intro n member
  obtain ⟨item, -, read⟩ := Outcome.forall₂_mem_left
    ((Outcome.mapM_eq_ok_iff _ _ _).mp read).flip n member
  exact isShort_of_parseInteger read

/-- The entries are short integers. -/
def AreIntegers (entries : List Value) : Prop :=
  ∃ ints : List Int, entries = ints.map .int ∧ ints.all Text.isShort = true

theorem AreIntegers.isShort {entries : List Value} (integers : AreIntegers entries) :
    entries.all Value.isShort = true := by
  obtain ⟨ints, rfl, short⟩ := integers
  rwa [Value.isShort_ints]

/-- The forms of the values that attributes are read to. -/
def IsParsed (attrs : List (String × Value)) : Prop :=
  ∀ entry ∈ attrs,
    if integerAttributes.contains entry.1 then
      ∃ entries, entry.2 = .tuple entries ∧ AreIntegers entries
    else ∃ text, entry.2 = .text text

theorem isParsed_of_mapM (texts : List (String × Markup.Word)) (attrs : List (String × Value))
    (parsed : texts.mapM parseAttribute = .ok attrs) : IsParsed attrs := by
  intro entry member
  obtain ⟨attr, -, read⟩ := Outcome.forall₂_mem_left
    ((Outcome.mapM_eq_ok_iff _ _ _).mp parsed).flip entry member
  simp only [parseAttribute, Outcome.bind_eq_ok] at read
  obtain ⟨text, -, read⟩ := read
  split at read
  next integers =>
    simp only [Outcome.bind_eq_ok, Outcome.pure_eq_ok] at read
    obtain ⟨ints, read, rfl⟩ := read
    rw [if_pos integers]
    exact ⟨_, rfl, ints, rfl, areShort_of_parseIntegers read⟩
  next other =>
    cases read
    rw [if_neg other]
    exact ⟨_, rfl⟩

private theorem defaultStrides_integers (lower : List Value) {strides : List Value}
    (integers : AreIntegers strides) : AreIntegers (defaultStrides lower strides) := by
  obtain ⟨ints, rfl, short⟩ := integers
  cases ints with
  | nil =>
    refine ⟨List.replicate lower.length 1, by simp [defaultStrides], ?_⟩
    rw [List.all_replicate]
    split <;> decide
  | cons first rest => exact ⟨first :: rest, rfl, short⟩

section Parsed

variable {attrs : List (String × Value)} (parsed : IsParsed attrs) {name : String} {value : Value}

include parsed

theorem IsParsed.integers (found : attrs.lookup name = some value)
    (integer : integerAttributes.contains name = true) :
    ∃ entries, value = .tuple entries ∧ AreIntegers entries := by
  obtain ⟨before, after, rfl, -⟩ := List.lookup_eq_some_iff.mp found
  have form := parsed (name, value) (by simp)
  rwa [if_pos integer] at form

theorem IsParsed.text (found : attrs.lookup name = some value)
    (other : integerAttributes.contains name = false) : ∃ text, value = .text text := by
  obtain ⟨before, after, rfl, -⟩ := List.lookup_eq_some_iff.mp found
  have form := parsed (name, value) (by simp)
  simpa only [other, Bool.false_eq_true, if_false] using form

open OperatorClass

/-- One integer stands for both axes, and so does the default where there are none. -/
theorem pairAttribute_integers {default : Int} {entries : List Value}
    (short : Text.isShort default = true) (integer : integerAttributes.contains name = true)
    (read : pairAttribute attrs name default = .ok entries) : AreIntegers entries := by
  unfold pairAttribute at read
  cases found : attrs.lookup name with
  | none =>
    rw [found] at read
    cases read
    exact ⟨[default, default], rfl, by simp [short]⟩
  | some value =>
    obtain ⟨_, rfl, ints, rfl, areShort⟩ := parsed.integers found integer
    rw [found] at read
    -- One entry stands for both axes.
    rcases ints with _ | ⟨first, _ | ⟨second, rest⟩⟩
    · cases read
      exact ⟨[], rfl, rfl⟩
    · cases read
      exact ⟨[first, first], rfl, by simpa using areShort⟩
    · cases read
      exact ⟨first :: second :: rest, rfl, areShort⟩

theorem required_integers (integer : integerAttributes.contains name = true)
    (read : required attrs name = .ok value) :
    ∃ entries, value = .tuple entries ∧ AreIntegers entries := by
  unfold required at read
  cases found : attrs.lookup name with
  | none =>
    rw [found] at read
    cases read
  | some value =>
    rw [found] at read
    cases read
    exact parsed.integers found integer

theorem isDescribed_buildConvolution {operator : Operator}
    (built : buildConvolution attrs = .ok operator) : operator.IsDescribed := by
  simp only [buildConvolution, Outcome.bind_eq_ok, Outcome.exists_unit, Outcome.pure_eq_ok] at built
  obtain ⟨-, strides, strides', dilations, dilations', below, below', above, above', rfl⟩ := built
  have strides := pairAttribute_integers parsed (by decide) rfl strides'
  have dilations := pairAttribute_integers parsed (by decide) rfl dilations'
  have below := pairAttribute_integers parsed (by decide) rfl below'
  have above := pairAttribute_integers parsed (by decide) rfl above'
  have format : ∃ format, (attrs.lookup "data_format").getD (.text "NCHW") = .text format := by
    cases found : attrs.lookup "data_format" with
    | none => exact ⟨"NCHW", rfl⟩
    | some value => exact parsed.text found rfl
  obtain ⟨format, same⟩ := format
  rw [same]
  constructor
  · obtain ⟨strides, rfl, -⟩ := strides
    obtain ⟨dilations, rfl, -⟩ := dilations
    obtain ⟨below, rfl, -⟩ := below
    obtain ⟨above, rfl, -⟩ := above
    exact fun _ => .convolution strides dilations below above format
  · rw [Operator.isShort, ConvolutionAttributes.isShort, strides.isShort, dilations.isShort,
      below.isShort, above.isShort]
    rfl

theorem buildBounds_integers {bounds : SliceBounds} (built : buildBounds attrs = .ok bounds) :
    (∃ lower upper strides, bounds = .ofInts lower upper strides) ∧ bounds.isShort = true := by
  simp only [buildBounds, Outcome.bind_eq_ok, Outcome.exists_unit] at built
  obtain ⟨-, lower, given, upper, given', built⟩ := built
  obtain ⟨lower, rfl, lowers⟩ := required_integers parsed rfl given
  obtain ⟨upper, rfl, uppers⟩ := required_integers parsed rfl given'
  -- Strides that are missing are like none at all.
  have strides : ∃ strides, AreIntegers strides ∧
      bounds = ⟨lower, upper, defaultStrides lower strides⟩ := by
    cases found : attrs.lookup "strides" with
    | none =>
      rw [found] at built
      cases built
      exact ⟨[], ⟨[], rfl, rfl⟩, rfl⟩
    | some value =>
      obtain ⟨strides, rfl, integers⟩ := parsed.integers found rfl
      rw [found] at built
      cases built
      exact ⟨strides, integers, rfl⟩
  obtain ⟨strides, integers, rfl⟩ := strides
  have strides := defaultStrides_integers lower integers
  constructor
  · obtain ⟨ints, same, -⟩ := strides
    obtain ⟨lower, rfl, -⟩ := lowers
    obtain ⟨upper, rfl, -⟩ := uppers
    exact ⟨lower, upper, ints, congrArg (SliceBounds.mk _ _) same⟩
  · rw [SliceBounds.isShort, lowers.isShort, uppers.isShort, strides.isShort]
    rfl

/-- What a class of the library makes of such attributes. -/
theorem isDescribed_of_build {cls : OperatorClass} {operator : Operator}
    (library : cls ≠ .generic) (built : cls.build attrs = .ok operator) :
    operator.IsDescribed := by
  cases cls with
  | generic => exact absurd rfl library
  | parameter => cases built
  | convolution => exact isDescribed_buildConvolution parsed built
  | replaceSlice =>
    simp only [OperatorClass.build, Outcome.bind_eq_ok, Outcome.pure_eq_ok] at built
    obtain ⟨bounds, made, rfl⟩ := built
    obtain ⟨⟨lower, upper, strides, rfl⟩, short⟩ := buildBounds_integers parsed made
    exact ⟨fun _ => .replaceSlice lower upper strides, short⟩
  | slice =>
    simp only [OperatorClass.build, Outcome.bind_eq_ok, Outcome.pure_eq_ok] at built
    obtain ⟨bounds, made, rfl⟩ := built
    obtain ⟨⟨lower, upper, strides, rfl⟩, short⟩ := buildBounds_integers parsed made
    exact ⟨fun _ => .slice lower upper strides, short⟩
  | dot =>
    simp only [OperatorClass.build, Outcome.bind_eq_ok, Outcome.exists_unit,
      Outcome.pure_eq_ok] at built
    obtain ⟨-, rfl⟩ := built
    exact ⟨fun _ => .dot, rfl⟩

end Parsed

/-- No class makes a parameter. -/
theorem isParameter_of_build {cls : OperatorClass} {attrs : List (String × Value)}
    {operator : Operator} (built : cls.build attrs = .ok operator) :
    operator.isParameter = false := by
  cases cls with
  | generic =>
    simp only [OperatorClass.build, Outcome.bind_eq_ok] at built
    obtain ⟨name, -, built⟩ := built
    split at built
    next text =>
      unfold OperatorClass.buildGeneric at built
      split at built <;> cases built
      rfl
    · cases built
  | parameter => cases built
  | convolution =>
    simp only [OperatorClass.build, OperatorClass.buildConvolution, Outcome.bind_eq_ok,
      Outcome.pure_eq_ok] at built
    obtain ⟨_, -, _, -, _, -, _, -, _, -, rfl⟩ := built
    rfl
  | replaceSlice | slice | dot =>
    simp only [OperatorClass.build, Outcome.bind_eq_ok, Outcome.pure_eq_ok] at built
    obtain ⟨_, -, rfl⟩ := built
    rfl

/-- The library has no generic operators. -/
theorem cls_of_definitionOf {node : NodeDescription} {definition : OperatorDefinition}
    (found : definitionOf .library node = .ok definition) : definition.cls ≠ .generic := by
  unfold definitionOf at found
  split at found
  · cases found
  next known =>
    split at found
    · cases found
    · cases found
      obtain ⟨kind, -, listed⟩ := Option.bind_eq_some_iff.mp known
      have member : definition ∈ Registry.libraryDefinitions := List.mem_of_find?_eq_some listed
      simp only [Registry.libraryDefinitions, List.mem_cons, List.not_mem_nil, or_false] at member
      rcases member with rfl | rfl | rfl | rfl | rfl <;> exact nofun

theorem isDescribed_of_operatorOf [DescriptionReader] {definition : OperatorDefinition}
    {node : NodeDescription} {operator : Operator} (library : definition.cls ≠ .generic)
    (made : operatorOf definition node = .ok operator) : operator.IsDescribed := by
  simp only [operatorOf, Outcome.bind_eq_ok] at made
  obtain ⟨attrs, parsed, made⟩ := made
  split at made
  next built =>
    cases made
    exact isDescribed_of_build (isParsed_of_mapM _ _ parsed) library built
  · cases made

/-- The type of an input can be written, as its shape was read. -/
theorem isDescribed_of_inputType {input : InputDescription} {type : TensorType}
    (typed : inputType input = .ok type) : (Operator.parameter type).IsDescribed := by
  refine ⟨nofun, ?_⟩
  unfold inputType at typed
  cases read : (do
    return ⟨← Shape.parse (← textOf input.shape), ← ElementType.ofName input.etype.written⟩ :
      Except Failure TensorType) with
  | error failure =>
    rw [read] at typed
    cases typed
  | ok type =>
    rw [read] at typed
    cases typed
    simp only [Outcome.bind_eq_ok, Outcome.pure_eq_ok] at read
    obtain ⟨_, -, shape, parsed, _, -, rfl⟩ := read
    exact Shape.isShort_of_parse parsed

end Description

end OpGraph
