import OpGraph.Kernel.Translation.Call
import OpGraph.Proofs.Kernel.Unmarked
import OpGraph.Proofs.Reading.Axes

/-!
# Texts of primitive calls

What a node is written as in the direct dialect: the call of a primitive on all its inputs,
followed by lists of integers. Main statement: for inputs and an output of known shapes the code
is the text of that call (`code_eq_text`), so it reads back as the call.
-/
namespace OpGraph.Call

open Reading

/-- The call of a primitive on inputs of known shapes and on lists of integers. -/
def written (shapes : List (List Nat)) (shape : List Nat) (primitive : Primitive)
    (keys : List (String × List Int)) : Reading.Call where
  inputs := (List.range shapes.length).map fun position =>
    (inputName position, (shapes.getD position []).map Int.ofNat)
  shape := shape.map Int.ofNat
  primitive := primitive.name
  arguments := (List.range shapes.length).map (fun position => .input (inputName position)) ++
    keys.map fun (key, values) => .integers key values

/-- The arguments that follow the inputs. -/
def keyText (keys : List (String × List Int)) : String :=
  Text.commaList (keys.map fun (key, values) => key ++ "=" ++ integerList values)

/-! ### Separators -/

/-- A list within a list of arguments continues it. -/
private theorem commaList_append (front back : List String) (nonempty : back ≠ []) :
    Text.commaList (front ++ [Text.commaList back]) = Text.commaList (front ++ back) := by
  cases front with
  | nil => simp [Text.commaList]
  | cons text front =>
    unfold Text.commaList
    rw [String.intercalate_append_of_ne_nil (by simp) (by simp),
      String.intercalate_append_of_ne_nil (by simp) nonempty, String.intercalate_singleton]

private theorem intercalate_ended (texts : List String) (nonempty : texts ≠ []) :
    " ".intercalate (texts.map (· ++ ";")) = "; ".intercalate texts ++ ";" := by
  induction texts with
  | nil => exact absurd rfl nonempty
  | cons text texts ih =>
    cases texts with
    | nil => simp
    | cons next texts =>
      have later := ih (by simp)
      have seam : "; " = ";" ++ " " := rfl
      simp only [List.map_cons, String.intercalate_cons_cons] at later ⊢
      rw [later, seam]
      simp only [String.append_assoc]

/-- Semicolons that end the inputs are those that separate them from what follows. -/
private theorem intercalate_semicolons (inputs : List String) (output : String)
    (nonempty : inputs ≠ []) :
    " ".intercalate (inputs.map (· ++ ";")) ++ " " ++ output ++ "; " =
      "; ".intercalate (inputs ++ [output, ""]) := by
  have seam : "; " = ";" ++ " " := rfl
  have last : "; ".intercalate [output, ""] = output ++ "; " := by
    rw [String.intercalate_cons_cons, String.intercalate_singleton, String.append_empty]
  rw [String.intercalate_append_of_ne_nil nonempty (by simp), last, intercalate_ended _ nonempty,
    seam]
  simp only [String.append_assoc]

/-! ### Rendering -/

section Rendering

open Template (Segment written filled render_written)

private theorem declareInput_eq (node : NodeView) (position : Nat) (shape : List Nat)
    (known : node.inputShape position = .ok (.ofLengths shape))
    (short : (Shape.ofLengths shape).isShort = true) :
    declareInput node position = .ok (inputText (inputName position, shape.map Int.ofNat) ++ ";") := by
  have template : inputTemplate = Template.written
      [.text "input(\"", .hole "input_name", .text "\", ", .hole "input_shape", .text ");"] := by
    decide
  simp only [declareInput, known, Outcome.ok_bind,
    Substitutions.setText_eq _ "input_name" _ (by decide),
    Substitutions.setShape_eq _ "input_shape" _ (by decide) short]
  rw [Substitutions.render, template, render_written _ _ (by decide)]
  · simp [-String.reduceAppend, filled, Segment.filled, inputText, String.append_assoc]
    rfl
  · simp [Segment.known]

private theorem render_template (inputs : List String) (shape : List Nat) (primitive : Primitive)
    (operands : List String) (subs : Substitutions)
    (declared : subs.get? "inputs" = some (" ".intercalate inputs))
    (output : subs.get? "output_shape" = some (integerList (shape.map Int.ofNat)))
    (name : subs.get? "primitive" = some primitive.name)
    (arguments : subs.get? "args" = some (Text.commaList operands)) :
    subs.render template =
      .ok (" - " ++ (" ".intercalate inputs ++ " " ++ ("output(" ++
        integerList (shape.map Int.ofNat) ++ ", topi=" ++ primitive.name ++ "(" ++
        Text.commaList operands ++ "))") ++ "; ")) := by
  have template : template = Template.written
      [.text " - ", .hole "inputs", .text (" " ++ "output("), .hole "output_shape",
        .text ", topi=", .hole "primitive", .text "(", .hole "args", .text ("))" ++ "; ")] := by
    decide
  rw [Substitutions.render, template, render_written _ _ (by decide)]
  · simp [-String.reduceAppend, filled, Segment.filled, declared, output, name, arguments,
      String.append_assoc]
  · simp [Segment.known, declared, output, name, arguments]

end Rendering

/-- The operands are the inputs and, where there are any, the lists of integers. -/
private theorem commaList_operands (shapes : List (List Nat)) (shape : List Nat)
    (primitive : Primitive) (keys : List (String × List Int)) :
    Text.commaList ((List.range shapes.length).map argument ++
        (if (keyText keys).isEmpty then [] else [keyText keys])) =
      Text.commaList ((written shapes shape primitive keys).arguments.map Argument.text) := by
  have texts : (written shapes shape primitive keys).arguments.map Argument.text =
      (List.range shapes.length).map argument ++
        keys.map fun (key, values) => key ++ "=" ++ integerList values := by
    rw [written, List.map_append, List.map_map, List.map_map]
    rfl
  rw [texts]
  -- The keys are left out with their comma where there are none.
  cases keys with
  | nil => rfl
  | cons entry keys =>
    have some : (keyText (entry :: keys)).isEmpty = false := by
      cases keys <;> simp [keyText, Text.commaList, String.intercalate_cons_cons]
    rw [some, if_neg (by decide)]
    exact commaList_append _ _ (by simp)

/-- The code of a node of known shapes, which can be written, is the text of the call of the
primitive. -/
theorem code_eq_text (name : String) (operator : Operator) (inputs : List TensorType)
    (shapes : List (List Nat)) (shape : List Nat) (etype : ElementType) (primitive : Primitive)
    (keys : List (String × List Int)) (known : inputs.map (·.shape) = shapes.map .ofLengths)
    (nonempty : shapes ≠ []) (short : ∀ lengths ∈ shapes, (Shape.ofLengths lengths).isShort = true)
    (short' : (Shape.ofLengths shape).isShort = true) :
    code ⟨name, operator, shapes.length, .ok inputs, .ok [⟨.ofLengths shape, etype⟩]⟩ primitive
        (keyText keys) =
      .ok (written shapes shape primitive keys).text := by
  let node : NodeView :=
    ⟨name, operator, shapes.length, .ok inputs, .ok [⟨.ofLengths shape, etype⟩]⟩
  have declared : (List.range shapes.length).mapM (declareInput node) =
      .ok (((written shapes shape primitive keys).inputs.map inputText).map (· ++ ";")) := by
    rw [written, List.map_map, List.map_map]
    apply Outcome.mapM_eq_ok_map
    intro position member
    have below : position < shapes.length := List.mem_range.mp member
    refine declareInput_eq node position _ ?_ (short _ ?_)
    case refine_2 =>
      simp [List.getD_eq_getElem?_getD, List.getElem?_eq_getElem below]
    have same := congrArg (·[position]?) known
    simp only [List.getElem?_map, List.getElem?_eq_getElem below, Option.map_some] at same
    obtain ⟨type, found, shape⟩ := Option.map_eq_some_iff.mp same
    simp only [node, NodeView.inputShape, typeAt, found, shape, Outcome.ok_bind,
      List.getD_eq_getElem?_getD, List.getElem?_eq_getElem below]
    rfl
  have filled : (written shapes shape primitive keys).inputs.map inputText ≠ [] := by
    simpa [written] using nonempty
  have output : node.outputShape 0 = .ok (.ofLengths shape) := rfl
  -- The declarations, each with a semicolon behind it, and the output fill the template; the
  -- semicolons then are the separators of the text.
  change code node primitive (keyText keys) = _
  unfold code
  simp only [show node.arity = shapes.length from rfl, declared, output, Outcome.ok_bind,
    commaList_operands shapes shape primitive keys,
    Substitutions.setText_eq _ "inputs" _ (by decide),
    Substitutions.setShape_eq _ "output_shape" _ (by decide) short',
    Substitutions.setText_eq _ "primitive" _ (by decide),
    Substitutions.setText_eq _ "args" _ (by decide)]
  rw [render_template (((written shapes shape primitive keys).inputs.map inputText).map (· ++ ";"))
      shape primitive ((written shapes shape primitive keys).arguments.map Argument.text) _
      (by simp) (by simp) (by simp) (by simp),
    intercalate_semicolons _ _ filled]
  rfl

/-! ### Reading and running -/

private theorem tokens_inputName (position : Nat) :
    tokens (inputName position) = [.word (inputName position)] := by
  have letters : IsWord "input" := by decide
  apply tokens_word
  · simp [inputName]
  · intro c member
    rw [inputName, String.toList_append, List.mem_append] at member
    rcases member with letter | digit
    · exact letters c letter
    · exact isWordChar_of_isDigit c (toList_repr_digits position c digit)

section Written

variable {shapes : List (List Nat)} {shape : List Nat} {primitive : Primitive}
  {keys : List (String × List Int)}

theorem isPlain_written (plain : ∀ entry ∈ keys, tokens entry.1 = [.word entry.1])
    (nonempty : shapes ≠ []) : (written shapes shape primitive keys).IsPlain := by
  constructor
  · intro input member
    obtain ⟨position, -, rfl⟩ := List.mem_map.mp member
    exact tokens_inputName position
  · intro argument member
    rcases List.mem_append.mp member with input | key
    · obtain ⟨position, -, rfl⟩ := List.mem_map.mp input
      exact tokens_inputName position
    · obtain ⟨entry, among, rfl⟩ := List.mem_map.mp key
      exact plain entry among
  · simp [written, nonempty]
  all_goals
    simp only [written]
    cases primitive <;> decide

theorem isUnmarked_written (plain : ∀ entry ∈ keys, Template.IsUnmarked entry.1) :
    Template.IsUnmarked (written shapes shape primitive keys).text := by
  have name (position : Nat) : Template.IsUnmarked (inputName position) :=
    (Template.isUnmarked_append _ _).mpr ⟨by decide, Template.isUnmarked_repr position⟩
  apply Template.isUnmarked_call
  · exact List.forall_mem_map.mpr fun position _ => name position
  · exact Template.isUnmarked_primitive primitive
  · rw [written, List.forall_mem_append, List.forall_mem_map, List.forall_mem_map]
    constructor
    · intro position _
      simp only [Argument.text, Template.isUnmarked_append, name]
      decide
    · intro entry member
      simp only [Argument.text, Template.isUnmarked_append, plain entry member,
        Template.isUnmarked_integerList]
      decide

/-- Arrays under the names of the inputs. -/
def operands (tensors : List Tensor) : Inputs :=
  ((List.range tensors.length).map inputName).zip tensors

@[simp] theorem inputName_zero : inputName 0 = "input0" := by
  decide

@[simp] theorem inputName_one : inputName 1 = "input1" := by
  decide

theorem operands_single (a : Tensor) : operands [a] = [("input0", a)] := by
  simp [operands]

theorem operands_pair (a b : Tensor) : operands [a, b] = [("input0", a), ("input1", b)] := by
  simp [operands, List.range_succ]

private theorem lookup_operands (tensors : List Tensor) :
    List.Forall₂ (fun name tensor => (operands tensors).lookup name = some tensor)
      ((List.range tensors.length).map inputName) tensors :=
  lookup_zip _ tensors (nodup_axes "input" tensors.length) (by simp)

/-- On arrays of the declared shapes the call gives what the primitive gives, as long as this has
the shape of the output. -/
theorem run?_written (tensors : List Tensor) (result : Tensor)
    (declared : tensors.map Tensor.shape = shapes)
    (ran : runPrimitive? primitive.name tensors keys = some result)
    (output : result.shape = shape) :
    (written shapes shape primitive keys).run? (operands tensors) = some result := by
  subst declared output
  have found := lookup_operands tensors
  -- Inputs are numbered in order, so each name finds the tensor at its position.
  have declares : (written (tensors.map Tensor.shape) result.shape primitive keys).declares
      (operands tensors) = true := by
    rw [Call.declares, List.all_eq_true]
    intro input member
    obtain ⟨position, among, rfl⟩ := List.mem_map.mp member
    have below : position < tensors.length := by simpa using among
    have here := found.get (i := position) (by simpa using below) below
    simp only [List.get_eq_getElem, List.getElem_map, List.getElem_range] at here
    simp [here, below]
  have names : (written (tensors.map Tensor.shape) result.shape primitive keys).arguments.filterMap
      Argument.input? = (List.range tensors.length).map inputName := by
    simp [written, List.filterMap_append, List.filterMap_map, Function.comp_def, Argument.input?]
  have lists : (written (tensors.map Tensor.shape) result.shape primitive keys).arguments.filterMap
      Argument.integers? = keys := by
    simp [written, List.filterMap_append, List.filterMap_map, Function.comp_def,
      Argument.integers?]
  have read : ((List.range tensors.length).map inputName).mapM
      (fun name => (operands tensors).lookup name) = some tensors := by
    rw [Outcome.mapM_eq_some_iff]
    exact found
  rw [Call.run?, if_pos declares, names, lists]
  simp [read, ran, written]

end Written

end OpGraph.Call
