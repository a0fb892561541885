import OpGraph.Description.Basic
import OpGraph.Graph.Basic
import OpGraph.Registry
import OpGraph.Types.ShapeText

/-!
# Loading descriptions

Makes the graph that a description describes. Nodes are created in the order of their
declaration and may only read what is declared before them. Without a list of outputs the
nodes that no node reads are the outputs. Nodes created before a fault was found stay in the
store.
-/
namespace OpGraph.Description

open Markup (Word)

/-- The nodes declared so far by name, the latest first. A node whose name is a symbol is never
found again. -/
abbrev Declared := List (Word × Nat)

def findDeclared? (declared : Declared) (name : String) : Option Nat :=
  declared.lookup (.text name)

def isDeclared (declared : Declared) (name : String) : Bool :=
  (findDeclared? declared name).isSome

def requireFresh (declared : Declared) : Word → Except Failure Unit
  | .text name =>
    if isDeclared declared name then .error (.description (.duplicateName name)) else .ok ()
  | .symbol _ => .ok ()

/-- A fault of the type of an input names the input. -/
def locateInput (input : String) : Failure → Failure
  | .negativeLength length => .description (.negativeDimension input length)
  | .unknownElement etype => .description (.unknownElement input etype)
  | failure => failure

def inputType (input : InputDescription) : Except Failure TensorType :=
  Except.mapError (locateInput input.name.written) do
    return ⟨← Shape.parse (← textOf input.shape), ← ElementType.ofName input.etype.written⟩

/-- The operator of an input: a parameter of the declared type. -/
def inputOperator (declared : Declared) (input : InputDescription) :
    Except Failure Operator := do
  requireFresh declared input.name
  return .parameter (← inputType input)

def declareInputs (store : Store) (declared : Declared) :
    List InputDescription → Store × Except Failure Declared
  | [] => (store, .ok declared)
  | input :: inputs =>
    match inputOperator declared input with
    | .error failure => (store, .error failure)
    | .ok operator =>
      match store.create operator [] (some input.name.written) with
      | (store, .error failure) => (store, .error failure)
      | (store, .ok id) => declareInputs store ((input.name, id) :: declared) inputs

def integerAttributes : List String :=
  ["lower_bounds", "upper_bounds", "strides", "window_movement_strides",
   "window_dilation_strides", "padding_below", "padding_above"]

/-- Integers between commas; empty items are passed over. -/
def parseIntegers (text : String) : Except Failure (List Int) :=
  (((Text.commaPieces text).map Text.strip).filter fun item => item != "").mapM parseInteger

def parseAttribute (attr : String × Word) : Except Failure (String × Value) := do
  let text ← textOf attr.2
  if integerAttributes.contains attr.1 then
    return (attr.1, .tuple ((← parseIntegers text).map .int))
  else return (attr.1, .text (Text.strip text))

def definitionOf (registry : Registry) (node : NodeDescription) :
    Except Failure OperatorDefinition :=
  match node.kind.text?.bind registry.find? with
  | none => .error (.description (.unknownOperator node.name.written node.kind.written))
  | some definition =>
    if definition.cls = .parameter then .error (.description (.parameterNode node.name.written))
    else .ok definition

def producersOf (declared : Declared) (node : NodeDescription) : Except Failure (List Nat) :=
  let names := node.inputs.map Text.strip
  match names.filter fun name => !isDeclared declared name with
  | [] => .ok (names.filterMap (findDeclared? declared))
  | missing => .error (.description (.undefinedInputs node.name.written missing))

variable [DescriptionReader]

def operatorOf (definition : OperatorDefinition) (node : NodeDescription) :
    Except Failure Operator := do
  let attrs ← node.attrs.mapM parseAttribute
  match definition.cls.build attrs with
  | .ok operator => return operator
  | .error _ =>
    let account := DescriptionReader.attributesAccount definition.cls attrs
    throw (.description (.invalidAttributes node.name.written node.kind.written account))

/-- The operator and the producers of a node. -/
def nodeParts (registry : Registry) (declared : Declared) (node : NodeDescription) :
    Except Failure (Operator × List Nat) := do
  requireFresh declared node.name
  let definition ← definitionOf registry node
  let producers ← producersOf declared node
  return (← operatorOf definition node, producers)

def declareNodes (registry : Registry) (store : Store) (declared : Declared) :
    List NodeDescription → Store × Except Failure Declared
  | [] => (store, .ok declared)
  | node :: nodes =>
    match nodeParts registry declared node with
    | .error failure => (store, .error failure)
    | .ok (operator, producers) =>
      match store.create operator producers (some node.name.written) with
      | (store, .error failure) => (store, .error failure)
      | (store, .ok id) => declareNodes registry store ((node.name, id) :: declared) nodes

/-- The names of the nodes that no node reads. -/
def unreadNames (description : Description) : List Word :=
  let read := (description.nodes.flatMap (·.inputs)).map fun name => Word.text (Text.strip name)
  (description.nodes.map (·.name)).filter fun name => !read.contains name

def outputNames (description : Description) : Except Failure (List String) := do
  let names ← match description.outputs with
    | some names => pure names
    | none => description.unreadNames.mapM textOf
  return names.map Text.strip

def outputsOf (declared : Declared) (description : Description) : Except Failure (List Nat) := do
  let names ← description.outputNames
  match names.filter fun name => !isDeclared declared name with
  | [] => return names.filterMap (findDeclared? declared)
  | missing => throw (.description (.undefinedOutputs missing))

/-- The graph of all that was declared. -/
def assemble (store : Store) (declared : Declared) (description : Description) :
    Except Failure Graph := do
  let outputs ← outputsOf declared description
  let ids := declared.reverse.map Prod.snd
  let graph ← (Graph.empty (description.name.map Word.written)).addNodes store ids
  let graph ← graph.setInputs store (ids.take description.inputs.length)
  return graph.setOutputs outputs

/-- Creates the nodes of a description and makes its graph. -/
def build (registry : Registry) (store : Store) (description : Description) :
    Store × Except Failure Graph :=
  match declareInputs store [] description.inputs with
  | (store, .error failure) => (store, .error failure)
  | (store, .ok declared) =>
    match declareNodes registry store declared description.nodes with
    | (store, .error failure) => (store, .error failure)
    | (store, .ok declared) => (store, assemble store declared description)

/-- Loads the graph that a text describes. -/
def load (registry : Registry) (store : Store) (text : String) : Store × Except Failure Graph :=
  match ofText text with
  | .error failure => (store, .error failure)
  | .ok description => description.build registry store

end OpGraph.Description
