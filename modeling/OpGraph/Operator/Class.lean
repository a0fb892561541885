import OpGraph.Operator.Basic

/-!
# Operator classes

A class makes operators from attributes given by name. Library classes take the attributes
they declare and no others; the generic class takes any, `name` being that of the operator.
An integer attribute of a convolution may be one number for both axes.
-/
namespace OpGraph

inductive OperatorClass where
  | generic
  | parameter
  | convolution
  | replaceSlice
  | slice
  | dot
  deriving DecidableEq, Inhabited

namespace OperatorClass

def name : OperatorClass → String
  | generic => "Generic"
  | parameter => "Parameter"
  | convolution => Convolution.kind
  | replaceSlice => ReplaceSlice.kind
  | slice => Slice.kind
  | dot => Dot.kind

def all : List OperatorClass :=
  [generic, parameter, convolution, replaceSlice, slice, dot]

def ofName? (text : String) : Option OperatorClass :=
  all.find? fun cls => cls.name == text

/-- The entries of a value that can be enumerated. -/
def sequence (value : Value) : Except Failure (List Value) :=
  match value.items? with
  | some items => .ok items
  | none => .error .badAttributes

/-- A number stands for both axes, and so does a sequence of one. -/
def pair (default : Int) : Value → Except Failure (List Value)
  | .none => .ok [.int default, .int default]
  | .int value => .ok [.int value, .int value]
  | .bool flag => .ok [.bool flag, .bool flag]
  | value => do
    match ← sequence value with
    | [entry] => return [entry, entry]
    | entries => return entries

def pairAttribute (attrs : List (String × Value)) (name : String) (default : Int) :
    Except Failure (List Value) :=
  pair default ((attrs.lookup name).getD .none)

def required (attrs : List (String × Value)) (name : String) : Except Failure Value :=
  match attrs.lookup name with
  | some value => .ok value
  | none => .error .badAttributes

/-- Refuses attributes that are not declared. -/
def onlyNames (declared : List String) (attrs : List (String × Value)) : Except Failure Unit :=
  if attrs.all fun (name, _) => declared.contains name then .ok () else .error .badAttributes

def buildConvolution (attrs : List (String × Value)) : Except Failure Operator := do
  onlyNames ["window_movement_strides", "window_dilation_strides", "padding_below",
    "padding_above", "data_format"] attrs
  let strides ← pairAttribute attrs "window_movement_strides" 1
  let dilations ← pairAttribute attrs "window_dilation_strides" 1
  let below ← pairAttribute attrs "padding_below" 0
  let above ← pairAttribute attrs "padding_above" 0
  let format := (attrs.lookup "data_format").getD (.text "NCHW")
  return .convolution ⟨strides, dilations, below, above, format⟩

/-- Bounds from their values; strides may be left out or empty. -/
def bounds (lower upper strides : Value) : Except Failure SliceBounds := do
  let lower ← sequence lower
  let upper ← sequence upper
  let strides ← match strides with
    | .none => pure []
    | strides => sequence strides
  return ⟨lower, upper, defaultStrides lower strides⟩

def buildBounds (attrs : List (String × Value)) : Except Failure SliceBounds := do
  onlyNames ["lower_bounds", "upper_bounds", "strides"] attrs
  bounds (← required attrs "lower_bounds") (← required attrs "upper_bounds")
    ((attrs.lookup "strides").getD .none)

/-- A generic operator; its attributes may not be called as what the class itself takes. -/
def buildGeneric (name : String) (attrs : List (String × Value)) : Except Failure Operator :=
  if attrs.any fun (key, _) => key == "name" || key == "self" then .error .badAttributes
  else .ok (.generic name attrs)

/-- Makes an operator of the class. A parameter is made from its type only. -/
def build : OperatorClass → List (String × Value) → Except Failure Operator
  | generic, attrs => do
    match ← required attrs "name" with
    | .text name => buildGeneric name (attrs.filter fun (key, _) => key != "name")
    | _ => throw .badAttributes
  | parameter, _ => .error .badAttributes
  | convolution, attrs => buildConvolution attrs
  | replaceSlice, attrs => do return .replaceSlice (← buildBounds attrs)
  | slice, attrs => do return .slice (← buildBounds attrs)
  | dot, attrs => do
    onlyNames [] attrs
    return .dot

end OperatorClass

end OpGraph
