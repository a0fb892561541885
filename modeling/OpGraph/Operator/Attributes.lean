import OpGraph.Value

/-!
# Operator attributes

The attributes of the operators that have any. A slice takes every `stride`-th coordinate of
each axis, from a lower bound up to and without an upper bound. A convolution has a stride, a
dilation and two paddings per spatial axis, height before width. Nothing is checked here: the
lists may have any length and hold any values.
-/
namespace OpGraph

structure SliceBounds where
  lower : List Value
  upper : List Value
  strides : List Value
  deriving Inhabited

structure ConvolutionAttributes where
  strides : List Value
  dilations : List Value
  paddingBelow : List Value
  paddingAbove : List Value
  dataFormat : Value
  deriving Inhabited

/-- The entries of an attribute as they stand in messages. -/
def listText (values : List Value) : String :=
  Text.bracketed (values.map Value.display)

namespace SliceBounds

def ofInts (lower upper strides : List Int) : SliceBounds :=
  ⟨lower.map .int, upper.map .int, strides.map .int⟩

/-- The attributes under their names, in the order of declaration. -/
def named (bounds : SliceBounds) : List (String × Value) :=
  [("lower_bounds", .tuple bounds.lower),
   ("upper_bounds", .tuple bounds.upper),
   ("strides", .tuple bounds.strides)]

/-- Whether all entries can be written. -/
def isShort (bounds : SliceBounds) : Bool :=
  bounds.lower.all Value.isShort && bounds.upper.all Value.isShort &&
    bounds.strides.all Value.isShort

end SliceBounds

namespace ConvolutionAttributes

def ofInts (strides dilations paddingBelow paddingAbove : List Int) (dataFormat : String) :
    ConvolutionAttributes :=
  ⟨strides.map .int, dilations.map .int, paddingBelow.map .int, paddingAbove.map .int,
    .text dataFormat⟩

def named (attrs : ConvolutionAttributes) : List (String × Value) :=
  [("window_movement_strides", .tuple attrs.strides),
   ("window_dilation_strides", .tuple attrs.dilations),
   ("padding_below", .tuple attrs.paddingBelow),
   ("padding_above", .tuple attrs.paddingAbove),
   ("data_format", attrs.dataFormat)]

/-- Whether all entries can be written. -/
def isShort (attrs : ConvolutionAttributes) : Bool :=
  attrs.strides.all Value.isShort && attrs.dilations.all Value.isShort &&
    attrs.paddingBelow.all Value.isShort && attrs.paddingAbove.all Value.isShort &&
    attrs.dataFormat.isShort

/-- Whether the channels come before the spatial axes. -/
def isChannelsFirst (attrs : ConvolutionAttributes) : Bool :=
  attrs.dataFormat.isText "NCHW"

end ConvolutionAttributes

end OpGraph
