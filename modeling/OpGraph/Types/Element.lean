/-!
# Element types

The scalar types of tensor elements. The dynamic type stands for one that is not known yet
and merges with every other.
-/
namespace OpGraph

inductive ElementType where
  | dynamic
  | bool
  | float16
  | float32
  | float64
  | int8
  | int16
  | int32
  | int64
  | uint8
  | uint16
  | uint32
  | uint64
  deriving DecidableEq, Inhabited

namespace ElementType

def all : List ElementType :=
  [dynamic, bool, float16, float32, float64, int8, int16, int32, int64, uint8, uint16, uint32,
   uint64]

def name : ElementType → String
  | dynamic => "dynamic"
  | bool => "bool"
  | float16 => "float16"
  | float32 => "float32"
  | float64 => "float64"
  | int8 => "int8"
  | int16 => "int16"
  | int32 => "int32"
  | int64 => "int64"
  | uint8 => "uint8"
  | uint16 => "uint16"
  | uint32 => "uint32"
  | uint64 => "uint64"

def bitWidth : ElementType → Nat
  | dynamic => 0
  | bool | int8 | uint8 => 8
  | float16 | int16 | uint16 => 16
  | float32 | int32 | uint32 => 32
  | float64 | int64 | uint64 => 64

def isReal : ElementType → Bool
  | float16 | float32 | float64 => true
  | _ => false

def isSigned : ElementType → Bool
  | bool | float16 | float32 | float64 | int8 | int16 | int32 | int64 => true
  | _ => false

/-- The name of the type in C. -/
def cName : ElementType → String
  | dynamic => ""
  | bool => "char"
  | float16 => "half"
  | float32 => "float"
  | float64 => "double"
  | int8 => "int8_t"
  | int16 => "int16_t"
  | int32 => "int32_t"
  | int64 => "int64_t"
  | uint8 => "uint8_t"
  | uint16 => "uint16_t"
  | uint32 => "uint32_t"
  | uint64 => "uint64_t"

def isDynamic (etype : ElementType) : Bool :=
  etype == dynamic

def isStatic (etype : ElementType) : Bool :=
  !etype.isDynamic

def shortNames : List (String × ElementType) :=
  [("boolean", bool), ("f16", float16), ("f32", float32), ("f64", float64), ("i8", int8),
   ("i16", int16), ("i32", int32), ("i64", int64), ("u8", uint8), ("u16", uint16),
   ("u32", uint32), ("u64", uint64)]

def ofName? (text : String) : Option ElementType :=
  match shortNames.lookup text with
  | some etype => some etype
  | none => all.find? fun etype => etype.name == text

/-- The common type of both sides, if there is one. -/
def merge : ElementType → ElementType → Option ElementType
  | dynamic, b => some b
  | a, dynamic => some a
  | a, b => if a = b then some a else none

end ElementType

end OpGraph
