import OpGraph.Number.Basic
import OpGraph.Types.Element

/-!
# Element arithmetic

Elements are computed exactly and then brought into the range of their type: integers wrap,
truth values are 0 or 1, and reals are rounded. Since wrapping respects sums and products, an
integer result may be wrapped once at the end.
-/
namespace OpGraph.ElementType

/-- Brings an integer into the range of an integer type. -/
def wrapInt (etype : ElementType) (value : Int) : Int :=
  let modulus := Nat.pow 2 etype.bitWidth
  if etype.isSigned then Int.bmod value modulus else value % modulus

/-- The integer part, toward zero. -/
def truncate (value : Rat) : Int :=
  Int.tdiv value.num value.den

/-- The binary format of a real type. -/
def format? : ElementType → Option BinaryFormat
  | float16 => some .half
  | float32 => some .single
  | float64 => some .double
  | _ => none

/-- The element of the type that stands for an exact value. A real beyond its format is kept. -/
def reduce (etype : ElementType) (value : Rat) : Rat :=
  match etype with
  | dynamic => value
  | float16 | float32 | float64 =>
    match etype.format? with
    | some format => (format.round? value).getD value
    | none => value
  | bool => if value = 0 then 0 else 1
  | _ => (etype.wrapInt (truncate value) : Int)

/-- The integer of the type that a number is stored as: an integer must lie in the range of the
type, a real loses what follows its point and wraps. -/
def integerOf (etype : ElementType) : Number → Except Failure Int
  | .int value => if etype.wrapInt value = value then .ok value else .error .numberOverflow
  | number => do
    let value ← number.truncate
    if int64.wrapInt value = value || etype.wrapInt value = value then return etype.wrapInt value
    else throw .numberOverflow

/-- The element of the type that a value is stored as. -/
def elementOf (etype : ElementType) (value : Value) : Except Failure Rat := do
  match etype with
  | bool => return if value.isTruthy then 1 else 0
  | dynamic | float16 | float32 | float64 =>
    match (← (← Number.ofValue value).toReal).toRat? with
    | some exact => return etype.reduce exact
    | none => throw .numberOverflow
  | _ => return ((← etype.integerOf (← Number.ofValue value) : Int) : Rat)

/-- The signed integer type of a width, or a real type when there is none so wide. -/
def signedOfWidth (width : Nat) : ElementType :=
  if width ≤ 8 then int8
  else if width ≤ 16 then int16
  else if width ≤ 32 then int32
  else if width ≤ 64 then int64
  else float64

/-- The real type that holds the integers of a width. -/
def realOfWidth (width : Nat) : ElementType :=
  if width ≤ 8 then float16 else if width ≤ 16 then float32 else float64

def wider (a b : ElementType) : ElementType :=
  if a.bitWidth < b.bitWidth then b else a

/-- The smallest type that holds the elements of both types. -/
def promote (a b : ElementType) : ElementType :=
  if a = b then a
  else if a = bool then b
  else if b = bool then a
  else match a.isReal, b.isReal with
    | true, true => wider a b
    | true, false => wider a (realOfWidth b.bitWidth)
    | false, true => wider b (realOfWidth a.bitWidth)
    | false, false =>
      match a.isSigned, b.isSigned with
      | true, false => if b.bitWidth < a.bitWidth then a else signedOfWidth (2 * b.bitWidth)
      | false, true => if a.bitWidth < b.bitWidth then b else signedOfWidth (2 * a.bitWidth)
      | _, _ => wider a b

/-- Truth values, then naturals, then integers, then reals. -/
def kindRank : ElementType → Nat
  | dynamic | bool => 0
  | uint8 | uint16 | uint32 | uint64 => 1
  | int8 | int16 | int32 | int64 => 2
  | float16 | float32 | float64 => 3

/-- Whether results of the first type may be stored as the second: its kind must not lie
before. -/
def storable (source target : ElementType) : Bool :=
  source.kindRank ≤ target.kindRank

end OpGraph.ElementType
