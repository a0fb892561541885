import OpGraph.Number.Decimal
import OpGraph.Number.Rounding

/-!
# Real numbers of double precision

A real is finite, with a sign that zero keeps too, or infinite, or undefined. Results are
computed exactly and then rounded once, beyond the greatest finite real to infinity. `text`
writes a real with the fewest digits that read back as the same real.
-/
namespace OpGraph

inductive Real64 where
  | finite (negative : Bool) (magnitude : Rat)
  | infinite (negative : Bool)
  | undefined
  deriving DecidableEq, Inhabited

namespace Real64

/-- The real nearest to a magnitude with a sign. -/
def ofMagnitude (negative : Bool) (magnitude : Rat) : Real64 :=
  match BinaryFormat.double.roundMagnitude? magnitude with
  | some rounded => .finite negative rounded
  | none => .infinite negative

/-- The real nearest to a fraction; zero has the sign given. -/
def ofRat (value : Rat) (zeroNegative : Bool) : Real64 :=
  if value < 0 then ofMagnitude true (-value)
  else if value = 0 then .finite zeroNegative 0
  else ofMagnitude false value

/-- Decimal exponents beyond this one are far outside of the range of finite reals. -/
def decimalRange : Int := 400

/-- The real nearest to a decimal. -/
def ofDecimal (d : Decimal) : Real64 :=
  let leading := d.exponent + (Nat.repr d.digits).length
  if d.digits = 0 ∨ leading < -decimalRange then .finite d.negative 0
  else if decimalRange < leading then .infinite d.negative
  else ofMagnitude d.negative d.magnitude

/-- The value of a finite real. -/
def toRat? : Real64 → Option Rat
  | finite negative magnitude => some (if negative then -magnitude else magnitude)
  | _ => none

def isNegative : Real64 → Bool
  | finite negative _ => negative
  | infinite negative => negative
  | undefined => false

def isZero : Real64 → Bool
  | finite _ magnitude => magnitude == 0
  | _ => false

def zero (negative : Bool) : Real64 :=
  .finite negative 0

def one : Real64 :=
  .finite false 1

def neg : Real64 → Real64
  | finite negative magnitude => .finite (!negative) magnitude
  | infinite negative => .infinite (!negative)
  | undefined => .undefined

/-- Opposite infinities have no sum; a sum that is zero is negative only if both terms are. -/
def add (a b : Real64) : Real64 :=
  match a, b with
  | undefined, _ | _, undefined => .undefined
  | infinite m, infinite n => if m == n then .infinite m else .undefined
  | infinite m, finite .. => .infinite m
  | finite .., infinite n => .infinite n
  | finite m x, finite n y =>
    ofRat ((if m then -x else x) + (if n then -y else y)) (m && n)

def sub (a b : Real64) : Real64 :=
  a.add b.neg

/-- Infinity times zero is undefined. -/
def mul (a b : Real64) : Real64 :=
  let negative := a.isNegative != b.isNegative
  match a, b with
  | undefined, _ | _, undefined => .undefined
  | finite _ x, finite _ y => ofMagnitude negative (x * y)
  | _, _ => if a.isZero || b.isZero then .undefined else .infinite negative

/-- The quotient by a real that is not zero. -/
def div (a b : Real64) : Real64 :=
  let negative := a.isNegative != b.isNegative
  match a, b with
  | undefined, _ | _, undefined | infinite _, infinite _ => .undefined
  | infinite _, finite .. => .infinite negative
  | finite .., infinite _ => .zero negative
  | finite _ x, finite _ y => ofMagnitude negative (x / y)

/-- The integer part of a fraction that is not negative. -/
def whole (magnitude : Rat) : Nat :=
  magnitude.num.natAbs / magnitude.den

/-- The remainder with the sign of the dividend; it is exact. -/
def remainder (a b : Real64) : Real64 :=
  match a, b with
  | undefined, _ | _, undefined | infinite _, _ => .undefined
  | finite .., infinite _ => a
  | finite m x, finite _ y => .finite m (x - y * whole (x / y))

/-- The greatest integer that is not above a real. -/
def floor : Real64 → Real64
  | finite negative magnitude =>
    let cut : Rat := whole magnitude
    .finite negative (if negative && cut != magnitude then cut + 1 else cut)
  | other => other

def less (a b : Real64) : Bool :=
  match a, b with
  | undefined, _ | _, undefined => false
  | infinite m, infinite n => m && !n
  | infinite m, finite .. => m
  | finite .., infinite n => !n
  | finite m x, finite n y => (if m then -x else x) < (if n then -y else y)

/-- Two reals are the same if neither is less; an undefined one is not even itself. -/
def same (a b : Real64) : Bool :=
  a != .undefined && b != .undefined && !a.less b && !b.less a

/-- The quotient and the remainder of a division toward minus infinity by a real that is not
zero. The remainder is moved to the sign of the divisor, and the quotient, of which only
rounding keeps it from being an integer, is taken to the nearest one. -/
def floorDivMod (a b : Real64) : Real64 × Real64 :=
  let rest := a.remainder b
  let quotient := (a.sub rest).div b
  let (quotient, rest) :=
    if rest.isZero then (quotient, .zero b.isNegative)
    else if rest != .undefined && rest.isNegative != b.isNegative then
      (quotient.sub one, rest.add b)
    else (quotient, rest)
  if quotient.isZero then (.zero (a.isNegative != b.isNegative), rest)
  else
    let down := quotient.floor
    (if less (.finite false (1 / 2)) (quotient.sub down) then down.add one else down, rest)

/-- How many decimal digits stand before the point of a positive fraction; zeros right after
the point count as negative. -/
def leadingPlace (magnitude : Rat) : Int :=
  let num := magnitude.num.natAbs
  let den := magnitude.den
  if den ≤ num then (Nat.repr (num / den)).length
  else
    let zeros := (Nat.repr (den / num)).length - 1
    if den = num * Nat.pow 10 zeros then 1 - zeros else -zeros

/-- The nearest decimal with a count of digits that reads back as a magnitude. -/
def decimalOf? (magnitude : Rat) (point : Int) (count : Nat) : Option Decimal :=
  let exponent := point - count
  let unit := (Decimal.mk false 1 exponent).magnitude
  let scaled := magnitude / unit
  let digits := BinaryFormat.nearest scaled.num.natAbs scaled.den
  let other := if (digits : Rat) ≤ scaled then digits + 1 else digits - 1
  ([digits, other].map fun digits => Decimal.mk false digits exponent).find? fun d =>
    BinaryFormat.double.roundMagnitude? d.magnitude == some magnitude

/-- The decimal of the fewest digits, from `count` on, that reads back as a magnitude. -/
def shortestFrom (magnitude : Rat) (point : Int) : Nat → Nat → Decimal
  | 0, count => (decimalOf? magnitude point count).getD ⟨false, 0, 0⟩
  | fuel + 1, count =>
    match decimalOf? magnitude point count with
    | some d => d
    | none => shortestFrom magnitude point fuel (count + 1)

/-- With so many decimal digits every real reads back. -/
def decimalDigits : Nat := 17

def shortest (magnitude : Rat) : Decimal :=
  if magnitude = 0 then ⟨false, 0, 0⟩
  else shortestFrom magnitude (leadingPlace magnitude) (decimalDigits - 1) 1

def text : Real64 → String
  | finite negative magnitude => { shortest magnitude with negative := negative }.text
  | infinite negative => if negative then "-inf" else "inf"
  | undefined => "nan"

end Real64

end OpGraph
