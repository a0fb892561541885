import OpGraph.Failure

/-!
# Numbers

What values count as in arithmetic: integers, truth values as 0 and 1, and reals. Integers stay
exact; as soon as one operand is real the other is made real too. Numbers of both kinds compare
by their exact values.
-/
namespace OpGraph

inductive Number where
  | int (value : Int)
  | real (value : Real64)
  deriving DecidableEq, Inhabited

namespace Number

def ofValue : Value → Except Failure Number
  | .int value => .ok (.int value)
  | .bool flag => .ok (.int (if flag then 1 else 0))
  | .real value => .ok (.real value)
  | _ => .error .notANumber

def toValue : Number → Value
  | int value => .int value
  | real value => .real value

/-- The nearest real; an integer may be too large to have one. -/
def toReal : Number → Except Failure Real64
  | int value =>
    match BinaryFormat.double.round? value with
    | some rounded => .ok (.ofRat rounded false)
    | none => .error .numberOverflow
  | real value => .ok value

/-- Arithmetic on two numbers by that on integers and that on reals. -/
def lift (onInts : Int → Int → Except Failure Int)
    (onReals : Real64 → Real64 → Except Failure Real64) : Number → Number → Except Failure Number
  | int a, int b => do return int (← onInts a b)
  | a, b => do return real (← onReals (← a.toReal) (← b.toReal))

def add : Number → Number → Except Failure Number :=
  lift (fun a b => .ok (a + b)) fun a b => .ok (a.add b)

def sub : Number → Number → Except Failure Number :=
  lift (fun a b => .ok (a - b)) fun a b => .ok (a.sub b)

def mul : Number → Number → Except Failure Number :=
  lift (fun a b => .ok (a * b)) fun a b => .ok (a.mul b)

/-- The quotient toward minus infinity. -/
def floorDiv : Number → Number → Except Failure Number :=
  lift (fun a b => if b = 0 then .error .divisionByZero else .ok (a.fdiv b))
    fun a b => if b.isZero then .error .divisionByZero else .ok (a.floorDivMod b).1

/-- The remainder of the quotient toward minus infinity. -/
def floorMod : Number → Number → Except Failure Number :=
  lift (fun a b => if b = 0 then .error .divisionByZero else .ok (a.fmod b))
    fun a b => if b.isZero then .error .divisionByZero else .ok (a.floorDivMod b).2

/-- The exact value of a number. -/
def exact : Number → Real64
  | int value => .finite (value < 0) value.natAbs
  | real value => value

def less : Number → Number → Bool
  | int a, int b => a < b
  | a, b => a.exact.less b.exact

def equals : Number → Number → Bool
  | int a, int b => a == b
  | a, b => a.exact.same b.exact

def lessEq (a b : Number) : Bool :=
  match a, b with
  | int a, int b => a ≤ b
  | a, b => a.less b || a.equals b

def isZero : Number → Bool
  | int value => value == 0
  | real value => value.isZero

def isPositive (n : Number) : Bool :=
  less (.int 0) n

def isNonNegative (n : Number) : Bool :=
  lessEq (.int 0) n

/-- A number that is an integer already. -/
def asInteger : Number → Except Failure Int
  | int value => .ok value
  | real _ => .error .notAnInteger

/-- The integer part: what follows the point is dropped. -/
def truncate : Number → Except Failure Int
  | int value => .ok value
  | real (.finite negative magnitude) =>
    let whole : Int := Real64.whole magnitude
    .ok (if negative then -whole else whole)
  | real (.infinite _) => .error .numberOverflow
  | real .undefined => .error .notANumeral

end Number

namespace Value

/-- Whether a value is a number equal to an integer. -/
def equalsInt (value : Value) (n : Int) : Bool :=
  match Number.ofValue value with
  | .ok number => number.equals (.int n)
  | .error _ => false

/-- A value that is an integer, or absent. Reals are not converted. -/
def integer? : Value → Except Failure (Option Int)
  | .none => .ok Option.none
  | .int value => .ok (some value)
  | .bool flag => .ok (some (if flag then 1 else 0))
  | _ => .error .notAnInteger

end Value

end OpGraph
