/-!
# Rounding to binary formats

The numbers of a binary format have a limited count of significant binary digits, a least place
for the last of them, and lie below a power of two. `round?` gives the number of the format
nearest to a fraction, the one with an even last digit when two are as near, and nothing when
the fraction is too large.
-/
namespace OpGraph

structure BinaryFormat where
  precision : Nat
  leastPlace : Int
  greatestExponent : Int
  deriving DecidableEq

namespace BinaryFormat

def half : BinaryFormat :=
  ⟨11, -24, 16⟩

def single : BinaryFormat :=
  ⟨24, -149, 128⟩

def double : BinaryFormat :=
  ⟨53, -1074, 1024⟩

/-- Two to an integer power. -/
def power : Int → Rat
  | .ofNat e => (Nat.pow 2 e : Nat)
  | .negSucc e => mkRat 1 (Nat.pow 2 (e + 1))

/-- The nearest natural to a quotient, the even one of two that are as near. -/
def nearest (num den : Nat) : Nat :=
  let whole := num / den
  let rest := 2 * (num % den)
  if den < rest ∨ (den = rest ∧ whole % 2 = 1) then whole + 1 else whole

example : nearest 5 2 = 2 ∧ nearest 7 2 = 4 ∧ nearest 8 3 = 3 := by
  decide

/-- The greatest exponent of two that does not exceed a positive fraction. -/
def exponent (magnitude : Rat) : Int :=
  let estimate : Int := magnitude.num.natAbs.log2 - magnitude.den.log2
  if power estimate ≤ magnitude then estimate else estimate - 1

/-- The place of the last digit that the format keeps of a positive fraction. -/
def place (format : BinaryFormat) (magnitude : Rat) : Int :=
  max format.leastPlace (exponent magnitude - format.precision + 1)

/-- Rounds a fraction that is not negative. -/
def roundMagnitude? (format : BinaryFormat) (magnitude : Rat) : Option Rat :=
  if magnitude = 0 then some 0
  else
    let unit := power (format.place magnitude)
    let scaled := magnitude / unit
    let rounded := (nearest scaled.num.natAbs scaled.den : Rat) * unit
    if rounded < power format.greatestExponent then some rounded else none

def round? (format : BinaryFormat) (value : Rat) : Option Rat :=
  if value < 0 then (format.roundMagnitude? (-value)).map (-·) else format.roundMagnitude? value

end BinaryFormat

end OpGraph
