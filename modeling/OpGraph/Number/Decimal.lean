/-!
# Decimal numbers

A real number as written: a sign, an integer and a power of ten. `text` writes it with the
digits it has, positionally from 10⁻⁴ up to 10¹⁶ and in scientific notation elsewhere.
-/
namespace OpGraph

structure Decimal where
  negative : Bool
  digits : Nat
  exponent : Int
  deriving DecidableEq, Inhabited

namespace Decimal

/-- Moves factors of ten from the digits to the exponent; `width` bounds their number. -/
def shed : Nat → Nat → Int → Nat × Int
  | 0, digits, exponent => (digits, exponent)
  | width + 1, digits, exponent =>
    if digits % 10 = 0 then shed width (digits / 10) (exponent + 1) else (digits, exponent)

/-- The same number with as few digits as possible. -/
def normalize (d : Decimal) : Decimal :=
  if d.digits = 0 then ⟨d.negative, 0, 0⟩
  else
    let (digits, exponent) := shed (Nat.repr d.digits).length d.digits d.exponent
    ⟨d.negative, digits, exponent⟩

def zeros (count : Nat) : List Char :=
  List.replicate count '0'

/-- Positional notation; `point` is the number of digits before the point. -/
def positional (digits : List Char) (point : Int) : List Char :=
  if (digits.length : Int) ≤ point then
    digits ++ zeros (point - digits.length).toNat ++ ['.', '0']
  else if 0 < point then
    digits.take point.toNat ++ '.' :: digits.drop point.toNat
  else '0' :: '.' :: zeros (-point).toNat ++ digits

/-- An exponent has a sign and at least two digits. -/
def exponentText (exponent : Int) : List Char :=
  let digits := (Nat.repr exponent.natAbs).toList
  (if exponent < 0 then '-' else '+') :: (if digits.length < 2 then '0' :: digits else digits)

def scientific (digits : List Char) (exponent : Int) : List Char :=
  let fraction := match digits.drop 1 with
    | [] => []
    | rest => '.' :: rest
  digits.take 1 ++ fraction ++ 'e' :: exponentText exponent

def text (d : Decimal) : String :=
  let n := d.normalize
  let digits := (Nat.repr n.digits).toList
  let point := n.exponent + digits.length
  let body :=
    if -4 < point ∧ point ≤ 16 then positional digits point else scientific digits (point - 1)
  String.ofList (if n.negative then '-' :: body else body)

/-- The number without its sign. -/
def magnitude (d : Decimal) : Rat :=
  match d.exponent with
  | .ofNat e => ((d.digits * Nat.pow 10 e : Nat) : Rat)
  | .negSucc e => mkRat d.digits (Nat.pow 10 (e + 1))

end Decimal

end OpGraph
