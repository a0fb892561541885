import OpGraph.Text.Blank
import OpGraph.Text.Digit

/-!
# Integer literals

An integer literal is an optional sign and decimal digits of any script, in which a single
underscore may stand between two digits. Blank characters around it are ignored, the ASCII
separators U+001C to U+001F apart. A literal has at most `literalDigitLimit` digits, and an
integer with more of them cannot be written either.
-/
namespace OpGraph.Text

def literalDigitLimit : Nat := 4300

/-- The least number with too many digits. The power is taken in two steps, so that it can be
evaluated. -/
def shortBound : Nat :=
  Nat.pow (Nat.pow 10 43) 100

/-- Whether an integer has few enough digits to be written. -/
def isShort (n : Int) : Bool :=
  n.natAbs < shortBound

/-- Blank characters that may surround a literal. -/
def isLiteralBlank (c : Char) : Bool :=
  (9 ≤ c.toNat && c.toNat ≤ 13) || c == ' ' || isWideBlank c

/-- Reads the digits after the first, given the value of those already read. -/
def readDigits (value : Nat) : List Char → Option Nat
  | [] => some value
  | '_' :: c :: rest => (digitValue? c).bind fun d => readDigits (value * 10 + d) rest
  | c :: rest => (digitValue? c).bind fun d => readDigits (value * 10 + d) rest

def readNatural : List Char → Option Nat
  | [] => none
  | c :: rest =>
    if literalDigitLimit < ((c :: rest).filter (· != '_')).length then none
    else (digitValue? c).bind fun d => readDigits d rest

def readSigned : List Char → Option Int
  | '-' :: rest => (readNatural rest).map fun n => -(n : Int)
  | '+' :: rest => (readNatural rest).map fun n => (n : Int)
  | cs => (readNatural cs).map fun n => (n : Int)

def readInteger? (text : String) : Option Int :=
  readSigned (((text.toList.dropWhile isLiteralBlank).reverse.dropWhile isLiteralBlank).reverse)

end OpGraph.Text
