import OpGraph.Text.Blank
import OpGraph.Text.Integer
import OpGraph.Types.Reading

/-!
# Shapes from text

A shape is written as its dimensions between commas, with a question mark for one that is
unknown. A single question mark stands for unknown rank and the empty text for rank zero.
-/
namespace OpGraph

def parseInteger (text : String) : Except Failure Int :=
  match Text.readInteger? text with
  | some n => .ok n
  | none => .error (.description (.notInteger text))

namespace Shape

/-- The integer that a dimension is written as, if it is known. -/
def parseItem (item : String) : Except Failure (Option Int) := do
  if item = "?" then return none else return some (← parseInteger item)

def dimOfItem : Option Int → Except Failure Dimension
  | none => .ok .dynamic
  | some length => Dimension.ofInt length

/-- Reads all dimensions before it looks at their signs. -/
def parse (text : String) : Except Failure Shape := do
  let text := Text.strip text
  if text = "?" then return .dynamicRank
  else if text = "" then return .ranked []
  else
    let items ← ((Text.commaPieces text).map Text.strip).mapM parseItem
    return .ranked (← items.mapM dimOfItem)

end Shape

end OpGraph
