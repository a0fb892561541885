import OpGraph.Text.Blank
import OpGraph.Text.Fields

/-!
# Comma-separated fields

The fields of a text between its commas, each with at most one space before it. The place of
a field in the text is counted from the fields before it without their leading blanks, so
after further blanks what is taken lies too far left. An empty field is not allowed.
-/
namespace OpGraph.Text

/-- The fields of the pieces; `start` is where the next one is looked for in the text. -/
def fieldsFrom (text : List Char) (start : Nat) : List (List Char) → Option (List (List Char))
  | [] => some []
  | [] :: _ => none
  | (c :: piece) :: pieces =>
    let first := if c = ' ' then start + 1 else start
    let length := (trimStart (c :: piece)).length
    (fieldsFrom text (first + length + 1) pieces).map ((text.drop first).take length :: ·)

/-- The fields of a text; the empty text has none. -/
def commaFields? (text : String) : Option (List String) :=
  if text.isEmpty then some []
  else (fieldsFrom text.toList 0 (splitAtChar ',' text.toList)).map (·.map String.ofList)

end OpGraph.Text
