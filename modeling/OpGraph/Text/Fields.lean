/-!
# Texts of several fields

Joining printed items, splitting at commas, and the list notations shared by messages and
kernels.
-/
namespace OpGraph.Text

/-- The pieces of a text between its separators; there is always at least one. -/
def splitAtChar (separator : Char) : List Char → List (List Char)
  | [] => [[]]
  | c :: rest =>
    let pieces := splitAtChar separator rest
    if c = separator then [] :: pieces
    else match pieces with
      | [] => [[c]]
      | piece :: others => (c :: piece) :: others

def commaPieces (text : String) : List String :=
  (splitAtChar ',' text.toList).map String.ofList

def commaList (items : List String) : String :=
  ", ".intercalate items

/-- Items between square brackets. -/
def bracketed (items : List String) : String :=
  "[" ++ commaList items ++ "]"

/-- Items between parentheses; a single item keeps its comma. -/
def parenthesized : List String → String
  | [item] => "(" ++ item ++ ",)"
  | items => "(" ++ commaList items ++ ")"

end OpGraph.Text
