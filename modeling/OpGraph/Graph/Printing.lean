import OpGraph.Graph.Basic

/-!
# Graphs as text

A graph is written as an indented listing of its inputs, its outputs and the nodes that its
outputs need, producers first.
-/
namespace OpGraph.Graph

/-- A named section with one line per item, or with the mark of an empty one. -/
def sectionText (name emptyMark : String) (items : List String) : String :=
  if items.isEmpty then "  " ++ name ++ ": " ++ emptyMark ++ "\n"
  else "  " ++ name ++ ":\n" ++ String.join items

def itemLine (name : String) : String :=
  "  - " ++ name ++ "\n"

def nodeLine (store : Store) (id : Nat) : Except Failure String := do
  return "    " ++ store.name id ++ ": " ++ (← store.text id) ++ "\n"

def nodesText (store : Store) (graph : Graph) (needed : List Nat) : Except Failure String := do
  if graph.nodes.isEmpty then return "  nodes: \x7b\x7d\n"
  else return "  nodes:\n" ++ String.join (← needed.mapM (nodeLine store))

def text (store : Store) (graph : Graph) : Except Failure String := do
  let needed ← Traversal.fromSeed store.producers graph.nodes graph.outputs
  let name := if graph.label = "" then "" else "  name: " ++ graph.label ++ "\n"
  return "graph:\n" ++ name ++
    sectionText "inputs" "[]" (graph.inputs.map fun id => itemLine (store.name id)) ++
    sectionText "outputs" "[]" (graph.outputs.map fun id => itemLine (store.name id)) ++
    (← nodesText store graph needed)

end OpGraph.Graph
