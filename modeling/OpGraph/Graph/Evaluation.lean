import OpGraph.Graph.Basic

/-!
# Evaluation of graphs

Computes the nodes of a graph, producers first, into a table of values by node name. Inputs
are bound in the table from the start.
-/
namespace OpGraph.Graph

variable [Host]

abbrev ValueTable := List (String × Tensor)

def lookUp (table : ValueTable) (name : String) : Except Failure Tensor :=
  match table.lookup name with
  | some value => .ok value
  | none => .error .unknownKey

/-- The value of an operation node: its first output. -/
def nodeValue (store : Store) (table : ValueTable) (id : Nat) : Except Failure Tensor := do
  let operands ← (store.producers id).mapM fun producer => lookUp table (store.name producer)
  match ← store.evaluate id operands with
  | value :: _ => return value
  | [] => throw .positionOutOfRange

def computeAll (store : Store) (table : ValueTable) : List Nat → Except Failure ValueTable
  | [] => .ok table
  | id :: ids => do
    if store.isParameter id then
      if (table.lookup (store.name id)).isSome then computeAll store table ids
      else throw (.unboundInput (store.name id))
    else
      let value ← nodeValue store table id
      computeAll store ((store.name id, value) :: table) ids

/-- Of two inputs under one name the later one counts. -/
def bindInputs (store : Store) (graph : Graph) (arrays : List Tensor) : ValueTable :=
  ((graph.inputs.map store.name).zip arrays).reverse

def evaluate (store : Store) (graph : Graph) (arrays : List Tensor) :
    Except Failure (List Tensor) := do
  if arrays.length != graph.inputs.length then
    throw (.graphInputCount arrays.length graph.inputs.length)
  let order ← graph.topological store
  let table ← computeAll store (graph.bindInputs store arrays) order
  graph.outputs.mapM fun id => lookUp table (store.name id)

end OpGraph.Graph
