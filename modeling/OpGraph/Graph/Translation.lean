import OpGraph.Graph.Basic
import OpGraph.Registry

/-!
# Translation of graphs

The kernels of the operation nodes of a graph, producers first.
-/
namespace OpGraph.Graph

def translateNode (registry : Registry) (store : Store) (dialect : Dialect) (id : Nat) :
    Except Failure (String × Fragment) := do
  return (store.name id, ← registry.translate (store.view id) dialect)

def translate (registry : Registry) (store : Store) (graph : Graph) (dialect : Dialect) :
    Except Failure (List (String × Fragment)) := do
  let order ← graph.topological store
  (order.filter fun id => !store.isParameter id).mapM (translateNode registry store dialect)

end OpGraph.Graph
