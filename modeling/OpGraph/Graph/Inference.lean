import OpGraph.Graph.Basic

/-!
# Inference on graphs

Resolves the nodes of a graph, producers first. A failure leaves the nodes resolved before it
resolved. The types of the outputs are reported in the end.
-/
namespace OpGraph.Graph

/-- Resolves those of the nodes that are not resolved yet, in order. -/
def resolveAll (store : Store) : List Nat → Store × Except Failure Unit
  | [] => (store, .ok ())
  | id :: ids =>
    if store.isResolved id then resolveAll store ids
    else match store.infer id with
      | (resolved, .ok _) => resolveAll resolved ids
      | (resolved, .error failure) => (resolved, .error failure)

def outputTypes (store : Store) (graph : Graph) : Except Failure (List TensorType) :=
  graph.outputs.mapM store.outputType

/-- Resolves the whole graph and gives the types of its outputs. -/
def infer (store : Store) (graph : Graph) : Store × Except Failure (List TensorType) :=
  match graph.topological store with
  | .error failure => (store, .error failure)
  | .ok order =>
    match resolveAll store order with
    | (resolved, .ok ()) => (resolved, graph.outputTypes resolved >>= Store.report)
    | (resolved, .error failure) => (resolved, .error failure)

end OpGraph.Graph
