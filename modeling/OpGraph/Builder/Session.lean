import OpGraph.Builder.Workspace
import OpGraph.Description.Loading
import OpGraph.Graph.Evaluation
import OpGraph.Graph.Translation

/-!
# Sessions

What can be done to a workspace, one action after the other. An action that fails keeps what was
done before its failure, and the session goes on from there. An action that names a node, a graph
or a builder that was never made is passed over.
-/
namespace OpGraph

inductive Action where
  -- nodes
  | create (inScope : Bool) (operator : Operator) (producers : List Nat) (name : Option String)
  | inferNode (id : Nat)
  | translateNode (id : Nat) (dialect : Dialect)
  | evaluateNode (id : Nat) (operands : List Tensor)
  -- scopes
  | enter (name : Option String) (infers : Bool)
  | exit (builder : Nat) (failed : Bool)
  | addInputs (ids : List Nat)
  | addOutputs (ids : List Nat)
  -- graphs
  | newGraph (name : Option String)
  | load (text : String)
  | addNodes (graph : Nat) (ids : List Nat)
  | setInputs (graph : Nat) (ids : List Nat)
  | setOutputs (graph : Nat) (ids : List Nat)
  | inferGraph (graph : Nat)
  | translateGraph (graph : Nat) (dialect : Dialect)
  | evaluateGraph (graph : Nat) (arrays : List Tensor)
  -- the registry
  | register (definition : OperatorDefinition)
  | loadLibrary
  | clearRegistry

namespace Workspace

def hasNode (ws : Workspace) (id : Nat) : Bool :=
  (ws.store.find? id).isSome

/-- Whether all that an action names was made before. -/
def allows (ws : Workspace) : Action → Bool
  | .create _ _ ids _ | .addInputs ids | .addOutputs ids => ids.all ws.hasNode
  | .inferNode id | .translateNode id _ | .evaluateNode id _ => ws.hasNode id
  | .exit builder _ => builder < ws.builders.size
  | .addNodes graph ids | .setInputs graph ids | .setOutputs graph ids =>
    graph < ws.graphs.size && ids.all ws.hasNode
  | .inferGraph graph | .translateGraph graph _ | .evaluateGraph graph _ =>
    graph < ws.graphs.size
  | .enter .. | .newGraph _ | .load _ | .register _ | .loadLibrary | .clearRegistry => true

variable [DescriptionReader]

/-- Adds the graph that a text describes. -/
def load (ws : Workspace) (text : String) : Workspace × Except Failure Nat :=
  match Description.load ws.registry ws.store text with
  | (store, .ok graph) =>
    let (ws, id) := { ws with store := store }.addGraph graph
    (ws, .ok id)
  | (store, .error failure) => ({ ws with store := store }, .error failure)

def setRegistry (ws : Workspace) (registry : Registry) : Workspace :=
  { ws with registry := registry }

variable [Host]

/-- What an action leaves, and whether it succeeded. -/
def perform (ws : Workspace) : Action → Workspace × Except Failure Unit
  | .create inScope operator producers name =>
    let (ws, created) :=
      if inScope then ws.create operator producers name
      else ws.createUnscoped operator producers name
    (ws, created.map fun _ => ())
  | .inferNode id =>
    let (ws, types) := ws.inferNode id
    (ws, types.map fun _ => ())
  | .translateNode id dialect =>
    (ws, (ws.registry.translate (ws.store.view id) dialect).map fun _ => ())
  | .evaluateNode id operands => (ws, (ws.store.evaluate id operands).map fun _ => ())
  | .enter name infers => ((ws.enter name infers).1, .ok ())
  | .exit builder failed => ws.exit builder failed
  | .addInputs ids => (ws.addInputs ids, .ok ())
  | .addOutputs ids => (ws.addOutputs ids, .ok ())
  | .newGraph name => ((ws.addGraph (.empty name)).1, .ok ())
  | .load text =>
    let (ws, loaded) := ws.load text
    (ws, loaded.map fun _ => ())
  | .addNodes graph ids => ws.changeGraph graph fun store graph => graph.addNodes store ids
  | .setInputs graph ids => ws.changeGraph graph fun store graph => graph.setInputs store ids
  | .setOutputs graph ids => ws.changeGraph graph fun _ graph => .ok (graph.setOutputs ids)
  | .inferGraph graph =>
    let (ws, types) := ws.inferGraph graph
    (ws, types.map fun _ => ())
  | .translateGraph graph dialect =>
    (ws, ((ws.graph graph).translate ws.registry ws.store dialect).map fun _ => ())
  | .evaluateGraph graph arrays =>
    (ws, ((ws.graph graph).evaluate ws.store arrays).map fun _ => ())
  | .register definition =>
    match ws.registry.register definition with
    | .ok registry => (ws.setRegistry registry, .ok ())
    | .error failure => (ws, .error failure)
  | .loadLibrary =>
    let (registry, loaded) := ws.registry.loadLibrary
    (ws.setRegistry registry, loaded)
  | .clearRegistry => (ws.setRegistry .empty, .ok ())

/-- The workspace after a row of actions. -/
def run (ws : Workspace) : List Action → Workspace
  | [] => ws
  | action :: actions =>
    if ws.allows action then (ws.perform action).1.run actions else ws.run actions

end Workspace

end OpGraph
