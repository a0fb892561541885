import OpGraph.Builder.Scope
import OpGraph.Graph.Inference
import OpGraph.Registry

/-!
# Workspaces

All that a session of building graphs holds: the registry, the nodes, the open scopes, and
the graphs and builders made so far, which are referred to by number. Operations that can
fail give the workspace they leave behind together with their result, since a failure keeps
what was done before it.
-/
namespace OpGraph

/-- A builder opens a scope and holds the graph of that scope once it was built. -/
structure Builder where
  infers : Bool
  graph : Option Nat
  deriving DecidableEq, Inhabited

structure Workspace where
  registry : Registry
  store : Store
  scopes : ScopeStack
  graphs : Array Graph
  builders : Array Builder

namespace Workspace

def initial : Workspace :=
  ⟨.library, .empty, .initial, #[], #[]⟩

def graph (ws : Workspace) (id : Nat) : Graph :=
  ws.graphs.getD id default

def builder (ws : Workspace) (id : Nat) : Builder :=
  ws.builders.getD id default

def setGraph (ws : Workspace) (id : Nat) (graph : Graph) : Workspace :=
  { ws with graphs := ws.graphs.set! id graph }

def addGraph (ws : Workspace) (graph : Graph) : Workspace × Nat :=
  ({ ws with graphs := ws.graphs.push graph }, ws.graphs.size)

/-- Creates a node in no scope. -/
def createUnscoped (ws : Workspace) (operator : Operator) (producers : List Nat)
    (name : Option String) : Workspace × Except Failure Nat :=
  let (store, created) := ws.store.create operator producers name
  ({ ws with store := store }, created)

/-- Creates a node in the open scopes. -/
def create (ws : Workspace) (operator : Operator) (producers : List Nat)
    (name : Option String) : Workspace × Except Failure Nat :=
  match ws.createUnscoped operator producers name with
  | (ws, .ok id) => ({ ws with scopes := ws.scopes.addNode id }, .ok id)
  | (ws, .error failure) => (ws, .error failure)

/-- Opens a scope for a new builder. -/
def enter (ws : Workspace) (name : Option String) (infers : Bool) : Workspace × Nat :=
  ({ ws with scopes := ws.scopes.push name, builders := ws.builders.push ⟨infers, none⟩ },
    ws.builders.size)

def inferGraph (ws : Workspace) (id : Nat) : Workspace × Except Failure (List TensorType) :=
  let (store, types) := (ws.graph id).infer ws.store
  ({ ws with store := store }, types)

def inferNode (ws : Workspace) (id : Nat) : Workspace × Except Failure (List TensorType) :=
  let (store, types) := ws.store.infer id
  ({ ws with store := store }, types)

/-- Gives a builder the graph of a scope, and infers its types if the builder does so. -/
def finish (ws : Workspace) (builder : Nat) (scope : Scope) : Workspace × Except Failure Unit :=
  match scope.build ws.store with
  | .error failure => (ws, .error failure)
  | .ok graph =>
    let (ws, id) := ws.addGraph graph
    let ws := { ws with
      builders := ws.builders.modify builder fun entry => { entry with graph := some id } }
    if (ws.builder builder).infers then
      let (ws, types) := ws.inferGraph id
      (ws, types.map fun _ => ())
    else (ws, .ok ())

/-- Leaves the scope of a builder, which closes the innermost open scope. After a failure
inside the scope its graph is not built. -/
def exit (ws : Workspace) (builder : Nat) (failed : Bool) : Workspace × Except Failure Unit :=
  match ws.scopes.pop? with
  | none => (ws, .error .noOpenScope)
  | some (scope, scopes) =>
    let ws := { ws with scopes := scopes }
    if failed then (ws, .ok ()) else ws.finish builder scope

/-- The graph of a builder whose scope was left. -/
def graphOf (ws : Workspace) (builder : Nat) : Except Failure Nat :=
  match (ws.builder builder).graph with
  | some id => .ok id
  | none => .error .graphUnavailable

def addOutputs (ws : Workspace) (ids : List Nat) : Workspace :=
  { ws with scopes := ws.scopes.modifyInnermost (Scope.addOutputs ids) }

def addInputs (ws : Workspace) (ids : List Nat) : Workspace :=
  { ws with scopes := ws.scopes.modifyInnermost (Scope.addInputs ids) }

/-- Replaces a graph by a changed one, unless the change fails. -/
def changeGraph (ws : Workspace) (id : Nat) (change : Store → Graph → Except Failure Graph) :
    Workspace × Except Failure Unit :=
  match change ws.store (ws.graph id) with
  | .ok graph => (ws.setGraph id graph, .ok ())
  | .error failure => (ws, .error failure)

end Workspace

end OpGraph
