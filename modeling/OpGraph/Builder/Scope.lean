import OpGraph.Graph.Basic

/-!
# Builder scopes

A scope collects nodes and the inputs and outputs that its graph was told to have. Scopes
nest: a node belongs to every open scope, explicit inputs and outputs to the innermost one.
Below the open scopes lies the root scope, which is never closed and collects no nodes.
-/
namespace OpGraph

structure Scope where
  name : Option String
  nodes : List Nat
  inputs : List Nat
  outputs : List Nat
  deriving DecidableEq, Inhabited

namespace Scope

def empty (name : Option String) : Scope :=
  ⟨name, [], [], []⟩

def addNode (id : Nat) (scope : Scope) : Scope :=
  { scope with nodes := scope.nodes ++ [id] }

def addInputs (ids : List Nat) (scope : Scope) : Scope :=
  { scope with inputs := scope.inputs ++ ids }

def addOutputs (ids : List Nat) (scope : Scope) : Scope :=
  { scope with outputs := scope.outputs ++ ids }

/-- The inputs of the graph of a scope: those it was told, the parameters created in it, and
then what its nodes read from outside. -/
def graphInputs (store : Store) (scope : Scope) : List Nat :=
  Traversal.unique (scope.inputs ++ scope.nodes.filter store.isParameter ++
    Traversal.external store.producers scope.nodes)

/-- The outputs of the graph of a scope: those it was told, and then the operations that no
node of the scope reads. -/
def graphOutputs (store : Store) (scope : Scope) : List Nat :=
  Traversal.unique (scope.outputs ++
    (Traversal.sinks store.producers scope.nodes).filter fun id => !store.isParameter id)

def requireParameters (store : Store) (ids : List Nat) : Except Failure Unit :=
  match ids.find? fun id => !store.isParameter id with
  | some id => .error (.graphInputNotParameter (store.name id) (store.operator id).kind)
  | none => .ok ()

/-- Builds the graph of a scope: the inputs that come from outside are added before the nodes
of the scope. -/
def build (store : Store) (scope : Scope) : Except Failure Graph := do
  let inputs := scope.graphInputs store
  requireParameters store inputs
  let captured := inputs.filter fun id => !scope.nodes.contains id
  let graph ← (Graph.empty scope.name).addNodes store (captured ++ scope.nodes)
  let graph ← graph.setInputs store inputs
  return graph.setOutputs (scope.graphOutputs store)

end Scope

/-- The open scopes, the innermost first, over the root scope. -/
structure ScopeStack where
  opened : List Scope
  root : Scope
  deriving DecidableEq, Inhabited

namespace ScopeStack

def initial : ScopeStack :=
  ⟨[], .empty none⟩

def push (scopes : ScopeStack) (name : Option String) : ScopeStack :=
  { scopes with opened := .empty name :: scopes.opened }

/-- Closes the innermost scope, whichever it is. -/
def pop? (scopes : ScopeStack) : Option (Scope × ScopeStack) :=
  match scopes.opened with
  | scope :: outer => some (scope, { scopes with opened := outer })
  | [] => none

/-- A node is created in all open scopes. -/
def addNode (scopes : ScopeStack) (id : Nat) : ScopeStack :=
  { scopes with opened := scopes.opened.map (Scope.addNode id) }

/-- Changes the innermost scope. -/
def modifyInnermost (scopes : ScopeStack) (change : Scope → Scope) : ScopeStack :=
  match scopes.opened with
  | scope :: outer => { scopes with opened := change scope :: outer }
  | [] => { scopes with root := change scopes.root }

end ScopeStack

end OpGraph
