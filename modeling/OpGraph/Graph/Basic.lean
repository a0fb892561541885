import OpGraph.Graph.Store
import OpGraph.Graph.Traversal

/-!
# Graphs

A graph is a list of nodes of a store, among them its inputs, and the nodes that it outputs.
The names of its nodes are distinct.
-/
namespace OpGraph

structure Graph where
  name : Option String
  inputs : List Nat
  outputs : List Nat
  nodes : List Nat
  deriving DecidableEq, Inhabited

namespace Graph

def empty (name : Option String) : Graph :=
  ⟨name, [], [], []⟩

def label (graph : Graph) : String :=
  graph.name.getD ""

/-- The first name that repeats one of those before it. -/
def firstRepeated? (seen : List String) : List String → Option String
  | [] => none
  | name :: names =>
    if seen.contains name then some name else firstRepeated? (name :: seen) names

/-- Adds all of the nodes, or none of them when a name would repeat. -/
def addNodes (store : Store) (graph : Graph) (nodes : List Nat) : Except Failure Graph :=
  match firstRepeated? (graph.nodes.map store.name) (nodes.map store.name) with
  | some name => .error (.duplicateNodeName name)
  | none => .ok { graph with nodes := graph.nodes ++ nodes }

def setInputs (store : Store) (graph : Graph) (inputs : List Nat) : Except Failure Graph :=
  if inputs.all store.isParameter then .ok { graph with inputs := inputs }
  else .error .inputsNotParameters

def setOutputs (graph : Graph) (outputs : List Nat) : Graph :=
  { graph with outputs := outputs }

def topological (store : Store) (graph : Graph) : Except Failure (List Nat) :=
  Traversal.topological store.producers graph.nodes

/-- The nodes of a graph by name, in their order. -/
def find? (store : Store) (graph : Graph) (name : String) : Option Nat :=
  graph.nodes.find? fun id => store.name id == name

end Graph

end OpGraph
