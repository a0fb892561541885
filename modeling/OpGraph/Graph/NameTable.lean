import OpGraph.Graph.Translation

/-!
# Name tables

The nodes and the kernels of a graph are handed out in tables by name, which are filled one entry
after the other. An entry under a name that has one already replaces it, so that of two nodes with
one name the first would be lost.
-/
namespace OpGraph

abbrev NameTable (α : Type) := List (String × α)

namespace NameTable

/-- A name that has an entry already keeps its place. -/
def put {α : Type} (entry : String × α) : NameTable α → NameTable α
  | [] => [entry]
  | first :: rest => if first.1 = entry.1 then entry :: rest else first :: put entry rest

def putAll {α : Type} (table : NameTable α) (entries : List (String × α)) : NameTable α :=
  entries.foldl (fun table entry => table.put entry) table

end NameTable

namespace Graph

def nodeTable (store : Store) (graph : Graph) : NameTable Nat :=
  NameTable.putAll [] (graph.nodes.map fun id => (store.name id, id))

/-- Writes the kernels of nodes into a table, up to the first that fails. -/
def writeKernels (write : Nat → Except Failure Fragment) (store : Store)
    (table : NameTable Fragment) : List Nat → Except Failure (NameTable Fragment)
  | [] => .ok table
  | id :: ids => do
    let fragment ← write id
    writeKernels write store (table.put (store.name id, fragment)) ids

/-- The kernels of the operations of a graph, however the kernel of a node is written. -/
def kernelTable (write : Nat → Except Failure Fragment) (store : Store) (graph : Graph) :
    Except Failure (NameTable Fragment) := do
  let order ← graph.topological store
  writeKernels write store [] (order.filter fun id => !store.isParameter id)

end Graph

end OpGraph
