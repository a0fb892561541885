import OpGraph.Failure

/-!
# Traversal

Nodes are named by numbers and `producers` lists what a node reads, in order. The walk goes
backward from its seed, stays inside the member list and puts every node after the producers
it reaches. It works off a stack of nodes to enter and nodes to leave; each step either
enters a member for the first time or shortens the stack.
-/
namespace OpGraph.Traversal

/-- The nodes without repetitions, in the order of their first occurrences. -/
def unique (nodes : List Nat) : List Nat :=
  nodes.eraseDups

/-- The nodes that no node of the list reads. -/
def sinks (producers : Nat → List Nat) (nodes : List Nat) : List Nat :=
  nodes.filter fun node => !(nodes.flatMap producers).contains node

/-- What nodes of the list read outside of it. -/
def external (producers : Nat → List Nat) (nodes : List Nat) : List Nat :=
  unique ((nodes.flatMap producers).filter fun node => !nodes.contains node)

inductive Task where
  | enter (node : Nat)
  | leave (node : Nat)
  deriving DecidableEq

def unvisited (members visited : List Nat) : List Nat :=
  members.filter fun node => !visited.contains node

theorem length_unvisited_cons (members visited : List Nat) (node : Nat)
    (fresh : ¬(visited.contains node || !members.contains node) = true) :
    (unvisited members (node :: visited)).length < (unvisited members visited).length := by
  simp only [Bool.or_eq_true, Bool.not_eq_true', not_or, Bool.not_eq_true,
    Bool.not_eq_false] at fresh
  obtain ⟨unseen, member⟩ := fresh
  -- Visiting a node filters it out of the unvisited ones, where it was.
  have sub : unvisited members (node :: visited) =
      (unvisited members visited).filter (fun n => n != node) := by
    simp only [unvisited, List.filter_filter]
    refine List.filter_congr fun n _ => ?_
    by_cases same : n = node <;> simp [same]
  have held : node ∈ unvisited members visited := by
    simp only [unvisited, List.mem_filter]
    exact ⟨List.contains_iff_mem.mp member, by simpa using unseen⟩
  rw [sub]
  refine Nat.lt_of_le_of_ne (List.length_filter_le _ _) fun same => ?_
  have all := List.length_filter_eq_length_iff.mp same node held
  simp at all

/-- Works off the stack. `visited` holds the nodes entered so far, `ordered` the nodes left,
the last of them first. -/
def walk (producers : Nat → List Nat) (members visited ordered : List Nat) :
    List Task → List Nat
  | [] => ordered.reverse
  | .leave node :: stack => walk producers members visited (node :: ordered) stack
  | .enter node :: stack =>
    -- A node outside of the graph is passed like one that was visited.
    if visited.contains node || !members.contains node then
      walk producers members visited ordered stack
    else
      walk producers members (node :: visited) ordered
        ((producers node).map .enter ++ .leave node :: stack)
termination_by stack => ((unvisited members visited).length, stack.length)
decreasing_by
  · exact Prod.Lex.right _ (by simp)
  · exact Prod.Lex.right _ (by simp)
  · rename_i fresh
    exact Prod.Lex.left _ _ (length_unvisited_cons members visited node fresh)

/-- The members that the seed reaches through members, producers first. -/
def fromSeed (producers : Nat → List Nat) (nodes seed : List Nat) :
    Except Failure (List Nat) :=
  if (unique nodes).length != nodes.length then .error .duplicateNodes
  else if !seed.all nodes.contains then .error .seedOutside
  else .ok (walk producers nodes [] [] (seed.map .enter))

/-- All nodes of the list, producers first. -/
def topological (producers : Nat → List Nat) (nodes : List Nat) : Except Failure (List Nat) :=
  fromSeed producers nodes (sinks producers nodes)

end OpGraph.Traversal
