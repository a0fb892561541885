import OpGraph.Builder.Scope
import OpGraph.Proofs.Description.Loading
import OpGraph.Proofs.Repetition

/-!
# Graphs of scopes

The graph that a scope builds takes in, before the nodes of the scope, the parameters that these
nodes read from outside. So it is closed under reading (`closed_of_build`), and self-contained as
soon as its outputs are among its nodes (`selfContained_of_build`).
-/
namespace OpGraph

theorem Traversal.mem_unique {id : Nat} {nodes : List Nat} : id ∈ unique nodes ↔ id ∈ nodes :=
  List.mem_eraseDups

theorem Traversal.mem_external {producers : Nat → List Nat} {nodes : List Nat} {p : Nat} :
    p ∈ external producers nodes ↔ (∃ id ∈ nodes, p ∈ producers id) ∧ p ∉ nodes := by
  rw [external, mem_unique, List.mem_filter, List.mem_flatMap]
  simp

theorem Traversal.nodup_unique (nodes : List Nat) : (unique nodes).Nodup :=
  Repetition.nodup_eraseDups nodes

namespace Scope

variable {store : Store} {scope : Scope} {graph : Graph}

theorem mem_graphInputs {id : Nat} :
    id ∈ scope.graphInputs store ↔
      id ∈ scope.inputs ∨ (id ∈ scope.nodes ∧ store.isParameter id = true) ∨
        (∃ reader ∈ scope.nodes, id ∈ store.producers reader) ∧ id ∉ scope.nodes := by
  rw [graphInputs, Traversal.mem_unique, List.mem_append, List.mem_append, List.mem_filter,
    Traversal.mem_external, or_assoc]

theorem requireParameters_eq_ok {ids : List Nat} :
    requireParameters store ids = .ok () ↔ ∀ id ∈ ids, store.isParameter id = true := by
  unfold requireParameters
  split
  next id found =>
    have refused := List.find?_some found
    have member := List.mem_of_find?_eq_some found
    constructor
    · intro accepted
      cases accepted
    · intro parameters
      rw [parameters id member] at refused
      cases refused
  next none =>
    simpa using none

theorem build_eq_ok (built : scope.build store = .ok graph) :
    (∀ id ∈ scope.graphInputs store, store.isParameter id = true) ∧
      (graph.nodes.map store.name).Nodup ∧ graph.inputs = scope.graphInputs store ∧
      graph.nodes = ((scope.graphInputs store).filter fun id => !scope.nodes.contains id) ++
        scope.nodes ∧
      graph.outputs = scope.graphOutputs store := by
  simp only [build, Outcome.bind_eq_ok, Outcome.exists_unit, Outcome.pure_eq_ok,
    requireParameters_eq_ok] at built
  obtain ⟨parameters, named, added, bound, set, rfl⟩ := built
  obtain ⟨distinct, rfl⟩ := Graph.addNodes_empty added
  rw [Graph.setInputs] at set
  split at set
  · cases set
    exact ⟨parameters, distinct, rfl, rfl, rfl⟩
  · cases set

section Built

variable (grounded : store.IsGrounded) (known : ∀ id ∈ scope.nodes, (store.find? id).isSome = true)
  (built : scope.build store = .ok graph)

include built

theorem mem_nodes_of_build {id : Nat} :
    id ∈ graph.nodes ↔ id ∈ scope.graphInputs store ∨ id ∈ scope.nodes := by
  obtain ⟨-, -, -, nodes, -⟩ := build_eq_ok built
  rw [nodes, List.mem_append, List.mem_filter]
  by_cases own : id ∈ scope.nodes <;> simp [own]

include known

theorem found_of_build : ∀ id ∈ graph.nodes, (store.find? id).isSome = true := by
  intro id member
  rcases (mem_nodes_of_build built).mp member with input | own
  · -- Only nodes are parameters.
    have parameter := (build_eq_ok built).1 id input
    cases held : store.find? id with
    | some node => rfl
    | none =>
      rw [Store.isParameter, Store.operator, Store.node, held] at parameter
      cases parameter
  · exact known id own

include grounded

theorem closed_of_build : ∀ id ∈ graph.nodes, ∀ p ∈ store.producers id, p ∈ graph.nodes := by
  intro id member p read
  rw [mem_nodes_of_build built]
  rcases (mem_nodes_of_build built).mp member with input | own
  · -- Parameters read nothing.
    obtain ⟨node, held⟩ := Option.isSome_iff_exists.mp (found_of_build known built id member)
    have parameter := (build_eq_ok built).1 id input
    rw [Store.isParameter, Store.operator, Store.node_of_find? _ _ _ held] at parameter
    rw [Store.producers, Store.node_of_find? _ _ _ held,
      grounded.parameter id node held parameter] at read
    cases read
  · by_cases inner : p ∈ scope.nodes
    · exact .inr inner
    · exact .inl (mem_graphInputs.mpr (.inr (.inr ⟨⟨id, own, read⟩, inner⟩)))

/-- The graph is self-contained but for its outputs. -/
theorem inner_of_build : (graph.setOutputs []).IsSelfContained store := by
  obtain ⟨parameters, distinct, inputs, -, -⟩ := build_eq_ok built
  have found := found_of_build known built
  have closed := closed_of_build grounded known built
  refine ⟨found, distinct, closed, fun id _ => grounded.descending id, ?_, ?_,
    by simp [Graph.setOutputs]⟩
  · intro id
    rw [Graph.setOutputs, inputs, mem_nodes_of_build built]
    constructor
    · exact fun input => ⟨.inl input, parameters id input⟩
    · rintro ⟨input | own, parameter⟩
      · exact input
      · exact mem_graphInputs.mpr (.inr (.inl ⟨own, parameter⟩))
  · rw [Graph.setOutputs, inputs]
    exact Traversal.nodup_unique _

theorem selfContained_of_build (inside : ∀ id ∈ graph.outputs, id ∈ graph.nodes) :
    graph.IsSelfContained store :=
  { inner_of_build grounded known built with outputs := inside }

end Built

end Scope

end OpGraph
