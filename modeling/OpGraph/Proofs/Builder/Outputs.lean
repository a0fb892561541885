import OpGraph.Proofs.Builder.Evaluation
import OpGraph.Proofs.Graph.Outputs

/-!
# Outputs that a scope was told

The inputs of the graph of a scope are nodes of the graph, those from outside included. The outputs
that the scope was told are taken over as they are, also where they are no nodes of the graph
(`outputs_of_run`). So whether the graph is self-contained is up to these outputs alone.
-/
namespace OpGraph

namespace Scope

variable {store : Store} {scope : Scope} {graph : Graph}

theorem mem_graphOutputs {id : Nat} :
    id ∈ scope.graphOutputs store ↔ id ∈ scope.outputs ∨
      id ∈ Traversal.sinks store.producers scope.nodes ∧ store.isParameter id = false := by
  rw [graphOutputs, Traversal.mem_unique, List.mem_append, List.mem_filter]
  simp

/-- An output that the scope was not told is a node of it. -/
theorem mem_outputs_of_build (built : scope.build store = .ok graph) :
    (∀ id ∈ scope.outputs, id ∈ graph.outputs) ∧
      ∀ id ∈ graph.outputs, id ∈ graph.nodes ∨ id ∈ scope.outputs := by
  obtain ⟨-, -, -, -, outputs⟩ := build_eq_ok built
  rw [outputs]
  refine ⟨fun id told => mem_graphOutputs.mpr (.inl told), fun id output => ?_⟩
  rcases mem_graphOutputs.mp output with told | ⟨sink, -⟩
  · exact .inr told
  · exact .inl ((mem_nodes_of_build built).mpr (.inr (List.mem_filter.mp sink).1))

end Scope

namespace Workspace

variable [DescriptionReader] [Host]

/-- Whenever a session leaves a scope and takes up its graph, and whatever is done afterwards: the
inputs of the graph are nodes of it, and so are its outputs but for those that the scope was told.
With these inside as well the graph is self-contained. In any case its nodes are closed under
reading, so that it is the outputs outside that keep it from being printed, and that inference and
evaluation can miss once all nodes have types and values. Besides these only a number that is too
long to be written can get in the way of printing and of inference. -/
theorem outputs_of_run (actions later : List Action) (builder : Nat) (failed : Bool)
    (graph : Graph)
    (added : ((initial.run actions).perform (.exit builder failed)).1.graphs =
      (initial.run actions).graphs.push graph) :
    let ws := initial.run actions
    let store := ((ws.perform (.exit builder failed)).1.run later).store
    (∀ id ∈ graph.inputs, id ∈ graph.nodes) ∧
      (∃ scope rest, ws.scopes.pop? = some (scope, rest) ∧
        (∀ id ∈ scope.outputs, id ∈ graph.outputs) ∧
        (∀ id ∈ graph.outputs, id ∈ graph.nodes ∨ id ∈ scope.outputs) ∧
        ((∀ id ∈ scope.outputs, id ∈ graph.nodes) → graph.IsSelfContained store)) ∧
      graph.TreatsOutputs store := by
  intro ws store
  have began := evolves_initial actions
  have after : ws.store.Evolves store :=
    (ws.becomes_exit builder failed).evolves.trans (evolves_run _ later)
  obtain ⟨scope, rest, popped, built⟩ := build_of_graphs added
  have nodes := found_of_pop popped (hasNode_of_run actions)
  have inner := (Scope.inner_of_build (Store.isGrounded_empty.evolves began) nodes built).keeps
    after.keeps
  obtain ⟨told, outputs⟩ := Scope.mem_outputs_of_build built
  refine ⟨fun id input => ((inner.inputs id).mp input).1,
    ⟨scope, rest, popped, told, outputs, fun inside => ?_⟩,
    Graph.treatsOutputs inner (began.trans after)⟩
  have all : ∀ id ∈ graph.outputs, id ∈ graph.nodes :=
    fun id output => (outputs id output).elim (fun own => own) (inside id)
  exact { inner with outputs := all }

omit [DescriptionReader] [Host] in
/-- A parameter made outside is told to be the output of a scope with no nodes: the graph cannot be
printed. -/
theorem outputs_of_run_outside :
    let _host : Host := .wide
    let _reader : DescriptionReader := .plain
    let actions : List Action :=
      [.create false (.parameter ⟨.ofLengths [2], .int32⟩) [] (some "x"), .enter none false,
        .addOutputs [0]]
    let graph : Graph := ⟨none, [], [0], []⟩
    let left := ((initial.run actions).perform (.exit 0 false)).1
    left.graphs = #[graph] ∧ graph.text left.store = .error .seedOutside := by
  intro _host _reader actions graph left
  have added : left.graphs = (initial.run actions).graphs.push graph := by decide +kernel
  obtain ⟨-, -, treats⟩ := outputs_of_run actions [] 0 false graph added
  exact ⟨added, treats.refused 0 (by decide) (by decide)⟩

end Workspace

end OpGraph
