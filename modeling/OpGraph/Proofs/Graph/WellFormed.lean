import OpGraph.Proofs.Graph.Evolution
import OpGraph.Proofs.Operator.Evaluation
import OpGraph.Proofs.Operator.Overlong

/-!
# Well-formed graphs

A self-contained graph has distinct names, what its nodes read comes before them in the graph, and
its inputs are its parameters. Whatever is done to the store, it stays so (`IsSelfContained.keeps`).
A graph as descriptions make it is self-contained, all numbers that stand in it can be written, and
its other nodes are operations with integer attributes that are not resolved yet. Inference keeps
all of this but the last, and leaves every operation with the types that its operator infers from
those of its producers (`WellFormed.isInferred`).
-/
namespace OpGraph.Graph

open Store

variable {store : Store} {graph : Graph}

structure IsSelfContained (store : Store) (graph : Graph) : Prop where
  found : ∀ id ∈ graph.nodes, (store.find? id).isSome = true
  distinct : (graph.nodes.map store.name).Nodup
  closed : ∀ id ∈ graph.nodes, ∀ p ∈ store.producers id, p ∈ graph.nodes
  descending : ∀ id ∈ graph.nodes, ∀ p ∈ store.producers id, p < id
  inputs : ∀ id, id ∈ graph.inputs ↔ id ∈ graph.nodes ∧ store.isParameter id = true
  once : graph.inputs.Nodup
  outputs : ∀ id ∈ graph.outputs, id ∈ graph.nodes

structure WellFormed (store : Store) (graph : Graph) : Prop extends graph.IsSelfContained store where
  integral : ∀ id ∈ graph.nodes, store.isParameter id = false → (store.operator id).IsIntegral
  fresh : ∀ id ∈ graph.nodes, (store.node id).types = initialTypes (store.operator id)
  short : ∀ id ∈ graph.nodes, (store.operator id).isShort = true

/-- A well-formed graph whose nodes are all resolved. -/
structure IsInferred (store : Store) (graph : Graph) : Prop extends graph.IsSelfContained store where
  integral : ∀ id ∈ graph.nodes, store.isParameter id = false → (store.operator id).IsIntegral
  computed : ∀ id ∈ graph.nodes, store.isParameter id = false →
    ∃ types, store.outputTypes id = .ok types ∧ store.computeTypes id = .ok types

/-- Distinct names tell the nodes apart. -/
theorem IsSelfContained.eq_of_name (selfContained : graph.IsSelfContained store) {id other : Nat}
    (member : id ∈ graph.nodes) (member' : other ∈ graph.nodes)
    (same : store.name id = store.name other) : id = other :=
  List.inj_on_of_nodup_map selfContained.distinct member member' same

theorem IsSelfContained.keeps (selfContained : graph.IsSelfContained store) {later : Store}
    (keeps : store.Keeps later) : graph.IsSelfContained later := by
  have becomes := fun id member => keeps.becomes (selfContained.found id member)
  have producers : ∀ id ∈ graph.nodes, later.producers id = store.producers id :=
    fun id member => (becomes id member).2.producers
  refine ⟨fun id member => (becomes id member).1, ?_, ?_, ?_, ?_, selfContained.once,
    selfContained.outputs⟩
  · rw [keeps.names selfContained.found]
    exact selfContained.distinct
  · intro id member
    rw [producers id member]
    exact selfContained.closed id member
  · intro id member
    rw [producers id member]
    exact selfContained.descending id member
  · intro id
    rw [selfContained.inputs id]
    refine and_congr_right fun member => ?_
    rw [keeps.isParameter (selfContained.found id member)]

theorem isOrder_of_descending (distinct : (graph.nodes.map store.name).Nodup)
    (descending : ∀ id ∈ graph.nodes, ∀ p ∈ store.producers id, p < id) :
    ∃ order, graph.topological store = .ok order ∧
      Traversal.IsOrder store.producers graph.nodes order :=
  Traversal.isOrder_topological (List.Nodup.of_map _ distinct) descending

namespace WellFormed

variable (wellFormed : graph.WellFormed store)

include wellFormed

/-- A parameter is resolved from the start and no other node is. -/
theorem isResolved_eq_isParameter {id : Nat} (member : id ∈ graph.nodes) :
    store.isResolved id = store.isParameter id := by
  rw [isResolved, wellFormed.fresh id member, isParameter]
  cases store.operator id <;> rfl

theorem isInferred (types : List TensorType) (succeeded : (infer store graph).2 = .ok types) :
    graph.IsInferred (infer store graph).1 := by
  have resolved := infer_resolves store graph types succeeded wellFormed.found
    wellFormed.descending
  have advances := infer_advances store graph
  have parameters (id : Nat) : (infer store graph).1.isParameter id = store.isParameter id := by
    rw [isParameter, advances.operator id, isParameter]
  have computed : ∀ id ∈ graph.nodes, (infer store graph).1.IsComputed id := by
    intro id member
    obtain ⟨order, sorted, -⟩ := (infer_succeeds_iff store graph types).mp succeeded
    rw [infer_store store graph order sorted]
    refine isComputed_resolveAll store order id fun operation types typed => ?_
    -- Before inference an operation has no types.
    have unresolved := wellFormed.isResolved_eq_isParameter member
    rw [operation, isResolved, typed] at unresolved
    cases unresolved
  refine ⟨wellFormed.toIsSelfContained.keeps (evolves_inferGraph store graph).keeps, ?_, ?_⟩
  · simpa only [parameters, advances.operator] using wellFormed.integral
  · intro id member operation
    obtain ⟨types, typed⟩ := Option.isSome_iff_exists.mp (resolved id member)
    exact ⟨types, by rw [Store.outputTypes, typed], computed id member operation types typed⟩

end WellFormed

end OpGraph.Graph
