import OpGraph.Proofs.Description.Loading
import OpGraph.Proofs.Graph.Stopping

/-!
# Inference on loaded graphs

Every description that can be loaded gives a graph with distinct names, closed under reading and
bound by its parameters. Inference on it, at any time after, resolves all of its nodes or stops at
a node with a report of its operator, in whatever way the attributes and the shapes were chosen
(`infer_loaded`). Reports carry the kind and the name of the node, but for numbers that are too
long to be written.
-/
namespace OpGraph.Description

open Store (Evolves)

theorem infer_loaded [DescriptionReader] (initial store later : Store) (text : String)
    (graph : Graph) (loaded : load .library initial text = (store, .ok graph))
    (evolves : store.Evolves later) :
    (graph.nodes.map store.name).Nodup ∧
      (∀ id ∈ graph.nodes, ∀ p ∈ store.producers id, p ∈ graph.nodes) ∧
      (∀ id ∈ graph.outputs, id ∈ graph.nodes) ∧
      (∀ id, id ∈ graph.inputs ↔ id ∈ graph.nodes ∧ store.isParameter id = true) ∧
      match graph.infer later with
      | (resolved, .ok types) =>
        (∀ id ∈ graph.nodes, resolved.isResolved id = true) ∧
          graph.outputTypes resolved = .ok types
      | (resolved, .error failure) =>
        ∃ id, graph.StoppedAt resolved id ∧ resolved.Refuses id failure := by
  have wellFormed := wellFormed_of_load loaded
  have inferable := wellFormed.inferable.evolves evolves
  refine ⟨wellFormed.distinct, wellFormed.closed, wellFormed.outputs, wellFormed.inputs, ?_⟩
  split
  next resolved types inferred =>
    have accepted : (graph.infer later).2 = .ok types := by rw [inferred]
    have succeeded := inferable.infer_ok accepted
    rwa [inferred] at succeeded
  next resolved failure inferred =>
    have failed : (graph.infer later).2 = .error failure := by rw [inferred]
    have stopped := inferable.infer_error failed
    rwa [inferred] at stopped

/-- A product whose inner extents differ. -/
def mismatched : String :=
  "inputs:\n- name: a\n  shape: 2, 3\n- name: b\n  shape: 4, 5\n" ++
    "nodes:\n- name: c\n  op: Dot\n  inputs: a, b\n"

theorem infer_loaded_mismatched :
    let _reader : DescriptionReader := .plain
    ∃ store graph failure id, load .library .empty mismatched = (store, .ok graph) ∧
      (graph.infer store).2 = .error failure ∧ graph.StoppedAt (graph.infer store).1 id ∧
      (graph.infer store).1.Refuses id failure := by
  intro _reader
  let graph : Graph := ⟨none, [0, 1], [2], [0, 1, 2]⟩
  have computed : (load .library .empty mismatched).2.toOption = some graph ∧
      let store := (load .library .empty mismatched).1
      (store.producers 0 = [] ∧ store.producers 1 = [] ∧ store.producers 2 = [0, 1]) ∧
      (Graph.resolveAll store [0, 1, 2]).2.toOption = none := by
    decide +kernel
  -- From here on the store is a variable, so that nothing evaluates it again.
  obtain ⟨store, isStore⟩ : ∃ store, store = (load .library .empty mismatched).1 := ⟨_, rfl⟩
  rw [← isStore] at computed
  obtain ⟨made, reads, refused⟩ := computed
  have loaded : load .library .empty mismatched = (store, .ok graph) :=
    Prod.ext isStore.symm (Outcome.toOption_eq_some.mp made)
  have sorted : graph.topological store = .ok [0, 1, 2] := by
    simp [Graph.topological, Traversal.topological, Traversal.fromSeed, Traversal.unique,
      Traversal.sinks, Traversal.walk, List.eraseDups_cons, graph, reads]
  have inferred := infer_loaded .empty store store mismatched graph loaded (.refl store)
  have outcome := inferred.2.2.2.2
  cases ran : graph.infer store with
  | mk resolved result =>
    rw [ran] at outcome
    cases result with
    | ok types =>
      have succeeded : (graph.infer store).2 = .ok types := by rw [ran]
      obtain ⟨order, sorted', all, -⟩ := (Graph.infer_succeeds_iff _ _ _).mp succeeded
      obtain rfl := Except.ok.inj (sorted.symm.trans sorted')
      rw [all] at refused
      cases refused
    | error failure =>
      obtain ⟨id, stopped, refuses⟩ := outcome
      exact ⟨store, graph, failure, id, loaded, by rw [ran], by rwa [ran], by rwa [ran]⟩

end OpGraph.Description
