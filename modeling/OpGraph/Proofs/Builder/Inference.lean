import OpGraph.Proofs.Builder.Session
import OpGraph.Proofs.Graph.Reordering

/-!
# Inference over a session

Which nodes of a graph can be resolved, and to which types, is settled when its nodes are made.
Neither the order in which the graph lists them nor what was resolved before makes a difference,
and to try again neither helps nor harms (`infer_any_order`).
-/
namespace OpGraph.Workspace

open Store (Evolves)

variable [DescriptionReader] [Host]

/-- At any point of a session take distinct nodes that read nodes among them only, of generic
operators only such that what they hand on can be written. Take two graphs that list the nodes in
any two orders and have the same outputs among them, and let the session go on in two ways, by which
some of the nodes may be resolved. Inference gives the types of the outputs for both graphs or for
none, and then every node has the same types in both. What it gives it gives again whatever is done
to the nodes afterwards. Inference that is tried again at once ends with the same types or the same
failure and leaves all nodes as they are. -/
theorem infer_any_order (actions later later' : List Action) (graph graph' : Graph)
    (isClosed : Graph.IsClosed (initial.run actions).store graph.nodes)
    (reportable : Graph.IsReportable (initial.run actions).store graph.nodes)
    (reordered : graph.nodes.Perm graph'.nodes) (outputs : graph'.outputs = graph.outputs)
    (inside : ∀ id ∈ graph.outputs, id ∈ graph.nodes) :
    let first := graph.infer ((initial.run actions).run later).store
    let second := graph'.infer ((initial.run actions).run later').store
    (∀ types, first.2 = .ok types ↔ second.2 = .ok types) ∧
      (∀ types, first.2 = .ok types → ∀ id ∈ graph.nodes, ∃ types,
        first.1.outputTypes id = .ok types ∧ second.1.outputTypes id = .ok types) ∧
      (∀ types, first.2 = .ok types → ∀ final, first.1.Evolves final →
        graph.infer final = (final, .ok types)) ∧
      graph.infer first.1 = first := by
  intro first second
  have began := evolves_initial actions
  have before := (initial.run actions).evolves_run later
  have before' := (initial.run actions).evolves_run later'
  have found := fun id member => (before.keeps.becomes (isClosed.found id member)).1
  have reports := reportable.reports began before isClosed.found
  have forth := fun types (succeeded : first.2 = .ok types) =>
    Graph.infer_reordered began before before' isClosed reportable reordered outputs inside
      succeeded
  refine ⟨fun types => ⟨fun succeeded => (forth types succeeded).1, fun succeeded => ?_⟩,
    fun types succeeded => (forth types succeeded).2, ?_, Graph.infer_infer _ graph found reports⟩
  · have inside' : ∀ id ∈ graph'.outputs, id ∈ graph'.nodes := by
      rw [outputs]
      exact fun id output => reordered.mem_iff.mp (inside id output)
    exact (Graph.infer_reordered began before' before (isClosed.perm reordered)
      (reportable.perm reordered) reordered.symm outputs.symm inside' succeeded).1
  · intro types succeeded final after
    -- Inference of the same graph in the two stores: the later one has nothing left to resolve.
    have evolves := before.trans (Store.evolves_inferGraph _ graph)
    have again := Graph.infer_reordered began before (evolves.trans after) isClosed reportable
      (.refl _) rfl inside succeeded
    obtain ⟨order, sorted, ran, -⟩ := (Graph.infer_succeeds_iff _ _ _).mp again.1
    have members := (Traversal.topological_mem order sorted).2
    have resolved : ∀ id ∈ order, final.isResolved id = true := by
      intro id member
      obtain ⟨types, typed, -⟩ := again.2 id (members id member)
      rw [Store.outputTypes_eq_ok] at typed
      exact after.keeps.isResolved (Option.isSome_iff_exists.mpr ⟨types, typed⟩)
    have unchanged : (graph.infer final).1 = final := by
      rw [Graph.infer_store final graph order sorted,
        Graph.resolveAll_of_isResolved order final resolved]
    exact Prod.ext unchanged again.1

omit [DescriptionReader] [Host] in
/-- Two chained slices in the reverse order, after the first one was resolved. -/
theorem infer_any_order_slices :
    let _host : Host := .wide
    let _reader : DescriptionReader := .plain
    let actions : List Action :=
      [.create false (.parameter ⟨.ofLengths [5], .int32⟩) [] (some "x"),
        .create false (.slice (.ofInts [0] [5] [2])) [0] none,
        .create false (.slice (.ofInts [0] [2] [1])) [1] none]
    let graph : Graph := ⟨none, [0], [2], [0, 1, 2]⟩
    let reversed : Graph := ⟨none, [0], [2], [2, 1, 0]⟩
    let types := [⟨.ofLengths [2], .int32⟩]
    (graph.infer (initial.run actions).store).2 = .ok types ∧
      (reversed.infer ((initial.run actions).run [.inferNode 1]).store).2 = .ok types := by
  intro _host _reader actions graph reversed types
  have isClosed : Graph.IsClosed (initial.run actions).store graph.nodes :=
    ⟨by decide +kernel, by decide, by decide +kernel⟩
  have specific : ∀ id ∈ graph.nodes,
      ((initial.run actions).store.operator id).isGeneric = false := by
    decide +kernel
  have reportable : Graph.IsReportable (initial.run actions).store graph.nodes := by
    intro id member generic
    rw [specific id member] at generic
    cases generic
  have any := infer_any_order actions [] [.inferNode 1] graph reversed isClosed reportable
    (by decide) rfl (by decide)
  have reads : [0, 1, 2].map (initial.run actions).store.producers = [[], [0], [1]] := by
    decide +kernel
  have computed : ((Graph.resolveAll (initial.run actions).store [0, 1, 2]).2.toOption = some ()) ∧
      (graph.outputTypes (Graph.resolveAll (initial.run actions).store [0, 1, 2]).1).toOption =
        some types ∧ types.all TensorType.isShort = true := by
    decide +kernel
  simp only [Outcome.toOption_eq_some] at computed
  have sorted : graph.topological (initial.run actions).store = .ok [0, 1, 2] := by
    generalize (initial.run actions).store = store at reads
    simp only [List.map_cons, List.map_nil, List.cons.injEq] at reads
    simp [Graph.topological, Traversal.topological, Traversal.fromSeed, Traversal.unique,
      Traversal.sinks, Traversal.walk, List.eraseDups_cons, graph, reads]
  have succeeded := (Graph.infer_succeeds_iff _ graph types).mpr ⟨[0, 1, 2], sorted, computed⟩
  exact ⟨succeeded, (any.1 types).mp succeeded⟩

end OpGraph.Workspace
